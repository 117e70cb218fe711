import Mathlib.Tactic.SplitIfs
import ResourceNames.Proofs.Namer.Effect
import ResourceNames.Proofs.Namer.Format

set_option autoImplicit false

/-! # What a strict namer may answer

A strict namer is made only if every key of every pattern is bound, and so every key of every parent
is bound, since a parent has no keys of its own. What a key is bound to is a scalar, or nothing
where a pointer on the way lacks contents. So neither formatting nor parsing can fail for the shape
of a record: what is left is a value that is absent and a token that is no scalar of its type. -/

namespace ResourceNames.Namer

variable {ι : Type} {schema : Schema ι} {type : ι} {namer : Namer schema type}
  {record : Record ι} {key : String}

/-! ## Every key is bound -/

/-- Every one of the keys is bound. -/
def Binds (namer : Namer schema type) (keys : List String) : Prop :=
  ∀ key ∈ keys, ∃ binding, namer.bindings.get? key = some binding

/-- The search for a key that is not bound finds none if every key is bound. -/
theorem find?_unbound_eq_none_iff {keys : List String} :
    (keys.find? fun key => !namer.bindings.contains key) = none ↔ namer.Binds keys := by
  rw [List.find?_eq_none]
  refine forall₂_congr fun key _ => ?_
  rw [Bool.not_eq_true', Bool.not_eq_false, Bindings.contains, Option.isSome_iff_exists]

theorem missingKey?_eq_none_iff :
    missingKey? namer.patterns namer.bindings = none ↔
      ∀ pattern ∈ namer.patterns.toList, namer.Binds pattern.template.keys := by
  simp only [missingKey?, List.findSome?_eq_none_iff, Option.map_eq_none_iff,
    find?_unbound_eq_none_iff]

/-- The templates of a strict namer have no key that is not bound. -/
theorem binds_of_strict [DecidableEq ι] {patterns : List String} {options : Namer.Options}
    (h : compile schema type patterns options = .ok namer) (hstrict : options.strict = true)
    {pattern : Pattern} (hpattern : pattern ∈ namer.patterns.toList) :
    namer.Binds pattern.template.keys := by
  obtain ⟨hset, hbindings⟩ := compile_eq_ok h
  have hmissing : missingKey? namer.patterns namer.bindings = none := by
    simp only [compile, hset, hbindings, hstrict, if_true, Except.mapError, bind, Except.bind] at h
    split at h
    · cases h
    · assumption
  exact missingKey?_eq_none_iff.1 hmissing pattern hpattern

/-- A parent has no keys that its template does not have. -/
theorem Binds.parent {template : Template} (h : namer.Binds template.keys) :
    namer.Binds template.parent.keys := by
  intro key hkey
  exact h key (template.keys_parent_prefix.subset hkey)

/-- What templates a strict namer has for a kind of name, their keys are bound. -/
theorem binds_of_templateFor [DecidableEq ι] {patterns : List String} {options : Namer.Options}
    (h : compile schema type patterns options = .ok namer) (hstrict : options.strict = true)
    {pattern : Pattern} (hpattern : pattern ∈ namer.patterns.toList) {kind : NameKind}
    {template : Template} (htemplate : templateFor kind pattern = some template) :
    namer.Binds template.keys := by
  have hbinds := binds_of_strict h hstrict hpattern
  cases kind with
  | own =>
      obtain rfl := Option.some.inj htemplate
      exact hbinds
  | parent =>
      rw [templateFor] at htemplate
      split_ifs at htemplate
      obtain rfl := Option.some.inj htemplate
      exact hbinds.parent

/-! ## Formatting -/

/-- What formatting may answer where every key is bound. -/
inductive FormatAnswer (namer : Namer schema type) (kind : NameKind) (record : Record ι)
    (selector : Selector) : Except NamerError String → Prop
  | name (name : String) : FormatAnswer namer kind record selector (.ok name)
  | invalidIndex (index : Int) (hselector : selector = .only index)
      (hindex : ∀ pattern ∈ namer.patterns.toList, (pattern.index : Int) ≠ index) :
      FormatAnswer namer kind record selector (.error (.invalidIndex index))
  /-- The value of a key is zero, empty or behind a pointer without contents. -/
  | absent (key value : String) (h : namer.Unfit record key (.invalidValue key value .absent)) :
      FormatAnswer namer kind record selector
        (.error (.noPatternFound kind namer.typeName (some (.invalidValue key value .absent))))
  /-- Every selected pattern is at root level. -/
  | root {patterns : List Pattern} (hkind : kind = .parent)
      (hselected : namer.selected selector = .ok patterns)
      (hroot : ∀ pattern ∈ patterns, pattern.isRoot = true) :
      FormatAnswer namer kind record selector (.error (.noPatternFound kind namer.typeName none))

/-- The value of a key that is bound can only be absent. -/
theorem absent_of_unfit (hleads : namer.bindings.LeadFrom schema type)
    (hrecord : schema.Typed type record)
    (hbound : ∃ binding, namer.bindings.get? key = some binding) {error : KeyError}
    (h : namer.Unfit record key error) :
    ∃ value, error = .invalidValue key value .absent := by
  obtain ⟨binding, hbinding⟩ := hbound
  obtain ⟨places, leaf, hlead, -⟩ := hleads key binding hbinding
  have hread : ∀ {other}, namer.bindings.get? key = some other →
      (∃ scalar, schema.read other.path record = .scalar scalar) ∨
        schema.read other.path record = .nil := by
    intro other hother
    obtain rfl := Option.some.inj (hbinding.symm.trans hother)
    rcases hlead.read hrecord with ⟨scalar, -, hscalar, -⟩ | ⟨hnil, -⟩
    · exact .inl ⟨scalar, hscalar⟩
    · exact .inr hnil
  cases h with
  | unbound hnone =>
      rw [hbinding] at hnone
      cases hnone
  | @absent other scalar _ _ _ => exact ⟨scalar.text, rfl⟩
  | nil _ _ => exact ⟨"None", rfl⟩
  | record hother hinner =>
      rcases hread hother with ⟨scalar, hscalar⟩ | hnil
      · rw [hscalar] at hinner
        cases hinner
      · rw [hnil] at hinner
        cases hinner
  | unsupported hother hnone =>
      rcases hread hother with ⟨scalar, hscalar⟩ | hnil
      · rw [hscalar] at hnone
        cases hnone
      · rw [hnil] at hnone
        cases hnone

/-- Where the keys of templates are bound, it is for an absent value that none can be filled. -/
theorem absent_of_fillFirst (hleads : namer.bindings.LeadFrom schema type)
    (hrecord : schema.Typed type record) {templates : List Template}
    (hbinds : ∀ template ∈ templates, namer.Binds template.keys) {last cause : Option KeyError}
    (h : namer.fillFirst record last templates = .error cause) :
    (templates = [] ∧ cause = last) ∨
      ∃ key value, cause = some (.invalidValue key value .absent) ∧
        namer.Unfit record key (.invalidValue key value .absent) := by
  induction templates generalizing last with
  | nil => exact .inl ⟨rfl, (Except.error.inj h).symm⟩
  | cons first rest ih =>
      rw [List.forall_mem_cons] at hbinds
      right
      cases hfill : namer.fill record first with
      | ok name =>
          rw [fillFirst, hfill] at h
          cases h
      | error error =>
          rw [fillFirst, hfill] at h
          rcases ih hbinds.2 h with ⟨-, rfl⟩ | habsent
          · obtain ⟨before, key, after, hkeys, -, hunfit⟩ := fill_eq_error_iff.1 hfill
            have hkey : key ∈ first.keys := by simp [hkeys]
            obtain ⟨value, rfl⟩ := absent_of_unfit hleads hrecord (hbinds.1 key hkey) hunfit
            exact ⟨key, value, rfl, hunfit⟩
          · exact habsent

/-- A selector stands for some patterns of the set, or else for an index that is not in it. -/
theorem selected_cases (hset : namer.patterns.IsValid) (selector : Selector) :
    (∃ index, selector = .only index ∧ namer.selected selector = .error (.invalidIndex index) ∧
        ∀ pattern ∈ namer.patterns.toList, (pattern.index : Int) ≠ index) ∨
      ∃ patterns, namer.selected selector = .ok patterns ∧ patterns ≠ [] ∧
        ∀ pattern ∈ patterns, pattern ∈ namer.patterns.toList := by
  cases selector with
  | all => exact .inr ⟨_, rfl, hset.nonempty, fun pattern hpattern => hpattern⟩
  | only index =>
      rw [selected]
      cases hfind : namer.patterns.toList.find? fun pattern => (pattern.index : Int) == index with
      | none =>
          refine .inl ⟨index, rfl, rfl, ?_⟩
          simpa using hfind
      | some found =>
          refine .inr ⟨[found], rfl, List.cons_ne_nil _ _, ?_⟩
          intro pattern hpattern
          rw [List.mem_singleton.1 hpattern]
          exact List.mem_of_find?_eq_some hfind

theorem formatAnswer_of_binds (hset : namer.patterns.IsValid)
    (hleads : namer.bindings.LeadFrom schema type) (hrecord : schema.Typed type record)
    (kind : NameKind) (selector : Selector)
    (hbinds : ∀ pattern ∈ namer.patterns.toList, ∀ template,
      templateFor kind pattern = some template → namer.Binds template.keys) :
    namer.FormatAnswer kind record selector (namer.formatKind kind record selector) := by
  rw [formatKind]
  rcases selected_cases hset selector with
    ⟨index, hselector, herror, hindex⟩ | ⟨patterns, hok, hne, hpatterns⟩
  · rw [herror]
    exact .invalidIndex index hselector hindex
  · rw [hok]
    have htemplates : ∀ template ∈ patterns.filterMap (templateFor kind),
        namer.Binds template.keys := by
      intro template htemplate
      obtain ⟨pattern, hpattern, hsome⟩ := List.mem_filterMap.1 htemplate
      exact hbinds pattern (hpatterns pattern hpattern) template hsome
    change namer.FormatAnswer kind record selector
      ((namer.fillFirst record none (patterns.filterMap (templateFor kind))).mapError _)
    cases hfill : namer.fillFirst record none (patterns.filterMap (templateFor kind)) with
    | ok name => exact .name name
    | error cause =>
        rcases absent_of_fillFirst hleads hrecord htemplates hfill with
          ⟨hnil, rfl⟩ | ⟨key, value, rfl, hunfit⟩
        · -- A pattern always has a template for its own name, so that none was left out.
          have hnone := List.filterMap_eq_nil_iff.1 hnil
          cases kind with
          | own =>
              obtain ⟨pattern, hpattern⟩ := List.exists_mem_of_ne_nil patterns hne
              cases hnone pattern hpattern
          | parent =>
              refine .root rfl hok ?_
              intro pattern hpattern
              simpa [templateFor] using hnone pattern hpattern
        · exact .absent key value hunfit

/-! ## Parsing -/

/-- What parsing may answer where every key is bound. -/
inductive ParseAnswer (namer : Namer schema type) (unmatched : NamerError) :
    Except NamerError Nat → Prop
  | index (index : Nat) : ParseAnswer namer unmatched (.ok index)
  | unmatched : ParseAnswer namer unmatched (.error unmatched)
  /-- The token of a key is no scalar of the type of its field. -/
  | malformed (key token : String) {binding : Binding} {places : List Nat} {leaf : ScalarType}
      {error : ScalarError} (hbinding : namer.bindings.get? key = some binding)
      (hlead : schema.LeadsTo type binding.path places leaf)
      (hparse : leaf.parse token = .error error) :
      ParseAnswer namer unmatched (.error (.key (.invalidValue key token (.malformed error))))

theorem parseAnswer_of_assign (hschema : schema.IsDerived)
    (hleads : namer.bindings.LeadFrom schema type) (hrecord : schema.Typed type record)
    {unmatched : NamerError} {pairs : List (String × String)}
    (hbinds : namer.Binds (pairs.map Prod.fst)) {error : KeyError}
    (h : (namer.assign pairs record).2 = .error error) :
    namer.ParseAnswer unmatched (.error (.key error)) := by
  induction pairs generalizing record with
  | nil => cases h
  | cons first rest ih =>
      obtain ⟨key, token⟩ := first
      obtain ⟨⟨binding, hbinding⟩, hrest⟩ := List.forall_mem_cons.1 hbinds
      obtain ⟨places, leaf, hlead, -⟩ := hleads key binding hbinding
      have hnext := hlead.typed_assign hschema hrecord token
      by_cases htoken : token = Text.wildcard
      · rw [assign_wildcard hbinding htoken] at h
        exact ih hrecord hrest h
      · cases hparse : leaf.parse token with
        | ok new =>
            rw [assign_ok hbinding htoken (hlead.assign_ok hschema hrecord hparse).1] at h
            exact ih hnext hrest h
        | error fault =>
            rw [assign_error hbinding htoken (hlead.assign_error hschema hrecord hparse).1] at h
            obtain rfl := Except.error.inj h
            exact .malformed key token hbinding hlead hparse

theorem parseAnswer_of_assignMatch (hschema : schema.IsDerived)
    (hleads : namer.bindings.LeadFrom schema type) (hrecord : schema.Typed type record)
    (unmatched : NamerError) (index : Nat) {template : Template} (tokens : List String)
    (hbinds : namer.Binds template.keys) :
    namer.ParseAnswer unmatched (namer.assignMatch index template tokens record).2 := by
  have hpairs : namer.Binds ((template.keys.zip tokens).map Prod.fst) := by
    intro key hkey
    obtain ⟨pair, hpair, rfl⟩ := List.mem_map.1 hkey
    exact hbinds pair.1 (List.of_mem_zip hpair).1
  rw [assignMatch]
  cases hassign : namer.assign (template.keys.zip tokens) record with
  | mk after result =>
      cases result with
      | ok _ => exact .index index
      | error error => exact parseAnswer_of_assign hschema hleads hrecord hpairs (by rw [hassign])

/-! ## Every answer -/

/-- **A strict namer fails for values alone.** Formatting answers with a name, or refuses an index
that is not in the set or a value that is absent; for parents there may be nothing to format at all.
Parsing answers with an index, or refuses a text that nothing matches or a token that is no scalar
of the type of its field. That a key is not bound, or bound to something that is no scalar, is never
the answer. -/
theorem strict_answers [DecidableEq ι] (hschema : schema.IsDerived) {patterns : List String}
    {options : Namer.Options} (h : compile schema type patterns options = .ok namer)
    (hstrict : options.strict = true) (hrecord : schema.Typed type record) :
    (∀ selector, namer.FormatAnswer .own record selector (namer.format record selector)) ∧
    (∀ selector,
      namer.FormatAnswer .parent record selector (namer.formatParent record selector)) ∧
    (∀ name, namer.ParseAnswer (.invalidName name) (namer.parse name record).2) ∧
    ∀ parent, namer.ParseAnswer (.invalidParent parent) (namer.parseParent parent record).2 := by
  have hset := patterns_isValid h
  have hleads := bindings_leadFrom hschema h
  have hbinds : ∀ kind, ∀ pattern ∈ namer.patterns.toList, ∀ template,
      templateFor kind pattern = some template → namer.Binds template.keys := by
    intro kind pattern hpattern template htemplate
    exact binds_of_templateFor h hstrict hpattern htemplate
  refine ⟨?_, ?_, ?_, ?_⟩
  · intro selector
    exact formatAnswer_of_binds hset hleads hrecord .own selector (hbinds .own)
  · intro selector
    exact formatAnswer_of_binds hset hleads hrecord .parent selector (hbinds .parent)
  · intro name
    rw [parse]
    cases hmatch : namer.patterns.matchName? name with
    | none => exact .unmatched
    | some found =>
        obtain ⟨pattern, tokens⟩ := found
        obtain ⟨hpattern, -⟩ := hset.matchName?_eq_some_iff.1 hmatch
        exact parseAnswer_of_assignMatch hschema hleads hrecord _ pattern.index tokens
          (binds_of_strict h hstrict hpattern)
  · intro parent
    rw [parseParent]
    cases hmatch : namer.patterns.matchParent? parent with
    | none => exact .unmatched
    | some found =>
        obtain ⟨pattern, tokens⟩ := found
        obtain ⟨hpattern, -⟩ := hset.matchParent?_eq_some_iff.1 hmatch
        exact parseAnswer_of_assignMatch hschema hleads hrecord _ pattern.index tokens
          (binds_of_strict h hstrict hpattern).parent

/-- A book that stands nowhere has no parent, for its shelf has no name. -/
theorem strict_answers_newBook :
    Library.bookNamer.FormatAnswer .parent (Library.schema.newRecord .book) .all
      (.error (.noPatternFound .parent "Book" (some (.invalidValue "floor" "None" .absent)))) := by
  obtain ⟨-, hparent, -⟩ := strict_answers Library.isDerived_schema Library.compile_bookNamer rfl
    (Library.isDerived_schema.newRecord_typed .book)
  have hanswer : Library.bookNamer.formatParent (Library.schema.newRecord .book) .all =
      .error (.noPatternFound .parent "Book" (some (.invalidValue "floor" "None" .absent))) := by
    decide +kernel
  rw [← hanswer]
  exact hparent .all

end ResourceNames.Namer
