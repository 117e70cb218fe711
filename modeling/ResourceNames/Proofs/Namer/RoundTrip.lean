import ResourceNames.Proofs.Namer.Effect
import ResourceNames.Proofs.Namer.Format
import ResourceNames.Proofs.Scalar.Basic

set_option autoImplicit false

/-! # Formatting and parsing again

A name that was formatted matches its own pattern, with the texts of the values as tokens, as long
as each of these stands for itself as a segment. No pattern of another shape matches, so that the
first match is the first pattern of the same shape. Where its keys are the same as well, parsing
assigns to each key the value that the record has for it; several keys of one field have the same
value, so that it does not matter which of them is assigned last. -/

namespace ResourceNames.Namer

variable {ι : Type} {schema : Schema ι} {type : ι} {namer : Namer schema type}
  {record target : Record ι} {pattern : Pattern} {name : String}

/-! ## The tokens of a formatted name -/

/-- The strings among the values for some keys are fit to be segments of a name. -/
theorem isSegment_of_value {keys : List String}
    (hstrings : ∀ key ∈ keys, ∀ binding text, namer.bindings.get? key = some binding →
      schema.read binding.path record = .scalar (.string text) →
      Text.separator ∉ text.toList ∧ text ≠ Text.wildcard ∧ isBraced text = false)
    {key : String} (hkey : key ∈ keys) {scalar : Scalar}
    (hvalue : namer.value record key = .ok scalar) :
    scalar.IsSegment ∧ scalar.isZero = false := by
  obtain ⟨binding, hbinding, hread, hpresent⟩ := value_eq_ok_iff.1 hvalue
  rw [← Scalar.isZero_iff, Bool.not_eq_true] at hpresent
  refine ⟨?_, hpresent⟩
  cases scalar with
  | integer type number => trivial
  | float format number => trivial
  | string text => exact hstrings key hkey binding text hbinding hread

/-- The tokens of a formatted name are the texts of the values. -/
theorem tokens?_of_fill {template : Template} (hvalid : ValidSegments template.segments)
    (hne : template.segments ≠ []) {values : List Scalar}
    (hlength : values.length = template.keys.length)
    (hvalues : ∀ scalar ∈ values, scalar.IsSegment ∧ scalar.isZero = false)
    (hname : Text.ofSegments
      (Template.fill template.segments (values.map Scalar.text)) = name) :
    template.tokens? name = some (values.map Scalar.text) := by
  have hcount : (values.map Scalar.text).length = template.keys.length := by
    rw [List.length_map, hlength]
  have hparts : ∀ part ∈ Template.fill template.segments (values.map Scalar.text),
      Text.separator ∉ part.toList := by
    intro part hpart
    rcases Template.mem_fill hcount hpart with hliteral | htext
    · exact hvalid.separator_not_mem_literal hliteral
    · obtain ⟨scalar, hscalar, rfl⟩ := List.mem_map.1 htext
      exact (hvalues scalar hscalar).1.separator_not_mem
  rw [Template.tokens?_eq_some_iff hne]
  refine ⟨hcount, ?_, ?_⟩
  · intro token htoken
    obtain ⟨scalar, hscalar, rfl⟩ := List.mem_map.1 htoken
    exact (hvalues scalar hscalar).1.isToken (hvalues scalar hscalar).2
  · rw [← hname, Text.segments_ofSegments (Template.fill_ne_nil hne _) hparts]

/-- A name that matches a pattern is matched by the first pattern of the same shape. -/
theorem matchName?_of_tokens? (hset : namer.patterns.IsValid)
    (hpattern : pattern ∈ namer.patterns.toList) {tokens : List String}
    (htokens : pattern.template.tokens? name = some tokens) :
    ∃ found ∈ namer.patterns.toList, namer.patterns.matchName? name = some (found, tokens) ∧
      found.template.shape = pattern.template.shape ∧
      ∀ other ∈ namer.patterns.toList, other.template.shape = pattern.template.shape →
        found.index ≤ other.index :=
  hset.exists_first_of_shape (fun _ hmem => hset.validSegments hmem) hpattern
    (hset.segments_ne_nil hpattern) htokens

/-! ## Assigning the values of a record -/

/-- The token is the text of the value that a record has for the key, and no wildcard. -/
def Carries (namer : Namer schema type) (record : Record ι) (pair : String × String) : Prop :=
  ∃ binding scalar, namer.bindings.get? pair.1 = some binding ∧
    schema.read binding.path record = .scalar scalar ∧ pair.2 = scalar.text ∧
    pair.2 ≠ Text.wildcard

theorem carries_of_values {keys : List String} {values : List Scalar}
    (hvalues : keys.map (namer.value record) = values.map .ok)
    (hsegments : ∀ scalar ∈ values, scalar.IsSegment) :
    ∀ pair ∈ keys.zip (values.map Scalar.text), namer.Carries record pair := by
  induction keys generalizing values with
  | nil => simp
  | cons key rest ih =>
      cases values with
      | nil => simp at hvalues
      | cons scalar scalars =>
          obtain ⟨hvalue, hrest⟩ := List.cons.inj hvalues
          rw [List.forall_mem_cons] at hsegments
          rw [List.map_cons, List.zip_cons_cons, List.forall_mem_cons]
          obtain ⟨binding, hbinding, hread, -⟩ := value_eq_ok_iff.1 hvalue
          exact ⟨⟨binding, scalar, hbinding, hread, rfl, hsegments.1.ne_wildcard⟩,
            ih hrest hsegments.2⟩

/-- The value that a record has at a path is read from its text there. -/
theorem parse_text_of_read {path places : List Nat} {leaf : ScalarType}
    (hlead : schema.LeadsTo type path places leaf) (hrecord : schema.Typed type record)
    {scalar : Scalar} (hread : schema.read path record = .scalar scalar) :
    leaf.parse scalar.text = .ok scalar := by
  rcases hlead.read hrecord with ⟨found, rfl, hfound, -⟩ | ⟨hnil, -⟩
  · rw [hread] at hfound
    obtain rfl := Slot.scalar.inj hfound
    exact scalar.parse_text
  · rw [hread] at hnil
    cases hnil

theorem assign_of_carries (hschema : schema.IsDerived)
    (hleads : namer.bindings.LeadFrom schema type) (hrecord : schema.Typed type record)
    (htarget : schema.Typed type target) {pairs : List (String × String)}
    (hpairs : ∀ pair ∈ pairs, namer.Carries record pair) :
    (namer.assign pairs target).2 = .ok () := by
  induction pairs generalizing target with
  | nil => rfl
  | cons first rest ih =>
      obtain ⟨key, token⟩ := first
      rw [List.forall_mem_cons] at hpairs
      obtain ⟨⟨binding, scalar, hbinding, hread, htext, htoken⟩, hrest⟩ := hpairs
      dsimp only at hbinding htext htoken
      obtain ⟨places, leaf, hlead, -⟩ := hleads key binding hbinding
      have hparse : leaf.parse token = .ok scalar := by
        rw [htext]
        exact parse_text_of_read hlead hrecord hread
      obtain ⟨hassign, -⟩ := hlead.assign_ok hschema htarget hparse
      rw [assign_ok hbinding htoken hassign]
      exact ih (hlead.typed_assign hschema htarget token) hrest

theorem exists_last {α : Type} {holds : α → Prop} {items : List α}
    (h : ∃ item ∈ items, holds item) :
    ∃ before item after, items = before ++ item :: after ∧ holds item ∧
      ∀ later ∈ after, ¬ holds later := by
  induction items with
  | nil => simp at h
  | cons first rest ih =>
      by_cases hrest : ∃ item ∈ rest, holds item
      · obtain ⟨before, item, after, rfl, hitem, hafter⟩ := ih hrest
        exact ⟨first :: before, item, after, rfl, hitem, hafter⟩
      · rw [List.exists_mem_cons_iff, or_iff_left hrest] at h
        refine ⟨[], first, rest, rfl, h, ?_⟩
        intro later hlater hholds
        exact hrest ⟨later, hlater, hholds⟩

/-- Once the values of a record have been assigned, each key reads as it does in that record. -/
theorem read_of_carries (hrecord : schema.Typed type record) {pairs : List (String × String)}
    (hpairs : ∀ pair ∈ pairs, namer.Carries record pair) {before after : Record ι}
    (heffect : namer.Effect pairs before after) {pair : String × String} (hpair : pair ∈ pairs) :
    ∃ binding scalar, namer.bindings.get? pair.1 = some binding ∧
      schema.read binding.path record = .scalar scalar ∧
      schema.read binding.path after = .scalar scalar := by
  obtain ⟨binding, scalar, hbinding, hread, -, -⟩ := hpairs pair hpair
  -- The last of the keys for the same field decides, and its value is the same.
  have hsome : ∃ next ∈ pairs, ∃ other, namer.bindings.get? next.1 = some other ∧
      other.path = binding.path := ⟨pair, hpair, binding, hbinding, rfl⟩
  obtain ⟨earlier, ⟨key, token⟩, later, hsplit, ⟨other, hother, hpath⟩, hlater⟩ :=
    exists_last hsome
  have hmem : (key, token) ∈ pairs := by simp [hsplit]
  obtain ⟨found, value, hfound, hvalue, htext, htoken⟩ := hpairs (key, token) hmem
  obtain rfl : other = found := Option.some.inj (hother.symm.trans hfound)
  rw [hpath, hread] at hvalue
  obtain rfl := Slot.scalar.inj hvalue
  obtain ⟨places, leaf, written, hlead, hparse, hafter⟩ :=
    heffect.written earlier key token later other hsplit htoken hother
      fun next hnext _ later' hbound hsame => hlater next hnext ⟨later', hbound, hsame.trans hpath⟩
  dsimp only at htext
  rw [hpath] at hlead hafter
  rw [htext, parse_text_of_read hlead hrecord hread] at hparse
  obtain rfl := Except.ok.inj hparse
  exact ⟨binding, scalar, hbinding, hread, hafter⟩

/-! ## The round trip -/

/-- **What is formatted is parsed again.** The name that a pattern gives for a record is matched by
the first pattern of the same shape, as long as no string in it has a separator, is the wildcard or
is in braces. If that pattern has the same keys, parsing the name into any record succeeds, and
leaves each key with the value that it has in the record that was formatted. -/
theorem parse_format [DecidableEq ι] (hschema : schema.IsDerived) {patterns : List String}
    {options : Namer.Options} (h : compile schema type patterns options = .ok namer)
    (hpattern : pattern ∈ namer.patterns.toList) (hrecord : schema.Typed type record)
    (htarget : schema.Typed type target)
    (hname : namer.format record (.ofInt pattern.index) = .ok name)
    (hstrings : ∀ key ∈ pattern.template.keys, ∀ binding text,
      namer.bindings.get? key = some binding →
      schema.read binding.path record = .scalar (.string text) →
      Text.separator ∉ text.toList ∧ text ≠ Text.wildcard ∧ isBraced text = false) :
    ∃ found ∈ namer.patterns.toList, ∃ tokens,
      namer.patterns.matchName? name = some (found, tokens) ∧
      found.template.shape = pattern.template.shape ∧
      (∀ other ∈ namer.patterns.toList, other.template.shape = pattern.template.shape →
        found.index ≤ other.index) ∧
      (found.template.keys = pattern.template.keys →
        (namer.parse name target).2 = .ok found.index ∧
        ∀ key ∈ pattern.template.keys, ∃ binding scalar,
          namer.bindings.get? key = some binding ∧
          schema.read binding.path record = .scalar scalar ∧
          schema.read binding.path (namer.parse name target).1 = .scalar scalar) := by
  have hset := patterns_isValid h
  have hleads := bindings_leadFrom hschema h
  rw [format_index_eq_ok_iff hset hpattern, fill_eq_ok_iff] at hname
  obtain ⟨values, hvalues, hfill⟩ := hname
  have hlength : values.length = pattern.template.keys.length := by
    simpa only [List.length_map] using (congrArg List.length hvalues).symm
  have hsegments : ∀ scalar ∈ values, scalar.IsSegment ∧ scalar.isZero = false := by
    intro scalar hscalar
    have hmem : .ok scalar ∈ pattern.template.keys.map (namer.value record) := by
      rw [hvalues]
      exact List.mem_map_of_mem hscalar
    obtain ⟨key, hkey, hvalue⟩ := List.mem_map.1 hmem
    exact isSegment_of_value hstrings hkey hvalue
  have htokens := tokens?_of_fill (hset.validSegments hpattern) (hset.segments_ne_nil hpattern)
    hlength hsegments hfill
  obtain ⟨found, hfound, hmatch, hshape, hleast⟩ := matchName?_of_tokens? hset hpattern htokens
  have hzip : (pattern.template.keys.zip (values.map Scalar.text)).map Prod.fst =
      pattern.template.keys := List.map_fst_zip (by rw [List.length_map, hlength])
  refine ⟨found, hfound, _, hmatch, hshape, hleast, ?_⟩
  intro hkeys
  have hcarries := carries_of_values hvalues fun scalar hscalar => (hsegments scalar hscalar).1
  have hassign := assign_of_carries hschema hleads hrecord htarget hcarries
  have heffect := effect_of_assign hschema hleads htarget hassign
  have hparse : namer.parse name target =
      ((namer.assign (pattern.template.keys.zip (values.map Scalar.text)) target).1,
        .ok found.index) := by
    rw [parse, hmatch]
    dsimp only
    rw [assignMatch, hkeys]
    cases hresult : namer.assign (pattern.template.keys.zip (values.map Scalar.text)) target with
    | mk after result =>
        rw [hresult] at hassign
        obtain rfl : result = .ok () := hassign
        rfl
  rw [hparse]
  refine ⟨rfl, ?_⟩
  intro key hkey
  rw [← hzip, List.mem_map] at hkey
  obtain ⟨pair, hpair, rfl⟩ := hkey
  exact read_of_carries hrecord hcarries heffect hpair

/-- A book on a shelf below ground is found there again. -/
theorem parse_format_shelved :
    ∃ found ∈ Library.bookNamer.patterns.toList, ∃ tokens,
      Library.bookNamer.patterns.matchName? "floors/-1/shelves/a/books/b" = some (found, tokens) ∧
      found.template.shape = Library.floorPattern.template.shape ∧
      (∀ other ∈ Library.bookNamer.patterns.toList,
        other.template.shape = Library.floorPattern.template.shape → found.index ≤ other.index) ∧
      (found.template.keys = Library.floorPattern.template.keys →
        (Library.bookNamer.parse "floors/-1/shelves/a/books/b"
          (Library.schema.newRecord .book)).2 = .ok found.index ∧
        ∀ key ∈ Library.floorPattern.template.keys, ∃ binding scalar,
          Library.bookNamer.bindings.get? key = some binding ∧
          Library.schema.read binding.path (Library.shelved "a" "b") = .scalar scalar ∧
          Library.schema.read binding.path (Library.bookNamer.parse "floors/-1/shelves/a/books/b"
            (Library.schema.newRecord .book)).1 = .scalar scalar) := by
  refine parse_format Library.isDerived_schema Library.compile_bookNamer (by decide)
    (Library.typed_shelved "a" "b") (Library.isDerived_schema.newRecord_typed .book)
    (by decide +kernel) ?_
  intro key hkey binding text hbinding hread
  have hkeys : key = "floor" ∨ key = "shelf" ∨ key = "book" := by
    simpa [Library.floorPattern, Template.keys, Segment.key?, eq_comm] using hkey
  rcases hkeys with rfl | rfl | rfl
  · cases hbinding
    cases hread
  · cases hbinding
    cases hread
    decide
  · cases hbinding
    cases hread
    decide

end ResourceNames.Namer
