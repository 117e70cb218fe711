import ResourceNames.Namer.Parse
import ResourceNames.Proofs.Namer.Basic
import ResourceNames.Proofs.Record.Address

set_option autoImplicit false

/-! # What parsing does to a record

Tokens are assigned one after the other. Each that is no wildcard is one write, so that parsing is a
run of writes, and its effect is that of the run: the rightmost token of several for the same field
stands, whatever is not on the way to a written field is left alone, and pointers are given contents
on the way to written fields and nowhere else. -/

namespace ResourceNames.Namer

variable {ι : Type} {schema : Schema ι} {type : ι} {namer : Namer schema type}
  {key token : String} {rest pairs : List (String × String)} {binding : Binding} {record : Record ι}

/-! ## One token -/

theorem assign_unbound (h : namer.bindings.get? key = none) :
    namer.assign ((key, token) :: rest) record =
      (record, .error (.unbound key namer.typeName)) := by
  rw [assign, h]

theorem assign_wildcard (h : namer.bindings.get? key = some binding)
    (htoken : token = Text.wildcard) :
    namer.assign ((key, token) :: rest) record = namer.assign rest record := by
  rw [assign, h]
  dsimp only
  rw [if_pos htoken]

theorem assign_ok (h : namer.bindings.get? key = some binding) (htoken : token ≠ Text.wildcard)
    (hassign : (schema.assign binding.path token record).2 = .ok ()) :
    namer.assign ((key, token) :: rest) record =
      namer.assign rest (schema.assign binding.path token record).1 := by
  rw [assign, h]
  dsimp only
  rw [if_neg htoken]
  cases hafter : schema.assign binding.path token record with
  | mk after result =>
      rw [hafter] at hassign
      obtain rfl : result = .ok () := hassign
      rfl

theorem assign_error (h : namer.bindings.get? key = some binding) (htoken : token ≠ Text.wildcard)
    {error : AssignError} (hassign : (schema.assign binding.path token record).2 = .error error) :
    namer.assign ((key, token) :: rest) record =
      ((schema.assign binding.path token record).1, .error (namer.keyError key token error)) := by
  rw [assign, h]
  dsimp only
  rw [if_neg htoken]
  cases hafter : schema.assign binding.path token record with
  | mk after result =>
      rw [hafter] at hassign
      obtain rfl : result = .error error := hassign
      rfl

/-! ## A run of tokens -/

/-- Assigning succeeds only if every key is bound, those of wildcards included. -/
theorem bound_of_assign (h : (namer.assign pairs record).2 = .ok ()) {pair : String × String}
    (hpair : pair ∈ pairs) : ∃ binding, namer.bindings.get? pair.1 = some binding := by
  induction pairs generalizing record with
  | nil => simp at hpair
  | cons first rest ih =>
      obtain ⟨key, token⟩ := first
      cases hbinding : namer.bindings.get? key with
      | none =>
          rw [assign_unbound hbinding] at h
          cases h
      | some binding =>
          rcases List.mem_cons.1 hpair with rfl | hmem
          · exact ⟨binding, hbinding⟩
          · by_cases htoken : token = Text.wildcard
            · rw [assign_wildcard hbinding htoken] at h
              exact ih h hmem
            · cases hassign : (schema.assign binding.path token record).2 with
              | ok _ =>
                  rw [assign_ok hbinding htoken hassign] at h
                  exact ih h hmem
              | error error =>
                  rw [assign_error hbinding htoken hassign] at h
                  cases h

/-- The record stays well typed, whether or not all tokens can be assigned. -/
theorem typed_assign (hschema : schema.IsDerived) (hleads : namer.bindings.LeadFrom schema type)
    (hrecord : schema.Typed type record) :
    schema.Typed type (namer.assign pairs record).1 := by
  induction pairs generalizing record with
  | nil => exact hrecord
  | cons first rest ih =>
      obtain ⟨key, token⟩ := first
      cases hbinding : namer.bindings.get? key with
      | none =>
          rw [assign_unbound hbinding]
          exact hrecord
      | some binding =>
          obtain ⟨places, leaf, hlead, -⟩ := hleads key binding hbinding
          have hnext := hlead.typed_assign hschema hrecord token
          by_cases htoken : token = Text.wildcard
          · rw [assign_wildcard hbinding htoken]
            exact ih hrecord
          · cases hassign : (schema.assign binding.path token record).2 with
            | ok _ =>
                rw [assign_ok hbinding htoken hassign]
                exact ih hnext
            | error error =>
                -- Pointers on the path may have been given contents before the token was refused.
                rw [assign_error hbinding htoken hassign]
                exact hnext

/-- The token is read as a scalar of the type at the end of the path that the key is bound to, and
goes to the places of that path. -/
def IsWrite (namer : Namer schema type) (pair : String × String) (write : List Nat × Scalar) :
    Prop :=
  ∃ binding leaf, namer.bindings.get? pair.1 = some binding ∧
    schema.LeadsTo type binding.path write.1 leaf ∧ leaf.parse pair.2 = .ok write.2

/-- Assigning tokens is a run of writes, one for each token that is no wildcard. -/
theorem writes_of_assign (hschema : schema.IsDerived)
    (hleads : namer.bindings.LeadFrom schema type) (hrecord : schema.Typed type record)
    (h : (namer.assign pairs record).2 = .ok ()) :
    ∃ steps : List ((String × String) × List Nat × Scalar),
      steps.map Prod.fst = (pairs.filter fun pair => pair.2 ≠ Text.wildcard) ∧
      (∀ step ∈ steps, namer.IsWrite step.1 step.2) ∧
      Value.Writes (fun type => (schema.record type).initial) (steps.map Prod.snd)
        record.toValue (namer.assign pairs record).1.toValue := by
  induction pairs generalizing record with
  | nil => exact ⟨[], rfl, by simp, .nil _⟩
  | cons first rest ih =>
      obtain ⟨key, token⟩ := first
      obtain ⟨binding, hbinding⟩ := bound_of_assign h List.mem_cons_self
      obtain ⟨places, leaf, hlead, -⟩ := hleads key binding hbinding
      by_cases htoken : token = Text.wildcard
      -- A wildcard adds no step to the run; any other token adds one in front.
      · rw [assign_wildcard hbinding htoken] at h ⊢
        rw [List.filter_cons_of_neg (by simpa using htoken)]
        exact ih hrecord h
      · cases hparse : leaf.parse token with
        | ok new =>
            obtain ⟨hassign, old, -, hwritten⟩ := hlead.assign_ok hschema hrecord hparse
            rw [assign_ok hbinding htoken hassign] at h ⊢
            have hnext := hlead.typed_assign hschema hrecord token
            obtain ⟨steps, hsteps, hwrites, hrun⟩ := ih hnext h
            refine ⟨((key, token), places, new) :: steps, ?_, ?_, .cons hwritten hrun⟩
            · rw [List.filter_cons_of_pos (by simpa using htoken), List.map_cons, hsteps]
            · rw [List.forall_mem_cons]
              exact ⟨⟨binding, leaf, hbinding, hlead, hparse⟩, hwrites⟩
        | error error =>
            obtain ⟨hassign, -⟩ := hlead.assign_error hschema hrecord hparse
            rw [assign_error hbinding htoken hassign] at h
            cases h

/-! ## The effect of a parse -/

/-- Some token that is no wildcard is for a key whose path leads to the places. -/
def WritesAt (namer : Namer schema type) (pairs : List (String × String)) (places : List Nat) :
    Prop :=
  ∃ pair ∈ pairs, pair.2 ≠ Text.wildcard ∧ ∃ binding leaf,
    namer.bindings.get? pair.1 = some binding ∧ schema.LeadsTo type binding.path places leaf

/-- What it does to a record to assign tokens to the fields of their keys. -/
structure Effect (namer : Namer schema type) (pairs : List (String × String))
    (before after : Record ι) : Prop where
  typed : schema.Typed type after
  bound : ∀ pair ∈ pairs, ∃ binding, namer.bindings.get? pair.1 = some binding
  /-- A key reads as its token says, unless a token further right is for the same field. -/
  written : ∀ earlier key token later binding, pairs = earlier ++ (key, token) :: later →
    token ≠ Text.wildcard → namer.bindings.get? key = some binding →
    (∀ next ∈ later, next.2 ≠ Text.wildcard → ∀ other,
      namer.bindings.get? next.1 = some other → other.path ≠ binding.path) →
    ∃ places leaf scalar, schema.LeadsTo type binding.path places leaf ∧
      leaf.parse token = .ok scalar ∧ schema.read binding.path after = .scalar scalar
  /-- Whatever is not on the way to a written field is left alone. -/
  kept : ∀ address value, before.toValue.at? address = some value →
    (∀ places, namer.WritesAt pairs places → ¬ Step.positions address <+: places) →
    after.toValue.at? address = some value
  /-- An optional field has contents if it had them or is on the way to a written field. -/
  optional : ∀ address value, before.toValue.at? address = some value → value.IsOptional →
    ((∃ value', after.toValue.at? address = some value' ∧ value'.IsPresent) ↔
      value.IsPresent ∨
        ∃ places, namer.WritesAt pairs places ∧ Step.positions address <+: places)
  /-- Whatever is not on the way to a written field, even inside new contents, is what was there
  before, or else what new contents start with. -/
  given : ∀ address value, after.toValue.at? address = some value →
    (∀ places, namer.WritesAt pairs places → ¬ Step.positions address <+: places) →
    before.toValue.lookup? (fun type => (schema.record type).initial) address = some value
  untouched : (∀ pair ∈ pairs, pair.2 = Text.wildcard) → after = before

/-- The writes of a run go where the tokens say. -/
theorem exists_step_iff {steps : List ((String × String) × List Nat × Scalar)}
    (hsteps : steps.map Prod.fst = pairs.filter fun pair => pair.2 ≠ Text.wildcard)
    (hwrites : ∀ step ∈ steps, namer.IsWrite step.1 step.2) (holds : List Nat → Prop) :
    (∃ write ∈ steps.map Prod.snd, holds write.1) ↔
      ∃ places, namer.WritesAt pairs places ∧ holds places := by
  constructor
  · rintro ⟨write, hwrite, hholds⟩
    obtain ⟨step, hstep, rfl⟩ := List.mem_map.1 hwrite
    obtain ⟨binding, leaf, hbinding, hlead, -⟩ := hwrites step hstep
    have hpair : step.1 ∈ pairs.filter fun pair => pair.2 ≠ Text.wildcard := by
      rw [← hsteps]
      exact List.mem_map_of_mem hstep
    rw [List.mem_filter, decide_eq_true_iff] at hpair
    exact ⟨step.2.1, ⟨step.1, hpair.1, hpair.2, binding, leaf, hbinding, hlead⟩, hholds⟩
  · rintro ⟨places, ⟨pair, hpair, htoken, binding, leaf, hbinding, hlead⟩, hholds⟩
    have hmem : pair ∈ steps.map Prod.fst := by
      rw [hsteps, List.mem_filter, decide_eq_true_iff]
      exact ⟨hpair, htoken⟩
    obtain ⟨step, hstep, rfl⟩ := List.mem_map.1 hmem
    refine ⟨step.2, List.mem_map_of_mem hstep, ?_⟩
    obtain ⟨other, leaf', hother, hlead', -⟩ := hwrites step hstep
    obtain rfl : binding = other := Option.some.inj (hbinding.symm.trans hother)
    rwa [← (hlead.unique hlead').1]

/-- After a run of writes a key reads as its token says, unless a token further right is for the
same field. -/
theorem read_of_writes (hschema : schema.IsDerived) {before after : Record ι}
    (hafter : schema.Typed type after)
    {steps : List ((String × String) × List Nat × Scalar)}
    (hsteps : steps.map Prod.fst = pairs.filter fun pair => pair.2 ≠ Text.wildcard)
    (hwrites : ∀ step ∈ steps, namer.IsWrite step.1 step.2)
    (hrun : Value.Writes (fun type => (schema.record type).initial) (steps.map Prod.snd)
      before.toValue after.toValue)
    {earlier later : List (String × String)} (hpairs : pairs = earlier ++ (key, token) :: later)
    (htoken : token ≠ Text.wildcard) (hbinding : namer.bindings.get? key = some binding)
    (hlater : ∀ next ∈ later, next.2 ≠ Text.wildcard → ∀ other,
      namer.bindings.get? next.1 = some other → other.path ≠ binding.path) :
    ∃ places leaf scalar, schema.LeadsTo type binding.path places leaf ∧
      leaf.parse token = .ok scalar ∧ schema.read binding.path after = .scalar scalar := by
  rw [hpairs, List.filter_append, List.filter_cons_of_pos (by simpa using htoken),
    List.map_eq_append_iff] at hsteps
  obtain ⟨front, rest, rfl, -, hrest⟩ := hsteps
  obtain ⟨⟨_, places, scalar⟩, back, rfl, rfl, hback⟩ := List.map_eq_cons_iff.1 hrest
  obtain ⟨found, leaf, hfound, hlead, hparse⟩ :=
    hwrites ((key, token), places, scalar) (by simp)
  obtain rfl : binding = found := Option.some.inj (hbinding.symm.trans hfound)
  refine ⟨places, leaf, scalar, hlead, hparse, ?_⟩
  rw [hlead.read_eq_scalar_iff hafter]
  rw [List.map_append, List.map_cons] at hrun
  apply hrun.scalarAt?_last
  intro write hwrite halong
  -- A later write on the way to the same field would be one to the same path.
  obtain ⟨step, hstep, rfl⟩ := List.mem_map.1 hwrite
  obtain ⟨other, leaf', hother, hlead', -⟩ := hwrites step (by simp [hstep])
  have hnext : step.1 ∈ later.filter fun pair => pair.2 ≠ Text.wildcard := by
    rw [← hback]
    exact List.mem_map_of_mem hstep
  rw [List.mem_filter, decide_eq_true_iff] at hnext
  exact hlater step.1 hnext.1 hnext.2 other hother (hlead'.eq_of_prefix hschema hlead halong)

theorem effect_of_assign (hschema : schema.IsDerived)
    (hleads : namer.bindings.LeadFrom schema type) (hrecord : schema.Typed type record)
    (h : (namer.assign pairs record).2 = .ok ()) :
    namer.Effect pairs record (namer.assign pairs record).1 := by
  obtain ⟨steps, hsteps, hwrites, hrun⟩ := writes_of_assign hschema hleads hrecord h
  have htyped : schema.Typed type (namer.assign pairs record).1 :=
    typed_assign hschema hleads hrecord
  have hoff : ∀ address, (∀ places, namer.WritesAt pairs places →
      ¬ Step.positions address <+: places) →
      ∀ write ∈ steps.map Prod.snd, ¬ Step.positions address <+: write.1 := by
    intro address haddress write hwrite halong
    obtain ⟨places, hplaces, halong⟩ :=
      (exists_step_iff hsteps hwrites (Step.positions address <+: ·)).1 ⟨write, hwrite, halong⟩
    exact haddress places hplaces halong
  refine ⟨htyped, fun pair => bound_of_assign h, ?_, ?_, ?_, ?_, ?_⟩
  · intro earlier key token later binding hpairs htoken hbinding hlater
    exact read_of_writes hschema htyped hsteps hwrites hrun hpairs htoken hbinding hlater
  · intro address value hvalue haddress
    exact hrun.at?_eq (hoff address haddress) hvalue
  · intro address value hvalue hoptional
    obtain ⟨value', hafter, hiff⟩ := hrun.isPresent_iff hvalue hoptional
    rw [exists_step_iff hsteps hwrites (Step.positions address <+: ·)] at hiff
    simp [hafter, hiff]
  · intro address value hvalue haddress
    rw [← hrun.lookup?_eq (hoff address haddress)]
    exact Value.lookup?_of_at? _ hvalue
  · intro hwildcards
    have hnone : (pairs.filter fun pair => pair.2 ≠ Text.wildcard) = [] := by
      rw [List.filter_eq_nil_iff]
      intro pair hpair
      simpa using hwildcards pair hpair
    rw [hnone, List.map_eq_nil_iff] at hsteps
    subst hsteps
    exact (Record.toValue_injective hrun.eq_of_nil).symm

/-! ## A match -/

theorem assignMatch_eq (index : Nat) (template : Template) (tokens : List String)
    (record : Record ι) :
    namer.assignMatch index template tokens record =
      ((namer.assign (template.keys.zip tokens) record).1,
        ((namer.assign (template.keys.zip tokens) record).2.mapError .key).map fun _ => index) := by
  rw [assignMatch]
  cases namer.assign (template.keys.zip tokens) record with
  | mk after result => cases result <;> rfl

/-- A match is answered with its index once all its tokens have been assigned. -/
theorem assignMatch_eq_ok_iff {index found : Nat} {template : Template} {tokens : List String} :
    (namer.assignMatch index template tokens record).2 = .ok found ↔
      index = found ∧ (namer.assign (template.keys.zip tokens) record).2 = .ok () := by
  rw [assignMatch_eq]
  cases (namer.assign (template.keys.zip tokens) record).2 <;> simp [Except.mapError, Except.map]

theorem effect_of_assignMatch (hschema : schema.IsDerived)
    (hleads : namer.bindings.LeadFrom schema type) (hrecord : schema.Typed type record)
    {index found : Nat} {template : Template} {tokens : List String}
    (h : (namer.assignMatch index template tokens record).2 = .ok found) :
    index = found ∧ namer.Effect (template.keys.zip tokens) record
      (namer.assignMatch index template tokens record).1 := by
  obtain ⟨hindex, hassign⟩ := assignMatch_eq_ok_iff.1 h
  rw [assignMatch_eq]
  exact ⟨hindex, effect_of_assign hschema hleads hrecord hassign⟩

/-! ## Parsing -/

/-- **The effect of a successful parse.** The answer is the index of a pattern that the name
matches, and its tokens have been assigned to the fields of the keys; the same holds for the name of
a parent and the template of a parent. -/
theorem parse_effect [DecidableEq ι] (hschema : schema.IsDerived) {patterns : List String}
    {options : Namer.Options} (h : compile schema type patterns options = .ok namer)
    (hrecord : schema.Typed type record) :
    (∀ name index, (namer.parse name record).2 = .ok index →
      ∃ pattern ∈ namer.patterns.toList, ∃ tokens, pattern.index = index ∧
        pattern.template.tokens? name = some tokens ∧
        tokens.length = pattern.template.keys.length ∧
        namer.Effect (pattern.template.keys.zip tokens) record (namer.parse name record).1) ∧
    ∀ parent index, (namer.parseParent parent record).2 = .ok index →
      ∃ pattern ∈ namer.patterns.toList, ∃ tokens, pattern.index = index ∧
        pattern.parent.tokens? parent = some tokens ∧
        tokens.length = pattern.parent.keys.length ∧
        namer.Effect (pattern.parent.keys.zip tokens) record
          (namer.parseParent parent record).1 := by
  have hset := patterns_isValid h
  have hleads := bindings_leadFrom hschema h
  constructor
  · intro name index hparse
    rw [parse] at hparse ⊢
    cases hmatch : namer.patterns.matchName? name with
    | none =>
        rw [hmatch] at hparse
        cases hparse
    | some found =>
        obtain ⟨pattern, tokens⟩ := found
        rw [hmatch] at hparse
        obtain ⟨hpattern, htokens, -⟩ := hset.matchName?_eq_some_iff.1 hmatch
        obtain ⟨hindex, heffect⟩ := effect_of_assignMatch hschema hleads hrecord hparse
        exact ⟨pattern, hpattern, tokens, hindex, htokens, Template.length_of_tokens? htokens,
          heffect⟩
  · intro parent index hparse
    rw [parseParent] at hparse ⊢
    cases hmatch : namer.patterns.matchParent? parent with
    | none =>
        rw [hmatch] at hparse
        cases hparse
    | some found =>
        obtain ⟨pattern, tokens⟩ := found
        rw [hmatch] at hparse
        obtain ⟨hpattern, htokens, -⟩ := hset.matchParent?_eq_some_iff.1 hmatch
        obtain ⟨hindex, heffect⟩ := effect_of_assignMatch hschema hleads hrecord hparse
        exact ⟨pattern, hpattern, tokens, hindex, htokens, Template.length_of_tokens? htokens,
          heffect⟩

/-- A book that stood nowhere is told its floor, but not its shelf. -/
theorem parse_effect_newBook :
    ∃ pattern ∈ Library.bookNamer.patterns.toList, ∃ tokens, pattern.index = 2 ∧
      pattern.template.tokens? "floors/-1/shelves/-/books/7" = some tokens ∧
      tokens.length = pattern.template.keys.length ∧
      Library.bookNamer.Effect (pattern.template.keys.zip tokens) (Library.schema.newRecord .book)
        (Library.bookNamer.parse "floors/-1/shelves/-/books/7"
          (Library.schema.newRecord .book)).1 :=
  (parse_effect Library.isDerived_schema Library.compile_bookNamer
    (Library.isDerived_schema.newRecord_typed .book)).1 _ 2 (by decide +kernel)

end ResourceNames.Namer
