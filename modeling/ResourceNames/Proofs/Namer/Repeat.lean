import ResourceNames.Proofs.Namer.Failure
import ResourceNames.Proofs.Record.Repeat

set_option autoImplicit false

/-! # Parsing again

What becomes of a token depends on the type of the field that it is for, which is the same in every
record; so the answer of a parse does not depend on the record. Nor does a second parse of the same
name change anything: it repeats a run of writes on its own outcome, and where it fails, the ways
that it opens are open already. -/

namespace ResourceNames.Namer

variable {ι : Type} {schema : Schema ι} {type : ι} {namer : Namer schema type}
  {pair : String × String} {pairs : List (String × String)} {record other after : Record ι}

/-! ## The answer -/

/-- Whether tokens can be assigned does not depend on the record. -/
theorem snd_assign_eq (hschema : schema.IsDerived) (hleads : namer.bindings.LeadFrom schema type)
    (hrecord : schema.Typed type record) (hother : schema.Typed type other) :
    (namer.assign pairs record).2 = (namer.assign pairs other).2 := by
  induction pairs generalizing record other with
  | nil => rfl
  | cons first rest ih =>
      obtain ⟨key, token⟩ := first
      cases hbinding : namer.bindings.get? key with
      | none => rw [assign_unbound hbinding, assign_unbound hbinding]
      | some binding =>
          obtain ⟨places, leaf, hlead, -⟩ := hleads key binding hbinding
          by_cases htoken : token = Text.wildcard
          · rw [assign_wildcard hbinding htoken, assign_wildcard hbinding htoken]
            exact ih hrecord hother
          · cases hparse : leaf.parse token with
            | ok new =>
                rw [assign_ok hbinding htoken (hlead.assign_ok hschema hrecord hparse).1,
                  assign_ok hbinding htoken (hlead.assign_ok hschema hother hparse).1]
                exact ih (hlead.typed_assign hschema hrecord token)
                  (hlead.typed_assign hschema hother token)
            | error fault =>
                rw [assign_error hbinding htoken (hlead.assign_error hschema hrecord hparse).1,
                  assign_error hbinding htoken (hlead.assign_error hschema hother hparse).1]

/-! ## The record -/

/-- A token is for one place and is read as one scalar. -/
theorem IsWrite.unique {write write' : List Nat × Scalar} (h : namer.IsWrite pair write)
    (h' : namer.IsWrite pair write') : write = write' := by
  obtain ⟨binding, leaf, hbinding, hlead, hparse⟩ := h
  obtain ⟨binding', leaf', hbinding', hlead', hparse'⟩ := h'
  obtain rfl := Option.some.inj (hbinding.symm.trans hbinding')
  obtain ⟨hplaces, rfl⟩ := hlead.unique hlead'
  exact Prod.ext hplaces (Except.ok.inj (hparse.symm.trans hparse'))

/-- The writes of a run are determined by its tokens. -/
theorem steps_unique {steps steps' : List ((String × String) × List Nat × Scalar)}
    (hsteps : steps.map Prod.fst = steps'.map Prod.fst)
    (hwrites : ∀ step ∈ steps, namer.IsWrite step.1 step.2)
    (hwrites' : ∀ step ∈ steps', namer.IsWrite step.1 step.2) : steps = steps' := by
  induction steps generalizing steps' with
  | nil => exact (List.map_eq_nil_iff.1 hsteps.symm).symm
  | cons first rest ih =>
      cases steps' with
      | nil => cases hsteps
      | cons first' rest' =>
          obtain ⟨hfirst, hrest⟩ := List.cons.inj hsteps
          rw [List.forall_mem_cons] at hwrites hwrites'
          have hwrite := hwrites'.1
          rw [← hfirst] at hwrite
          rw [ih hrest hwrites.2 hwrites'.2, Prod.ext hfirst (hwrites.1.unique hwrite)]

/-- What a run makes of a record is determined by its tokens. -/
theorem Run.unique {last last' : Record ι} (h : namer.Run pairs record last)
    (h' : namer.Run pairs record last') : last = last' := by
  obtain ⟨-, steps, hsteps, hwrites, hrun⟩ := h
  obtain ⟨-, steps', hsteps', hwrites', hrun'⟩ := h'
  obtain rfl := steps_unique (hsteps.trans hsteps'.symm) hwrites hwrites'
  exact Record.toValue_injective (hrun.unique hrun')

/-- A run is repeated on its own outcome, without changing that. -/
theorem Run.repeated (h : namer.Run pairs record after) : namer.Run pairs after after := by
  obtain ⟨hbound, steps, hsteps, hwrites, hrun⟩ := h
  exact ⟨hbound, steps, hsteps, hwrites, hrun.repeated⟩

/-- The same holds for a way that is opened after the run. -/
theorem Run.repeated_of_opened {reached : Record ι} (h : namer.Run pairs record reached)
    {places : List Nat} {scalar : Scalar}
    (hwritten : Value.Written (fun type => (schema.record type).initial) scalar scalar places
      reached.toValue after.toValue) :
    namer.Run pairs after after ∧
      Value.Written (fun type => (schema.record type).initial) scalar scalar places
        after.toValue after.toValue := by
  obtain ⟨hbound, steps, hsteps, hwrites, hrun⟩ := h
  obtain ⟨hagain, hopen⟩ := hrun.repeated_of_written hwritten
  exact ⟨⟨hbound, steps, hsteps, hwrites, hagain⟩, hopen⟩

/-- Tokens that are assigned already are assigned again without changing the record. -/
theorem Run.assign_eq (hschema : schema.IsDerived) (hleads : namer.bindings.LeadFrom schema type)
    (hrecord : schema.Typed type record) (h : namer.Run pairs record record)
    (hok : (namer.assign pairs record).2 = .ok ()) : namer.assign pairs record = (record, .ok ()) :=
  Prod.ext ((run_of_assign hschema hleads hrecord hok).unique h) hok

/-- Assigning the same tokens again changes nothing, whether or not they can be assigned. -/
theorem assign_repeated (hschema : schema.IsDerived)
    (hleads : namer.bindings.LeadFrom schema type) (hrecord : schema.Typed type record) :
    namer.assign pairs (namer.assign pairs record).1 = namer.assign pairs record := by
  have hafter : schema.Typed type (namer.assign pairs record).1 :=
    typed_assign hschema hleads hrecord
  have hsame : ∀ tokens : List (String × String),
      (namer.assign tokens (namer.assign pairs record).1).2 = (namer.assign tokens record).2 :=
    fun tokens => snd_assign_eq hschema hleads hafter hrecord
  refine Prod.ext ?_ (hsame pairs)
  cases hresult : (namer.assign pairs record).2 with
  | ok _ =>
      have hrun := run_of_assign hschema hleads hrecord hresult
      rw [hrun.repeated.assign_eq hschema hleads hafter ((hsame pairs).trans hresult)]
  | error error =>
      obtain ⟨earlier, key, token, later, hpairs, hok, hrefused⟩ :=
        exists_refused hschema hleads hrecord hresult
      have hrun := run_of_assign hschema hleads hrecord hok
      have hagain := (hsame earlier).trans hok
      -- The tokens before the refused one find what they wrote, and so does the refused one.
      generalize (namer.assign pairs record).1 = last at *
      cases hrefused with
      | unbound hbinding =>
          have hearlier := hrun.repeated.assign_eq hschema hleads hafter hagain
          rw [hpairs, assign_append hagain, hearlier, assign_unbound hbinding]
      | @malformed _ binding places leaf fault hbinding htoken hlead hparse hopened =>
          obtain ⟨scalar, hwritten⟩ := hopened
          obtain ⟨hrun', hopen⟩ := hrun.repeated_of_opened hwritten
          have hearlier := hrun'.assign_eq hschema hleads hafter hagain
          obtain ⟨hassign, old, -, hold⟩ := hlead.assign_error hschema hafter hparse
          obtain rfl := hold.old_unique hopen
          rw [hpairs, assign_append hagain, hearlier, assign_error hbinding htoken hassign]
          exact Record.toValue_injective (hold.unique hopen).2

/-! ## Parsing twice -/

/-- What becomes of a match does not depend on the record. -/
theorem snd_assignMatch_eq (hschema : schema.IsDerived)
    (hleads : namer.bindings.LeadFrom schema type) (hrecord : schema.Typed type record)
    (hother : schema.Typed type other) (index : Nat) (template : Template)
    (tokens : List String) :
    (namer.assignMatch index template tokens record).2 =
      (namer.assignMatch index template tokens other).2 := by
  rw [assignMatch_eq, assignMatch_eq, snd_assign_eq hschema hleads hrecord hother]

/-- A match that is assigned again changes nothing. -/
theorem assignMatch_repeated (hschema : schema.IsDerived)
    (hleads : namer.bindings.LeadFrom schema type) (hrecord : schema.Typed type record)
    (index : Nat) (template : Template) (tokens : List String) :
    namer.assignMatch index template tokens (namer.assignMatch index template tokens record).1 =
      namer.assignMatch index template tokens record := by
  rw [assignMatch_eq, assignMatch_eq, assign_repeated hschema hleads hrecord]

/-- **Parsing answers the same for every record, and need not be done twice.** The answer of a parse
depends on nothing but the name, whatever the record holds. Parsing the name once more into what a
parse has left gives the same answer and leaves that as it is, be it complete or not. The same holds
for the name of a parent. -/
theorem parse_repeated [DecidableEq ι] (hschema : schema.IsDerived) {patterns : List String}
    {options : Namer.Options} (h : compile schema type patterns options = .ok namer)
    (hrecord : schema.Typed type record) (hother : schema.Typed type other) :
    (∀ name, (namer.parse name record).2 = (namer.parse name other).2 ∧
      namer.parse name (namer.parse name record).1 = namer.parse name record) ∧
    ∀ parent, (namer.parseParent parent record).2 = (namer.parseParent parent other).2 ∧
      namer.parseParent parent (namer.parseParent parent record).1 =
        namer.parseParent parent record := by
  have hleads := bindings_leadFrom hschema h
  constructor
  · intro name
    simp only [parse]
    cases namer.patterns.matchName? name with
    | none => exact ⟨rfl, rfl⟩
    | some found =>
        obtain ⟨pattern, tokens⟩ := found
        exact ⟨snd_assignMatch_eq hschema hleads hrecord hother pattern.index _ tokens,
          assignMatch_repeated hschema hleads hrecord pattern.index _ tokens⟩
  · intro parent
    simp only [parseParent]
    cases namer.patterns.matchParent? parent with
    | none => exact ⟨rfl, rfl⟩
    | some found =>
        obtain ⟨pattern, tokens⟩ := found
        exact ⟨snd_assignMatch_eq hschema hleads hrecord hother pattern.index _ tokens,
          assignMatch_repeated hschema hleads hrecord pattern.index _ tokens⟩

/-- A new book and one on a shelf refuse the same name, and keep what they took of it. -/
theorem parse_repeated_misplaced :
    (Library.placeNamer.parse "books/b/floors/x" (Library.schema.newRecord .book)).2 =
        (Library.placeNamer.parse "books/b/floors/x" (Library.shelved "a" "b")).2 ∧
      Library.placeNamer.parse "books/b/floors/x"
          (Library.placeNamer.parse "books/b/floors/x" (Library.schema.newRecord .book)).1 =
        Library.placeNamer.parse "books/b/floors/x" (Library.schema.newRecord .book) :=
  (parse_repeated Library.isDerived_schema Library.compile_placeNamer
    (Library.isDerived_schema.newRecord_typed .book) (Library.typed_shelved "a" "b")).1
    "books/b/floors/x"

end ResourceNames.Namer
