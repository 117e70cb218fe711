import ResourceNames.Proofs.Namer.Effect
import ResourceNames.Proofs.Namer.Format
import ResourceNames.Proofs.Record.Blank

set_option autoImplicit false

/-! # What a failed parse leaves behind

A parse that fails does so at one of the keys of the matched template, or before any of them. What
the tokens before that key say has been assigned, and nothing of what comes after. Of the token that
is refused all that remains is contents in the pointers on the way to its field, and where new
records are blank no formatting can tell these from none: only the text of the value that is absent
may be another one. -/

namespace ResourceNames

/-- The error without the text of the value, where that is absent. -/
def KeyError.forgetAbsent : KeyError → KeyError
  | .invalidValue key _ .absent => .invalidValue key "" .absent
  | error => error

/-- The error without the text of the value, where it is an absent value that causes it. -/
def NamerError.forgetAbsent : NamerError → NamerError
  | .noPatternFound kind type last => .noPatternFound kind type (last.map KeyError.forgetAbsent)
  | error => error

namespace Namer

variable {ι : Type} {schema : Schema ι} {type : ι} {namer : Namer schema type}
  {key token : String} {pairs earlier later : List (String × String)}
  {record before after reached : Record ι} {error : KeyError}

/-! ## Runs of tokens that succeed -/

/-- `after` is `before` with each token that is no wildcard written to the field of its key, in
order; every key is bound, those of wildcards included. -/
structure Run (namer : Namer schema type) (pairs : List (String × String))
    (before after : Record ι) : Prop where
  bound : ∀ pair ∈ pairs, ∃ binding, namer.bindings.get? pair.1 = some binding
  writes : ∃ steps : List ((String × String) × List Nat × Scalar),
    steps.map Prod.fst = (pairs.filter fun pair => pair.2 ≠ Text.wildcard) ∧
    (∀ step ∈ steps, namer.IsWrite step.1 step.2) ∧
    Value.Writes (fun type => (schema.record type).initial) (steps.map Prod.snd)
      before.toValue after.toValue

theorem run_of_assign (hschema : schema.IsDerived) (hleads : namer.bindings.LeadFrom schema type)
    (hrecord : schema.Typed type record) (h : (namer.assign pairs record).2 = .ok ()) :
    namer.Run pairs record (namer.assign pairs record).1 :=
  ⟨fun _ => bound_of_assign h, writes_of_assign hschema hleads hrecord h⟩

theorem assign_append (h : (namer.assign earlier record).2 = .ok ()) :
    namer.assign (earlier ++ later) record =
      namer.assign later (namer.assign earlier record).1 := by
  induction earlier generalizing record with
  | nil => rfl
  | cons first rest ih =>
      obtain ⟨key, token⟩ := first
      rw [List.cons_append]
      obtain ⟨binding, hbinding⟩ := bound_of_assign h List.mem_cons_self
      by_cases htoken : token = Text.wildcard
      · rw [assign_wildcard hbinding htoken] at h
        rw [assign_wildcard hbinding htoken, assign_wildcard hbinding htoken, ih h]
      · cases hassign : (schema.assign binding.path token record).2 with
        | ok _ =>
            rw [assign_ok hbinding htoken hassign] at h
            rw [assign_ok hbinding htoken hassign, assign_ok hbinding htoken hassign, ih h]
        | error error =>
            rw [assign_error hbinding htoken hassign] at h
            cases h

/-! ## The token that is refused -/

/-- Why a token cannot be assigned to the field of its key, and what the attempt makes of a
record. -/
inductive Refused (namer : Namer schema type) (key token : String) (before : Record ι) :
    Record ι → KeyError → Prop
  /-- The key is not bound; not even pointers are given contents. -/
  | unbound (hbinding : namer.bindings.get? key = none) :
      Refused namer key token before before (.unbound key namer.typeName)
  /-- The token is no scalar of the type of the field; the way to it is opened. -/
  | malformed {after : Record ι} {binding : Binding} {places : List Nat} {leaf : ScalarType}
      {error : ScalarError} (hbinding : namer.bindings.get? key = some binding)
      (htoken : token ≠ Text.wildcard) (hlead : schema.LeadsTo type binding.path places leaf)
      (hparse : leaf.parse token = .error error)
      (hopened : Value.Opened (fun type => (schema.record type).initial) places
        before.toValue after.toValue) :
      Refused namer key token before after (.invalidValue key token (.malformed error))

/-- Assigning stops at one of the keys, after all tokens before it have been assigned. -/
theorem exists_refused (hschema : schema.IsDerived) (hleads : namer.bindings.LeadFrom schema type)
    (hrecord : schema.Typed type record) (h : (namer.assign pairs record).2 = .error error) :
    ∃ earlier key token later, pairs = earlier ++ (key, token) :: later ∧
      (namer.assign earlier record).2 = .ok () ∧
      namer.Refused key token (namer.assign earlier record).1 (namer.assign pairs record).1
        error := by
  induction pairs generalizing record with
  | nil => cases h
  | cons first rest ih =>
      obtain ⟨key, token⟩ := first
      cases hbinding : namer.bindings.get? key with
      | none =>
          rw [assign_unbound hbinding] at h ⊢
          obtain rfl := Except.error.inj h
          exact ⟨[], key, token, rest, rfl, rfl, .unbound hbinding⟩
      | some binding =>
          obtain ⟨places, leaf, hlead, -⟩ := hleads key binding hbinding
          by_cases htoken : token = Text.wildcard
          · rw [assign_wildcard hbinding htoken] at h ⊢
            obtain ⟨earlier, key', token', later, rfl, hok, hrefused⟩ := ih hrecord h
            refine ⟨(key, token) :: earlier, key', token', later, rfl, ?_⟩
            rw [assign_wildcard hbinding htoken]
            exact ⟨hok, hrefused⟩
          · cases hparse : leaf.parse token with
            | ok new =>
                obtain ⟨hassign, -⟩ := hlead.assign_ok hschema hrecord hparse
                rw [assign_ok hbinding htoken hassign] at h ⊢
                have hnext := hlead.typed_assign hschema hrecord token
                obtain ⟨earlier, key', token', later, rfl, hok, hrefused⟩ := ih hnext h
                refine ⟨(key, token) :: earlier, key', token', later, rfl, ?_⟩
                rw [assign_ok hbinding htoken hassign]
                exact ⟨hok, hrefused⟩
            | error fault =>
                obtain ⟨hassign, old, -, hwritten⟩ := hlead.assign_error hschema hrecord hparse
                rw [assign_error hbinding htoken hassign] at h ⊢
                obtain rfl := Except.error.inj h
                exact ⟨[], key, token, rest, rfl, rfl,
                  .malformed hbinding htoken hlead hparse ⟨old, hwritten⟩⟩

/-- Assigning has stopped at one of the tokens: with what is before it assigned the record was
`reached`, and what the attempt to assign it has made of that is `after`. -/
def Stops (namer : Namer schema type) (pairs : List (String × String))
    (before reached after : Record ι) (error : KeyError) : Prop :=
  ∃ earlier key token later, pairs = earlier ++ (key, token) :: later ∧
    namer.Run earlier before reached ∧ namer.Refused key token reached after error

/-! ## Formatting what is left behind -/

/-- The way to a field that was opened for nothing changes no value of a key. -/
theorem value_of_opened (hleads : namer.bindings.LeadFrom schema type)
    (hblank : schema.StartsBlank) (hbefore : schema.Typed type before)
    (hafter : schema.Typed type after) {places : List Nat}
    (hopened : Value.Opened (fun type => (schema.record type).initial) places
      before.toValue after.toValue) (key : String) :
    (namer.value after key).mapError KeyError.forgetAbsent =
      (namer.value before key).mapError KeyError.forgetAbsent := by
  rw [value, value]
  cases hbinding : namer.bindings.get? key with
  | none => rfl
  | some binding =>
      obtain ⟨others, leaf, hlead, -⟩ := hleads key binding hbinding
      dsimp only
      rw [hlead.read_eq hafter, hlead.read_eq hbefore]
      rcases hopened.scalarAt?_eq hblank others with hsame | ⟨hnone, scalar, hscalar, hzero⟩
      · rw [hsame]
      · rw [hnone, hscalar]
        simp [hzero, Except.mapError, KeyError.forgetAbsent]

end Namer

/-- Errors of the lookup can be changed before or after rendering. -/
theorem Template.mapError_renderBy {ε ε' : Type} (change : ε → ε') (template : Template)
    (lookup : String → Except ε String) :
    (template.renderBy lookup).mapError change =
      template.renderBy fun key => (lookup key).mapError change := by
  rw [renderBy_eq, renderBy_eq]
  have hmapM : ∀ keys : List String, (keys.mapM lookup).mapError change =
      keys.mapM fun key => (lookup key).mapError change := by
    intro keys
    induction keys with
    | nil => rfl
    | cons key rest ih =>
        rw [List.mapM_cons, List.mapM_cons, ← ih]
        cases lookup key with
        | error error => rfl
        | ok text => cases rest.mapM lookup <;> rfl
  rw [← hmapM]
  cases template.keys.mapM lookup <;> rfl

namespace Namer

variable {ι : Type} {schema : Schema ι} {type : ι} {namer : Namer schema type}
  {key token : String} {pairs earlier later : List (String × String)}
  {record other before after reached : Record ι} {error : KeyError}

/-- The records have the same values for all keys, up to the texts of absent ones. -/
def HasSameValues (namer : Namer schema type) (record other : Record ι) : Prop :=
  ∀ key, (namer.value record key).mapError KeyError.forgetAbsent =
    (namer.value other key).mapError KeyError.forgetAbsent

theorem HasSameValues.fill_eq (h : namer.HasSameValues record other) (template : Template) :
    (namer.fill record template).mapError KeyError.forgetAbsent =
      (namer.fill other template).mapError KeyError.forgetAbsent := by
  have htext : ∀ result : Except KeyError Scalar,
      (result.map Scalar.text).mapError KeyError.forgetAbsent =
        (result.mapError KeyError.forgetAbsent).map Scalar.text := by
    rintro (_ | _) <;> rfl
  simp only [fill, Template.mapError_renderBy, htext, h _]

theorem HasSameValues.fillFirst_eq (h : namer.HasSameValues record other)
    (templates : List Template) {last last' : Option KeyError}
    (hlast : last.map KeyError.forgetAbsent = last'.map KeyError.forgetAbsent) :
    (namer.fillFirst record last templates).mapError (Option.map KeyError.forgetAbsent) =
      (namer.fillFirst other last' templates).mapError (Option.map KeyError.forgetAbsent) := by
  induction templates generalizing last last' with
  | nil => exact congrArg Except.error hlast
  | cons template rest ih =>
      have hfill := h.fill_eq template
      rw [fillFirst, fillFirst]
      cases hrecord : namer.fill record template with
      | ok name =>
          cases hother : namer.fill other template with
          | ok text =>
              rw [hrecord, hother] at hfill
              obtain rfl := Except.ok.inj hfill
              rfl
          | error cause =>
              rw [hrecord, hother] at hfill
              cases hfill
      | error cause =>
          cases hother : namer.fill other template with
          | ok text =>
              rw [hrecord, hother] at hfill
              cases hfill
          | error cause' =>
              rw [hrecord, hother] at hfill
              exact ih (congrArg some (Except.error.inj hfill))

/-- Formatting gives the same name for both records, or fails for both with the same error, but for
the text of an absent value. -/
def FormatsAlike (namer : Namer schema type) (record other : Record ι) : Prop :=
  ∀ selector,
    (namer.format record selector).mapError NamerError.forgetAbsent =
      (namer.format other selector).mapError NamerError.forgetAbsent ∧
    (namer.formatParent record selector).mapError NamerError.forgetAbsent =
      (namer.formatParent other selector).mapError NamerError.forgetAbsent

theorem HasSameValues.formatKind_eq (h : namer.HasSameValues record other) (kind : NameKind)
    (selector : Selector) :
    (namer.formatKind kind record selector).mapError NamerError.forgetAbsent =
      (namer.formatKind kind other selector).mapError NamerError.forgetAbsent := by
  have hfill : ∀ result : Except (Option KeyError) String,
      (result.mapError (.noPatternFound kind namer.typeName)).mapError NamerError.forgetAbsent =
        (result.mapError (Option.map KeyError.forgetAbsent)).mapError
          (.noPatternFound kind namer.typeName) := by
    rintro (_ | _) <;> rfl
  rw [formatKind, formatKind]
  cases namer.selected selector with
  | error error => rfl
  | ok patterns =>
      change (Except.mapError _ (Except.mapError _ _)) = Except.mapError _ (Except.mapError _ _)
      rw [hfill, hfill, h.fillFirst_eq _ rfl]

theorem HasSameValues.formatsAlike (h : namer.HasSameValues record other) :
    namer.FormatsAlike record other :=
  fun selector => ⟨h.formatKind_eq .own selector, h.formatKind_eq .parent selector⟩

/-! ## Failing -/

/-- What is left behind where a token is refused cannot be told from what was reached before. -/
theorem Refused.formatsAlike (hleads : namer.bindings.LeadFrom schema type)
    (hblank : schema.StartsBlank) (hreached : schema.Typed type reached)
    (hafter : schema.Typed type after) (h : namer.Refused key token reached after error) :
    namer.FormatsAlike after reached := by
  cases h with
  | unbound _ => exact fun selector => ⟨rfl, rfl⟩
  | malformed _ _ _ _ hopened =>
      exact HasSameValues.formatsAlike (value_of_opened hleads hblank hreached hafter hopened)

theorem stops_of_assignMatch (hschema : schema.IsDerived)
    (hleads : namer.bindings.LeadFrom schema type) (hrecord : schema.Typed type record)
    {index : Nat} {template : Template} {tokens : List String} {fault : NamerError}
    (h : namer.assignMatch index template tokens record = (after, .error fault)) :
    ∃ error reached, fault = .key error ∧
      namer.Stops (template.keys.zip tokens) record reached after error ∧
      (schema.StartsBlank → namer.FormatsAlike after reached) := by
  rw [assignMatch_eq] at h
  obtain ⟨rfl, hfault⟩ := Prod.mk.inj h
  cases hresult : (namer.assign (template.keys.zip tokens) record).2 with
  | ok _ =>
      rw [hresult] at hfault
      cases hfault
  | error error =>
      rw [hresult] at hfault
      obtain ⟨earlier, key, token, later, hpairs, hok, hrefused⟩ :=
        exists_refused hschema hleads hrecord hresult
      have hreached : schema.Typed type (namer.assign earlier record).1 :=
        typed_assign hschema hleads hrecord
      have hafter : schema.Typed type (namer.assign (template.keys.zip tokens) record).1 :=
        typed_assign hschema hleads hrecord
      exact ⟨error, _, (Except.error.inj hfault).symm,
        ⟨earlier, key, token, later, hpairs, run_of_assign hschema hleads hrecord hok, hrefused⟩,
        fun hblank => hrefused.formatsAlike hleads hblank hreached hafter⟩

/-- The same with the case that nothing is matched. -/
theorem stops_of_match (hschema : schema.IsDerived)
    (hleads : namer.bindings.LeadFrom schema type) (hrecord : schema.Typed type record)
    (template : Pattern → Template) {found : Option (Pattern × List String)}
    {unmatched fault : NamerError}
    (h : (match found with
      | none => (record, .error unmatched)
      | some (pattern, tokens) =>
        namer.assignMatch pattern.index (template pattern) tokens record) =
          (after, .error fault)) :
    (found = none ∧ fault = unmatched ∧ after = record) ∨
      ∃ pattern tokens error reached, found = some (pattern, tokens) ∧ fault = .key error ∧
        namer.Stops ((template pattern).keys.zip tokens) record reached after error ∧
        (schema.StartsBlank → namer.FormatsAlike after reached) := by
  cases found with
  | none =>
      obtain ⟨hafter, hfault⟩ := Prod.mk.inj h
      exact .inl ⟨rfl, (Except.error.inj hfault).symm, hafter.symm⟩
  | some found =>
      obtain ⟨pattern, tokens⟩ := found
      obtain ⟨error, reached, hfault, hstops, halike⟩ :=
        stops_of_assignMatch hschema hleads hrecord h
      exact .inr ⟨pattern, tokens, error, reached, rfl, hfault, hstops, halike⟩

/-- **A failed parse leaves what came before the failure, and ways opened for nothing.** A name that
no pattern matches leaves the record as it is. Otherwise some token of the match cannot be assigned:
those before it have been, and nothing else has changed but for pointers on the way to its field,
which have contents if its key is bound. Where new records are blank, formatting cannot tell. The
same holds for the name of a parent. -/
theorem parse_failure [DecidableEq ι] (hschema : schema.IsDerived) {patterns : List String}
    {options : Namer.Options} (h : compile schema type patterns options = .ok namer)
    (hrecord : schema.Typed type record) :
    (∀ name fault, namer.parse name record = (after, .error fault) →
      (namer.patterns.matchName? name = none ∧ fault = .invalidName name ∧ after = record) ∨
      ∃ pattern tokens error reached,
        namer.patterns.matchName? name = some (pattern, tokens) ∧ fault = .key error ∧
        namer.Stops (pattern.template.keys.zip tokens) record reached after error ∧
        (schema.StartsBlank → namer.FormatsAlike after reached)) ∧
    ∀ parent fault, namer.parseParent parent record = (after, .error fault) →
      (namer.patterns.matchParent? parent = none ∧ fault = .invalidParent parent ∧
        after = record) ∨
      ∃ pattern tokens error reached,
        namer.patterns.matchParent? parent = some (pattern, tokens) ∧ fault = .key error ∧
        namer.Stops (pattern.parent.keys.zip tokens) record reached after error ∧
        (schema.StartsBlank → namer.FormatsAlike after reached) := by
  have hleads := bindings_leadFrom hschema h
  constructor
  · intro name fault hparse
    rw [parse] at hparse
    exact stops_of_match hschema hleads hrecord Pattern.template hparse
  · intro parent fault hparse
    rw [parseParent] at hparse
    exact stops_of_match hschema hleads hrecord Pattern.parent hparse

end Namer

namespace Library

/-- Books that are called by their own name before that of their place. -/
def placeNamer : Namer schema .book where
  patterns := ⟨#[⟨0, "books/\x7bbook\x7d/floors/\x7bfloor\x7d",
    [.literal "books", .variable "book", .literal "floors", .variable "floor"]⟩]⟩
  bindings := bookNamer.bindings

theorem compile_placeNamer :
    Namer.compile schema .book ["books/\x7bbook\x7d/floors/\x7bfloor\x7d"] .standard =
      .ok placeNamer := by
  decide +kernel

theorem startsBlank_schema : schema.StartsBlank := by
  rintro (_ | _)
  · refine .record (List.forall_mem_cons.2 ⟨.scalar rfl, List.forall_mem_cons.2
      ⟨.scalar rfl, List.forall_mem_singleton.2 (.absent _)⟩⟩)
  · refine .record (List.forall_mem_cons.2 ⟨.scalar rfl,
      List.forall_mem_singleton.2 (.scalar rfl)⟩)

end Library

/-- A book is given its name, but no place, for want of a number for the floor. The shelf that it
seems to stand on makes no difference to its names. -/
theorem Namer.parse_failure_misplaced :
    ∃ after reached,
      Library.placeNamer.parse "books/b/floors/x" (Library.schema.newRecord .book) =
        (after, .error (.key (.invalidValue "floor" "x" (.malformed (.integer .invalidDigit))))) ∧
      Library.placeNamer.Stops [("book", "b"), ("floor", "x")] (Library.schema.newRecord .book)
        reached after (.invalidValue "floor" "x" (.malformed (.integer .invalidDigit))) ∧
      Library.placeNamer.FormatsAlike after reached := by
  have hparse : Library.placeNamer.parse "books/b/floors/x" (Library.schema.newRecord .book) =
      ((Library.placeNamer.parse "books/b/floors/x" (Library.schema.newRecord .book)).1,
        .error (.key (.invalidValue "floor" "x" (.malformed (.integer .invalidDigit))))) :=
    Prod.ext rfl (by decide +kernel)
  have hplace : Library.placeNamer.patterns.matchName? "books/b/floors/x" =
      some (⟨0, "books/\x7bbook\x7d/floors/\x7bfloor\x7d",
        [.literal "books", .variable "book", .literal "floors", .variable "floor"]⟩,
        ["b", "x"]) := by decide +kernel
  obtain ⟨hname, -⟩ := parse_failure Library.isDerived_schema Library.compile_placeNamer
    (Library.isDerived_schema.newRecord_typed .book)
  rcases hname _ _ hparse with ⟨-, hfault, -⟩ | ⟨pattern, tokens, error, reached, hmatch, hfault,
    hstops, halike⟩
  · cases hfault
  · obtain ⟨rfl, rfl⟩ := Prod.mk.inj (Option.some.inj (hmatch.symm.trans hplace))
    obtain rfl := NamerError.key.inj hfault
    exact ⟨_, reached, hparse, hstops, halike Library.startsBlank_schema⟩

end ResourceNames
