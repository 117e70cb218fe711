import ResourceNames.Proofs.Namer.Basic
import ResourceNames.Proofs.Record.Write
import ResourceNames.Proofs.Scalar.Reading

set_option autoImplicit false

/-! # Assigning to integers

Whatever the type of a record makes of its table, a change at the end of a path changes the scalar
that is reached there and nothing else takes its place. So an integer field holds the number that a
text stands for once the text is assigned to it, and what it held before if the text stands for
none of its type. -/

namespace ResourceNames

variable {ι : Type} {schema : Schema ι} {record : Record ι} {path : List Nat}

namespace Schema

/-- What is behind the pointers of a value has been changed, and no pointer between has. -/
theorem target_allocate_mapScalar {value : Value ι} {scalar : Scalar} (change : Scalar → Scalar)
    (h : value.target = .scalar scalar) :
    (schema.allocate (value.mapContent (Value.mapScalar change))).target =
      .scalar (change scalar) := by
  fun_induction Value.target value with
  | case1 leaf =>
      cases h
      rfl
  | case2 type fields => cases h
  | case3 content ih => exact ih h
  | case4 content ih => exact ih h
  | case5 content => cases h
  | case6 type => cases h

theorem target_allocate_mapRecord {value : Value ι} {inner : Record ι}
    (change : Record ι → Record ι) (h : value.target = .record inner) :
    (schema.allocate (value.mapContent (Value.mapRecord change))).target =
      .record (change inner) := by
  fun_induction Value.target value with
  | case1 leaf => cases h
  | case2 type fields =>
      cases h
      rfl
  | case3 content ih => exact ih h
  | case4 content ih => exact ih h
  | case5 content => cases h
  | case6 type => cases h

/-- What an index leads to after a change there is what the change has left. -/
theorem fieldTarget_modifyField {index : Nat} {target : Target ι} {change : Value ι → Value ι}
    {changed : Target ι} (htarget : schema.fieldTarget record index = some target)
    (hchange : ∀ value : Value ι, value.target = target →
      (schema.allocate (value.mapContent change)).target = changed)
    (hplace : target ≠ .unsupported) :
    schema.fieldTarget (schema.modifyField change index record) index = some changed := by
  rw [fieldTarget] at htarget
  split at htarget
  · next position hwriter =>
      obtain ⟨value, hvalue, hreached⟩ := Option.map_eq_some_iff.1 htarget
      have hmodify : schema.modifyField change index record = { record with
          fields := record.fields.modify position fun value =>
            (schema.allocate value).mapContent change } := by
        rw [modifyField, hwriter]
      rw [hmodify, fieldTarget]
      dsimp only
      rw [hwriter]
      dsimp only
      rw [List.getElem?_modify_eq, hvalue]
      exact congrArg some (hchange _ hreached)
  · cases htarget
    exact absurd rfl hplace
  · cases htarget

/-- **A change at the end of a path is found there again.** -/
theorem reach_modify {scalar : Scalar} (change : Scalar → Scalar)
    (h : schema.reach path record = .scalar scalar) :
    schema.reach path (schema.modify change path record) = .scalar (change scalar) := by
  induction path generalizing record with
  | nil => cases h
  | cons index rest ih =>
      by_cases hrest : rest = []
      · subst hrest
        rw [reach] at h
        cases htarget : schema.fieldTarget record index with
        | none =>
            rw [htarget] at h
            cases h
        | some target =>
            rw [htarget, Option.getD_some] at h
            subst h
            rw [reach, modify, fieldTarget_modifyField htarget
              (fun value => target_allocate_mapScalar change) (by simp), Option.getD_some]
      · rw [reach_cons hrest] at h
        rcases htarget : schema.fieldTarget record index with _ | ⟨_ | inner | _⟩
        case some.record =>
            rw [htarget] at h
            rw [reach_cons hrest, modify_cons hrest, fieldTarget_modifyField htarget
              (fun value => target_allocate_mapRecord (schema.modify change rest)) (by simp)]
            exact ih h
        all_goals
          rw [htarget] at h
          cases h

/-! ## Integers -/

section Integer

variable {type : IntegerType} {number : type.Value} {text : String}

/-- What is written is what the text is read as, or else what was there. -/
theorem assign_eq_of_integer (h : schema.reach path record = .scalar (.integer type number)) :
    schema.assign path text record =
      match type.parse text with
      | .ok new => (schema.modify (fun _ => .integer type new) path record, .ok ())
      | .error error => (schema.modify id path record, .error (.malformed (.integer error))) := by
  have hparse : (Scalar.integer type number).type.parse text =
      ((type.parse text).map (.integer type)).mapError .integer := rfl
  rw [Schema.assign, h]
  dsimp only
  rw [hparse]
  cases type.parse text <;> rfl

theorem assign_integer_eq_error_iff
    (h : schema.reach path record = .scalar (.integer type number)) {error : IntegerError} :
    (schema.assign path text record).2 = .error (.malformed (.integer error)) ↔
      type.parse text = .error error := by
  rw [assign_eq_of_integer h]
  cases type.parse text <;> simp

theorem assign_integer_eq_ok_iff
    (h : schema.reach path record = .scalar (.integer type number)) :
    (schema.assign path text record).2 = .ok () ↔ ∃ new, type.parse text = .ok new := by
  rw [assign_eq_of_integer h]
  cases type.parse text <;> simp

theorem reach_assign_of_parse (h : schema.reach path record = .scalar (.integer type number))
    {new : type.Value} (hnew : type.parse text = .ok new) :
    schema.reach path (schema.assign path text record).1 = .scalar (.integer type new) := by
  rw [assign_eq_of_integer h, hnew]
  exact reach_modify (fun _ => .integer type new) h

theorem reach_assign_of_refused (h : schema.reach path record = .scalar (.integer type number))
    (hrefused : (schema.assign path text record).2 ≠ .ok ()) :
    schema.reach path (schema.assign path text record).1 = .scalar (.integer type number) := by
  cases hparse : type.parse text with
  | ok new => exact absurd ((assign_integer_eq_ok_iff h).2 ⟨new, hparse⟩) hrefused
  | error error =>
      rw [assign_eq_of_integer h, hparse]
      exact reach_modify id h

/-- **An integer field takes exactly the numbers of its type.** A text that is not empty is judged by
the value of the longest run of digits behind its sign: whether it is in the range of the type, then
whether there is a digit and nothing behind the digits. If all is well the field holds that value, or
else what it held before. Every number of the type is taken from its own text, also if it has been
widened to 64 bits before. -/
theorem assign_integer (h : schema.reach path record = .scalar (.integer type number)) :
    (∀ text,
      ((schema.assign path text record).2 = .error (.malformed (.integer .empty)) ↔ text = "") ∧
      ((schema.assign path text record).2 = .error (.malformed (.integer .tooLarge)) ↔
        text ≠ "" ∧ type.max < type.leadingNumber text) ∧
      ((schema.assign path text record).2 = .error (.malformed (.integer .tooSmall)) ↔
        text ≠ "" ∧ type.leadingNumber text < type.min) ∧
      ((schema.assign path text record).2 = .error (.malformed (.integer .invalidDigit)) ↔
        text ≠ "" ∧
          (type.min ≤ type.leadingNumber text ∧ type.leadingNumber text ≤ type.max) ∧
          (type.leadingDigits text = [] ∨ type.remainder text ≠ [])) ∧
      ((schema.assign path text record).2 = .ok () ↔
        text ≠ "" ∧
          (type.min ≤ type.leadingNumber text ∧ type.leadingNumber text ≤ type.max) ∧
          type.leadingDigits text ≠ [] ∧ type.remainder text = []) ∧
      ((schema.assign path text record).2 = .ok () →
        ∃ new : type.Value, new.val = type.leadingNumber text ∧
          schema.reach path (schema.assign path text record).1 = .scalar (.integer type new)) ∧
      ((schema.assign path text record).2 ≠ .ok () →
        schema.reach path (schema.assign path text record).1 =
          .scalar (.integer type number))) ∧
    ∀ new : type.Value, (type.widen new).val = new.val ∧
      (schema.assign path (Scalar.integer _ (type.widen new)).text record).2 = .ok () ∧
      schema.reach path (schema.assign path (Scalar.integer _ (type.widen new)).text record).1 =
        .scalar (.integer type new) := by
  constructor
  · intro text
    obtain ⟨hempty, hlarge, hsmall, hdigit, hok⟩ := type.parse_exact text
    refine ⟨?_, ?_, ?_, ?_, ?_, ?_, reach_assign_of_refused h⟩
    · rw [assign_integer_eq_error_iff h, hempty]
    · rw [assign_integer_eq_error_iff h, hlarge]
    · rw [assign_integer_eq_error_iff h, hsmall]
    · rw [assign_integer_eq_error_iff h, hdigit]
    · rw [assign_integer_eq_ok_iff h]
      constructor
      · rintro ⟨new, hnew⟩
        obtain ⟨hne, hvalue, hplain⟩ := (hok new).1 hnew
        exact ⟨hne, hvalue ▸ new.property, hplain⟩
      · rintro ⟨hne, hrange, hplain⟩
        exact ⟨⟨_, hrange⟩, (hok _).2 ⟨hne, rfl, hplain⟩⟩
    · intro hassigned
      obtain ⟨new, hnew⟩ := (assign_integer_eq_ok_iff h).1 hassigned
      exact ⟨new, ((hok new).1 hnew).2.1, reach_assign_of_parse h hnew⟩
  · intro new
    have hparse : type.parse (Scalar.integer _ (type.widen new)).text = .ok new := by
      rw [Scalar.text, IntegerType.val_widen]
      exact IntegerType.parse_integerText new
    exact ⟨IntegerType.val_widen new, (assign_integer_eq_ok_iff h).2 ⟨new, hparse⟩,
      reach_assign_of_parse h hparse⟩

end Integer

/-- A floor may be as deep as the type allows, and no deeper. -/
theorem assign_integer_floor :
    Library.schema.reach [1, 1] (Library.schema.newRecord .book) =
        .scalar (.integer ⟨true, .bits8⟩ (IntegerType.zero ⟨true, .bits8⟩)) ∧
      (Library.schema.assign [1, 1] "-0128" (Library.schema.newRecord .book)).2 = .ok () ∧
      (∃ new : IntegerType.Value ⟨true, .bits8⟩, new.val = -128 ∧
        Library.schema.reach [1, 1]
            (Library.schema.assign [1, 1] "-0128" (Library.schema.newRecord .book)).1 =
          .scalar (.integer ⟨true, .bits8⟩ new)) ∧
      (Library.schema.assign [1, 1] "-129x" (Library.schema.newRecord .book)).2 =
        .error (.malformed (.integer .tooSmall)) := by
  have hreach : Library.schema.reach [1, 1] (Library.schema.newRecord .book) =
      .scalar (.integer ⟨true, .bits8⟩ (IntegerType.zero ⟨true, .bits8⟩)) := rfl
  obtain ⟨htexts, -⟩ := assign_integer hreach
  obtain ⟨-, -, -, -, hok, hvalue, -⟩ := htexts "-0128"
  obtain ⟨-, -, hsmall, -⟩ := htexts "-129x"
  have hassigned := hok.2 (by decide)
  exact ⟨hreach, hassigned, hvalue hassigned, hsmall.2 (by decide)⟩

end Schema

end ResourceNames
