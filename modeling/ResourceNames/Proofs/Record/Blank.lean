import ResourceNames.Proofs.Record.Write

set_option autoImplicit false

/-! # Contents that cannot be told from none

A write that fails still gives contents to the pointers on its way. Where new records hold nothing
but zeros, empty strings and pointers without contents, no scalar of these contents counts as a
value, so that reading finds a value after it if and only if it found the same value before. -/

namespace ResourceNames

variable {ι : Type}

namespace Value

/-- `after` is `before` with contents in every pointer on the way to the places, where there is a
scalar, and with nothing else changed. -/
def Opened (recordFields : ι → List (Value ι)) (places : List Nat) (before after : Value ι) :
    Prop :=
  ∃ scalar, Written recordFields scalar scalar places before after

/-- Every scalar in the value is a zero or an empty string. -/
inductive IsBlank : Value ι → Prop
  | scalar {leaf : Scalar} (h : leaf.isZero = true) : IsBlank (.scalar leaf)
  | record {type : ι} {fields : List (Value ι)} (h : ∀ field ∈ fields, IsBlank field) :
      IsBlank (.record type fields)
  | absent (content : FieldType ι) : IsBlank (.absent content)
  | present {content : Value ι} (h : IsBlank content) : IsBlank (.present content)
  | boxed {content : Value ι} (h : IsBlank content) : IsBlank (.boxed content)
  | other (type : FieldType ι) : IsBlank (.other type)

theorem IsBlank.content {value : Value ι} (h : value.IsBlank) : value.content.IsBlank := by
  induction h with
  | scalar h => exact .scalar h
  | record h _ => exact .record h
  | absent content => exact .absent content
  | present _ ih => exact ih
  | boxed _ ih => exact ih
  | other type => exact .other type

theorem IsBlank.isZero_of_scalarAt? {value : Value ι} (h : value.IsBlank) {places : List Nat}
    {scalar : Scalar} (hscalar : value.scalarAt? places = some scalar) :
    scalar.isZero = true := by
  induction places generalizing value with
  | nil =>
      have hcontent := h.content
      rw [scalarAt?] at hscalar
      split at hscalar
      · rename_i leaf hleaf
        rw [hleaf] at hcontent
        obtain rfl := Option.some.inj hscalar
        cases hcontent with
        | scalar hzero => exact hzero
      · cases hscalar
  | cons position rest ih =>
      have hcontent := h.content
      rw [scalarAt?] at hscalar
      split at hscalar
      · rename_i type fields hrecord
        rw [hrecord] at hcontent
        obtain ⟨field, hfield, hinner⟩ := Option.bind_eq_some_iff.1 hscalar
        cases hcontent with
        | record hfields => exact ih (hfields field (List.mem_of_getElem? hfield)) hinner
      · cases hscalar

/-- A field starts out blank where new records do. -/
theorem isBlank_initial {recordFields : ι → List (Value ι)}
    (h : ∀ type, (Value.record type (recordFields type)).IsBlank) (type : FieldType ι) :
    (type.initial recordFields).IsBlank := by
  induction type with
  | scalar leaf => exact .scalar (by cases leaf <;> rfl)
  | record inner => exact h inner
  | optional content => exact .absent content
  | boxed content ih => exact .boxed ih
  | container kind => exact .other _
  | unsupported => exact .other _

/-- Opening a way leaves every scalar as it is, and shows others that are zero or empty at most. -/
theorem Opened.scalarAt?_eq {recordFields : ι → List (Value ι)}
    (hblank : ∀ type, (Value.record type (recordFields type)).IsBlank) {places : List Nat}
    {before after : Value ι} (h : Opened recordFields places before after) (others : List Nat) :
    after.scalarAt? others = before.scalarAt? others ∨
      (before.scalarAt? others = none ∧
        ∃ scalar, after.scalarAt? others = some scalar ∧ scalar.isZero = true) := by
  obtain ⟨scalar, hwritten⟩ := h
  induction hwritten generalizing others with
  | scalar => exact .inl rfl
  | @field type fields position rest before after hget h ih =>
      cases others with
      | nil => exact .inl rfl
      | cons first others =>
          rw [scalarAt?_record, scalarAt?_record]
          by_cases hfirst : position = first
          · subst hfirst
            rw [List.getElem?_set_self (List.getElem?_eq_some_iff.1 hget).1, hget]
            exact ih others
          · rw [List.getElem?_set_ne hfirst]
            exact .inl rfl
  | @absent places content after h ih =>
      simp only [scalarAt?_absent, scalarAt?_present, true_and]
      rcases ih others with hsame | ⟨-, hshown⟩
      · -- What new contents start with is blank, so that it shows nothing but zeros.
        rw [hsame]
        cases hinitial : (content.initial recordFields).scalarAt? others with
        | none => exact .inl rfl
        | some found =>
            exact .inr ⟨found, rfl, (isBlank_initial hblank content).isZero_of_scalarAt? hinitial⟩
      · exact .inr hshown
  | present h ih =>
      rw [scalarAt?_present, scalarAt?_present]
      exact ih others
  | boxed h ih =>
      rw [scalarAt?_boxed, scalarAt?_boxed]
      exact ih others

end Value

/-- New records hold nothing but zeros, empty strings and pointers without contents. -/
def Schema.StartsBlank (schema : Schema ι) : Prop :=
  ∀ type, (schema.newRecord type).toValue.IsBlank

end ResourceNames
