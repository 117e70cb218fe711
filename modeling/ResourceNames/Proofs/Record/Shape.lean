import ResourceNames.Proofs.Record.Write

set_option autoImplicit false

/-! # What shapes say of values

The shape of a field is told from its type, what is read at the field from its value, and what is
written to from the value with contents in its pointers. The three agree, so that the table of a
derived record type tells what there is to read and to write to at each of its indices, and that
there is nothing at any other. -/

namespace ResourceNames

variable {ι : Type}

/-! ## Fields that may be absent -/

/-- Whether contents may be absent at one of the pointers. -/
def FieldType.isOptional : FieldType ι → Bool
  | .optional _ => true
  | .boxed content => content.isOptional
  | _ => false

/-- Only what may be absent is read as nothing. -/
theorem HasType.isOptional_of_slot {schema : Schema ι} {value : Value ι} {type : FieldType ι}
    (h : HasType schema value type) (hslot : value.slot = .nil) : type.isOptional = true := by
  induction type generalizing value with
  | optional content ih => rfl
  | boxed content ih =>
      cases h with
      | boxed hcontent => exact ih hcontent hslot
  | _ =>
      cases h
      cases hslot

/-! ## Reading and writing by shape -/

namespace Shape

variable {schema : Schema ι} {shape : Shape ι} {slot : Slot ι} {target : Target ι}

/-- What may be read at a field of the shape; nothing, instead of a scalar or a record, only if the
    shape is marked as a pointer. -/
def Reads (schema : Schema ι) : Shape ι → Slot ι → Prop
  | .scalar kind pointer, slot =>
    (∃ scalar : Scalar, slot = .scalar scalar ∧ scalar.kind = kind) ∨ slot = .nil ∧ pointer = true
  | .record type pointer, slot =>
    (∃ record, slot = .record record ∧ schema.Typed type record) ∨ slot = .nil ∧ pointer = true
  | .container _, slot => slot = .nil ∨ slot = .unsupported
  | .unsupported, slot => slot = .nil ∨ slot = .unsupported

/-- What is written to at a field of the shape. -/
def Reaches (schema : Schema ι) : Shape ι → Target ι → Prop
  | .scalar kind _, target => ∃ scalar : Scalar, target = .scalar scalar ∧ scalar.kind = kind
  | .record type _, target => ∃ record, target = .record record ∧ schema.Typed type record
  | .container _, target => target = .unsupported
  | .unsupported, target => target = .unsupported

theorem reads_pointer_nil (schema : Schema ι) (shape : Shape ι) :
    shape.pointer.Reads schema .nil := by
  cases shape with
  | scalar kind pointer => exact .inr ⟨rfl, rfl⟩
  | record type pointer => exact .inr ⟨rfl, rfl⟩
  | container kind => exact .inl rfl
  | unsupported => exact .inl rfl

theorem Reads.pointer (h : shape.Reads schema slot) : shape.pointer.Reads schema slot := by
  cases shape with
  | scalar kind pointer => exact h.imp_right fun hnil => ⟨hnil.1, rfl⟩
  | record type pointer => exact h.imp_right fun hnil => ⟨hnil.1, rfl⟩
  | container kind => exact h
  | unsupported => exact h

theorem Reaches.pointer (h : shape.Reaches schema target) :
    shape.pointer.Reaches schema target := by
  cases shape <;> exact h

end Shape

variable {schema : Schema ι}

/-- What is read is what the shape of the type says. -/
theorem HasType.reads {value : Value ι} {type : FieldType ι} (h : HasType schema value type) :
    type.shape.Reads schema value.slot := by
  induction type generalizing value with
  | optional content ih =>
      cases h with
      | absent => exact Shape.reads_pointer_nil schema content.shape
      | present hcontent => exact (ih hcontent).pointer
  | boxed content ih =>
      cases h with
      | @boxed value _ hcontent =>
          show content.shape.Reads schema value.slot
          exact ih hcontent
  | scalar leaf =>
      cases h with
      | scalar scalar => exact .inl ⟨scalar, rfl, rfl⟩
  | record inner =>
      obtain ⟨record, rfl, hrecord⟩ := Schema.typed_of_hasType h
      exact .inl ⟨record, rfl, hrecord⟩
  | container kind =>
      cases h
      exact .inr rfl
  | unsupported =>
      cases h
      exact .inr rfl

/-- What is written to is what the shape of the type says, whether there was anything before or
    not. -/
theorem HasType.reaches (hschema : schema.IsDerived) {value : Value ι} {type : FieldType ι}
    (h : HasType schema value type) : type.shape.Reaches schema (schema.allocate value).target := by
  induction type generalizing value with
  | optional content ih =>
      cases h with
      | absent =>
          have hinitial := ih (hasType_initial hschema content)
          rw [Schema.allocate, allocate_initial] at hinitial
          exact hinitial.pointer
      | present hcontent => exact (ih hcontent).pointer
  | boxed content ih =>
      cases h with
      | @boxed value _ hcontent =>
          show content.shape.Reaches schema (schema.allocate value).target
          exact ih hcontent
  | scalar leaf =>
      cases h with
      | scalar scalar => exact ⟨scalar, rfl, rfl⟩
  | record inner =>
      obtain ⟨record, rfl, hrecord⟩ := Schema.typed_of_hasType h
      exact ⟨record, rfl, hrecord⟩
  | container kind =>
      cases h
      rfl
  | unsupported =>
      cases h
      rfl

/-! ## Indices into tables -/

theorem RecordField.place?_eq_none {τ : Type} {fields : List (RecordField τ)} {index : Nat}
    (h : (table fields).length ≤ index) : place? fields index = none := by
  induction fields generalizing index with
  | nil => rfl
  | cons field rest ih =>
      by_cases hskip : field.skipped
      · have htable : table (field :: rest) = table rest := by simp [table, hskip]
        rw [place?.eq_def]
        dsimp only
        rw [if_pos hskip, ih (htable ▸ h)]
        rfl
      · have htable : table (field :: rest) = field :: table rest := by simp [table, hskip]
        rw [htable, List.length_cons] at h
        cases index with
        | zero => omega
        | succ index =>
            rw [place?, if_neg hskip, ih (by omega)]
            rfl

namespace Schema

variable {type : ι} {record : Record ι} {index : Nat}

/-- What there is at an index is what the value of its field has. -/
theorem HasField.access {position : Nat} {field : FieldType ι}
    (h : schema.HasField type index position field) (hrecord : schema.Typed type record) :
    ∃ value, HasType schema value field ∧ schema.field record index = some value.slot ∧
      schema.fieldTarget record index = some (schema.allocate value).target := by
  obtain ⟨_, fields⟩ := record
  obtain rfl := hrecord.type_eq
  obtain ⟨value, hvalue, htyped⟩ := h.value hrecord.fields
  exact ⟨value, htyped, field_eq h hvalue, fieldTarget_eq h hvalue⟩

/-- At an index into the table there is what its entry says. -/
theorem IsDerived.access_of_entry (hschema : schema.IsDerived) (hrecord : schema.Typed type record)
    {entry : FieldEntry ι} (hentry : (schema.record type).table[index]? = some entry) :
    (∃ slot, schema.field record index = some slot ∧ entry.shape.Reads schema slot) ∧
      ∃ target, schema.fieldTarget record index = some target ∧
        entry.shape.Reaches schema target := by
  obtain ⟨position, field, hfield, hshape⟩ := hschema.hasField hentry
  obtain ⟨value, htyped, hread, htarget⟩ := hfield.access hrecord
  rw [hshape]
  exact ⟨⟨_, hread, htyped.reads⟩, ⟨_, htarget, htyped.reaches hschema⟩⟩

/-- At any other index there is nothing. -/
theorem IsDerived.access_eq_none (hschema : schema.IsDerived) (hrecord : schema.Typed type record)
    (h : (schema.record type).table.length ≤ index) :
    schema.field record index = none ∧ schema.fieldTarget record index = none := by
  obtain ⟨name, fields, initial, htype⟩ := hschema.derived type
  have hplace : RecordField.place? fields index = none := by
    apply RecordField.place?_eq_none
    simpa [htype, RecordType.derived] using h
  rw [← hrecord.type_eq] at htype
  simp [field, fieldTarget, htype, RecordType.derived, hplace]

theorem IsDerived.isSome_access_iff (hschema : schema.IsDerived)
    (hrecord : schema.Typed type record) (index : Nat) :
    ((schema.field record index).isSome = true ↔ index < (schema.record type).table.length) ∧
      ((schema.fieldTarget record index).isSome = true ↔
        index < (schema.record type).table.length) := by
  by_cases hlt : index < (schema.record type).table.length
  · obtain ⟨⟨slot, hslot, -⟩, ⟨target, htarget, -⟩⟩ :=
      hschema.access_of_entry hrecord (List.getElem?_eq_getElem hlt)
    simp [hslot, htarget, hlt]
  · obtain ⟨hslot, htarget⟩ := hschema.access_eq_none hrecord (Nat.le_of_not_lt hlt)
    simp [hslot, htarget, hlt]

end Schema

end ResourceNames
