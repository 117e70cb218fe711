import Mathlib.Data.List.Forall2
import ResourceNames.Record.Schema

set_option autoImplicit false

/-! # Well-typed records

Values carry no guarantee that they are values of the fields they stand in. `HasType` says so: a
value matches the type of its field, and a record stores one value for each stored field of its
type. A schema is derived if every one of its record types comes from a declaration, so that table
and accessors agree, and if new records are well typed. -/

namespace ResourceNames

variable {ι : Type}

/-! ## Types behind pointers -/

/-- The type behind all pointers. -/
def FieldType.content : FieldType ι → FieldType ι
  | .optional content => content.content
  | .boxed content => content.content
  | type => type

theorem FieldType.content_of_shape_scalar {type : FieldType ι} {kind : ScalarKind} {pointer : Bool}
    (h : type.shape = .scalar kind pointer) :
    ∃ leaf, type.content = .scalar leaf ∧ leaf.kind = kind := by
  induction type generalizing pointer with
  | scalar leaf => simp_all [shape, content]
  | record inner => simp [shape] at h
  | optional content ih =>
      rw [shape] at h
      cases hshape : content.shape <;> simp only [hshape, Shape.pointer, reduceCtorEq,
        Shape.scalar.injEq] at h
      rw [h.1] at hshape
      exact ih hshape
  | boxed content ih => exact ih h
  | container kind => simp [shape] at h
  | unsupported => simp [shape] at h

theorem FieldType.content_of_shape_record {type : FieldType ι} {inner : ι} {pointer : Bool}
    (h : type.shape = .record inner pointer) : type.content = .record inner := by
  induction type generalizing pointer with
  | scalar leaf => simp [shape] at h
  | record inner => simp_all [shape, content]
  | optional content ih =>
      rw [shape] at h
      cases hshape : content.shape <;> simp only [hshape, Shape.pointer, reduceCtorEq,
        Shape.record.injEq] at h
      rw [h.1] at hshape
      exact ih hshape
  | boxed content ih => exact ih h
  | container kind => simp [shape] at h
  | unsupported => simp [shape] at h

/-! ## Typing -/

/-- The value is one of a field of the given type. -/
inductive HasType (schema : Schema ι) : Value ι → FieldType ι → Prop
  | scalar (leaf : Scalar) : HasType schema (.scalar leaf) (.scalar leaf.type)
  | record {type : ι} {fields : List (Value ι)}
      (h : List.Forall₂ (HasType schema) fields (schema.record type).stored) :
      HasType schema (.record type fields) (.record type)
  | absent (content : FieldType ι) : HasType schema (.absent content) (.optional content)
  | present {value : Value ι} {content : FieldType ι} (h : HasType schema value content) :
      HasType schema (.present value) (.optional content)
  | boxed {value : Value ι} {content : FieldType ι} (h : HasType schema value content) :
      HasType schema (.boxed value) (.boxed content)
  | container (kind : ContainerKind) :
      HasType schema (.other (.container kind)) (.container kind)
  | unsupported : HasType schema (.other .unsupported) .unsupported

/-! ## Pointers -/

/-- What is behind all pointers; a pointer without contents is not looked behind. -/
def Value.content : Value ι → Value ι
  | .present content => content.content
  | .boxed content => content.content
  | value => value

/-- Induction over the pointers around a value, as its type has them. -/
@[elab_as_elim]
theorem HasType.pointers {schema : Schema ι}
    {motive : (value : Value ι) → (type : FieldType ι) → HasType schema value type → Prop}
    (absent : ∀ content, motive (.absent content) (.optional content) (.absent content))
    (present : ∀ value content (h : HasType schema value content), motive value content h →
      motive (.present value) (.optional content) (.present h))
    (boxed : ∀ value content (h : HasType schema value content), motive value content h →
      motive (.boxed value) (.boxed content) (.boxed h))
    (plain : ∀ value type (h : HasType schema value type), type.content = type →
      motive value type h)
    {value : Value ι} {type : FieldType ι} (h : HasType schema value type) :
    motive value type h := by
  induction type generalizing value with
  | scalar leaf => exact plain _ _ h rfl
  | record inner => exact plain _ _ h rfl
  | optional content ih =>
      cases h with
      | absent => exact absent content
      | present hcontent => exact present _ _ hcontent (ih hcontent)
  | boxed content ih =>
      cases h with
      | boxed hcontent => exact boxed _ _ hcontent (ih hcontent)
  | container kind => exact plain _ _ h rfl
  | unsupported => exact plain _ _ h rfl

/-! ## Schemas -/

theorem Record.toValue_injective {record other : Record ι} (h : record.toValue = other.toValue) :
    record = other := by
  cases record
  cases other
  simpa [toValue] using h

namespace Schema

variable (schema : Schema ι)

/-- The record is one of the given type. -/
def Typed (type : ι) (record : Record ι) : Prop :=
  HasType schema record.toValue (.record type)

/-- Every record type is derived from a declaration, and new records are well typed. -/
structure IsDerived : Prop where
  derived : ∀ type, ∃ name fields initial,
    schema.record type = RecordType.derived name fields initial
  newRecord_typed : ∀ type, schema.Typed type (schema.newRecord type)

variable {schema}

theorem Typed.type_eq {type : ι} {record : Record ι} (h : schema.Typed type record) :
    record.type = type := by
  cases h
  rfl

theorem Typed.fields {type : ι} {record : Record ι} (h : schema.Typed type record) :
    List.Forall₂ (HasType schema) record.fields (schema.record type).stored := by
  cases h with
  | record hfields => exact hfields

/-- A well-typed record is of the type that it names. -/
theorem typed_of_hasType {type : ι} {value : Value ι} (h : HasType schema value (.record type)) :
    ∃ record : Record ι, value = record.toValue ∧ schema.Typed type record := by
  cases h with
  | @record _ fields hfields => exact ⟨⟨type, fields⟩, rfl, .record hfields⟩

end Schema

/-! ## What fields start with -/

variable {schema : Schema ι}

theorem ScalarType.type_zero (type : ScalarType) : type.zero.type = type := by
  cases type <;> rfl

theorem hasType_zero (schema : Schema ι) (leaf : ScalarType) :
    HasType schema (.scalar leaf.zero) (.scalar leaf) := by
  have h : HasType schema (.scalar leaf.zero) (.scalar leaf.zero.type) := .scalar leaf.zero
  rwa [leaf.type_zero] at h

theorem hasType_initial (hschema : schema.IsDerived) (type : FieldType ι) :
    HasType schema (type.initial fun type => (schema.record type).initial) type := by
  induction type with
  | scalar leaf => exact hasType_zero schema leaf
  | record inner => exact hschema.newRecord_typed inner
  | optional content => exact .absent content
  | boxed content ih => exact .boxed ih
  | container kind => exact .container kind
  | unsupported => exact .unsupported

/-! ## Giving contents to pointers -/

/-- Contents that a pointer is given are what a field starts with, with contents in every pointer of
    their own. -/
theorem allocate_initial (recordFields : ι → List (Value ι)) (type : FieldType ι) :
    (type.initial recordFields).allocate recordFields = type.allocated recordFields := by
  induction type with
  | boxed content ih => simp [FieldType.initial, FieldType.allocated, Value.allocate, ih]
  | _ => rfl

end ResourceNames
