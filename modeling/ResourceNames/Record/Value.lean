import ResourceNames.Record.Type

set_option autoImplicit false

/-! # Records

Values of fields, and records made of them. Values are finite trees: a record type may contain
itself only through an optional field, and sooner or later such a field is absent. -/

namespace ResourceNames

/-- The value of a field. -/
inductive Value (ι : Type)
  | scalar (scalar : Scalar)
  | record (type : ι) (fields : List (Value ι))
  /-- An optional field without contents, which would be of the given type. -/
  | absent (content : FieldType ι)
  /-- An optional field with contents. -/
  | present (content : Value ι)
  | boxed (content : Value ι)
  /-- A value that no name can tell of, of the given type. -/
  | other (type : FieldType ι)

/-- A record: the values of all its fields, in the order of declaration. -/
structure Record (ι : Type) where
  type : ι
  fields : List (Value ι)

variable {ι : Type}

def Record.toValue (record : Record ι) : Value ι :=
  .record record.type record.fields

/-- What there is to read at a field. -/
inductive Slot (ι : Type)
  | scalar (scalar : Scalar)
  | record (record : Record ι)
  | nil
  | unsupported

/-- The slot in words. -/
def Slot.description : Slot ι → String
  | .scalar _ => "a scalar"
  | .record _ => "a record"
  | .nil => "nil"
  | .unsupported => "an unsupported type"

/-- What there is to write to at a field. -/
inductive Target (ι : Type)
  | scalar (scalar : Scalar)
  | record (record : Record ι)
  | unsupported

/-- The target in words. -/
def Target.description : Target ι → String
  | .scalar _ => "a scalar"
  | .record _ => "a record"
  | .unsupported => "an unsupported type"

/-- What a path may end at in place of a scalar. -/
inductive NonScalar
  | record
  | unsupported
deriving DecidableEq

/-- The finding in words. -/
def NonScalar.description : NonScalar → String
  | .record => "a record"
  | .unsupported => "an unsupported type"

/-- The value that a field of the given type starts with, given the fields that new records start
    with. -/
def FieldType.initial (recordFields : ι → List (Value ι)) : FieldType ι → Value ι
  | .scalar type => .scalar type.zero
  | .record type => .record type (recordFields type)
  | .optional content => .absent content
  | .boxed content => .boxed (content.initial recordFields)
  | type => .other type

/-- The value that a field of the given type starts with, with contents in every pointer. -/
def FieldType.allocated (recordFields : ι → List (Value ι)) : FieldType ι → Value ι
  | .scalar type => .scalar type.zero
  | .record type => .record type (recordFields type)
  | .optional content => .present (content.allocated recordFields)
  | .boxed content => .boxed (content.allocated recordFields)
  | type => .other type

namespace Value

/-- The type of the field that holds the value. -/
def type : Value ι → FieldType ι
  | .scalar leaf => .scalar leaf.type
  | .record type _ => .record type
  | .absent content => .optional content
  | .present content => .optional content.type
  | .boxed content => .boxed content.type
  | .other type => type

/-- What there is to read behind all pointers. -/
def slot : Value ι → Slot ι
  | .scalar leaf => .scalar leaf
  | .record type fields => .record ⟨type, fields⟩
  | .absent _ => .nil
  | .present content => content.slot
  | .boxed content => content.slot
  | .other _ => .unsupported

/-- The value with contents in every pointer that has none. -/
def allocate (recordFields : ι → List (Value ι)) : Value ι → Value ι
  | .absent content => .present (content.allocated recordFields)
  | .present content => .present (content.allocate recordFields)
  | .boxed content => .boxed (content.allocate recordFields)
  | value => value

/-- What there is to write to behind all pointers; a pointer without contents leads nowhere. -/
def target : Value ι → Target ι
  | .scalar leaf => .scalar leaf
  | .record type fields => .record ⟨type, fields⟩
  | .present content => content.target
  | .boxed content => content.target
  | .absent _ => .unsupported
  | .other _ => .unsupported

/-- Changes what is behind all pointers. -/
def mapContent (change : Value ι → Value ι) : Value ι → Value ι
  | .present content => .present (content.mapContent change)
  | .boxed content => .boxed (content.mapContent change)
  | .absent content => .absent content
  | value => change value

/-- Changes a value that is a scalar, and no other. -/
def mapScalar (change : Scalar → Scalar) : Value ι → Value ι
  | .scalar leaf => .scalar (change leaf)
  | value => value

/-- Changes a value that is a record, and no other. -/
def mapRecord (change : Record ι → Record ι) : Value ι → Value ι
  | .record type fields => (change ⟨type, fields⟩).toValue
  | value => value

end Value

end ResourceNames
