import ResourceNames.Record.Field
import ResourceNames.Record.Value

set_option autoImplicit false

/-! # Schemas

A schema is a finite family of record types. A record type has a table of fields, which binding
works with, and fields that its records store. Reading and writing take an index into the table.

For a type that is derived from its declaration the two agree: the table lists the fields that are
not skipped, and an index leads to the field it is the index of. A type may also be given by hand,
and then nothing makes its table, its reading and its writing agree. -/

namespace ResourceNames

variable {ι : Type}

/-- What an index into the table of a record type reads. -/
inductive ReadAccess
  /-- The stored field at a position. -/
  | place (position : Nat)
  | nil
  | unsupported
deriving DecidableEq

/-- What an index into the table of a record type writes to. -/
inductive WriteAccess
  /-- The stored field at a position. -/
  | place (position : Nat)
  | unsupported
deriving DecidableEq

/-- A record type, in a family of types with names of type `ι`. -/
structure RecordType (ι : Type) where
  name : String
  /-- The types of the fields that records store. -/
  stored : List (FieldType ι)
  /-- The table of fields that take part in binding. -/
  table : List (FieldEntry ι)
  reader : Nat → Option ReadAccess
  writer : Nat → Option WriteAccess
  /-- The fields that a new record stores. -/
  initial : List (Value ι)

namespace RecordType

/-- The entry of a declared field in the table. -/
def entry (field : RecordField (FieldType ι)) : FieldEntry ι :=
  ⟨plainName field.name, field.keys, field.type.shape⟩

/-- The record type that is derived from a declaration with the given fields. -/
def derived (name : String) (fields : List (RecordField (FieldType ι)))
    (initial : List (Value ι)) : RecordType ι where
  name := name
  stored := fields.map RecordField.type
  table := (RecordField.table fields).map entry
  reader index := (RecordField.place? fields index).map .place
  writer index := (RecordField.place? fields index).map .place
  initial := initial

end RecordType

/-- A finite family of record types, closed under reference. -/
structure Schema (ι : Type) where
  record : ι → RecordType ι
  /-- The names of the types. -/
  types : List ι
  mem_types : ∀ type, type ∈ types

namespace Schema

/-- A record of the given type as it starts out. -/
def newRecord (schema : Schema ι) (type : ι) : Record ι :=
  ⟨type, (schema.record type).initial⟩

/-- A value with contents in every pointer. -/
def allocate (schema : Schema ι) (value : Value ι) : Value ι :=
  value.allocate fun type => (schema.record type).initial

end Schema

end ResourceNames
