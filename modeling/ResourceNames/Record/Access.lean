import ResourceNames.Record.Schema

set_option autoImplicit false

/-! # Reading and writing along paths

A path is a list of indices into tables, from a record through the records inside it to a field.
Reading stops at a pointer without contents. Writing goes on: it gives contents to every pointer on
the way, that of the last field included, and the contents stay whatever becomes of the write. -/

namespace ResourceNames

/-- Why a segment could not be assigned to the field at the end of a path. -/
inductive AssignError
  /-- The path ends at something that is no scalar. -/
  | notScalar (found : NonScalar)
  /-- The segment is no scalar of the type of the field. -/
  | malformed (error : ScalarError)
deriving DecidableEq

namespace Schema

variable {ι : Type}

/-! ## One field -/

/-- What there is to read at an index into the table, if anything. -/
def field (schema : Schema ι) (record : Record ι) (index : Nat) : Option (Slot ι) :=
  match (schema.record record.type).reader index with
  | some (.place position) => record.fields[position]?.map Value.slot
  | some .nil => some .nil
  | some .unsupported => some .unsupported
  | none => none

/-- What there is to write to at an index into the table, if anything, once its pointers have
    contents. -/
def fieldTarget (schema : Schema ι) (record : Record ι) (index : Nat) : Option (Target ι) :=
  match (schema.record record.type).writer index with
  | some (.place position) =>
    record.fields[position]?.map fun value => (schema.allocate value).target
  | some .unsupported => some .unsupported
  | none => none

/-- Gives contents to the pointers at an index into the table and changes what is behind them. -/
def modifyField (schema : Schema ι) (change : Value ι → Value ι) (index : Nat)
    (record : Record ι) : Record ι :=
  match (schema.record record.type).writer index with
  | some (.place position) =>
    { record with
      fields := record.fields.modify position fun value =>
        (schema.allocate value).mapContent change }
  | _ => record

/-! ## Paths -/

/-- What there is to read at the end of a path. -/
def read (schema : Schema ι) : List Nat → Record ι → Slot ι
  | [], _ => .unsupported
  | [index], record => (schema.field record index).getD .unsupported
  | index :: next :: rest, record =>
    match schema.field record index with
    | some (.record inner) => schema.read (next :: rest) inner
    | some .nil => .nil
    | _ => .unsupported

/-- What there is to write to at the end of a path. -/
def reach (schema : Schema ι) : List Nat → Record ι → Target ι
  | [], _ => .unsupported
  | [index], record => (schema.fieldTarget record index).getD .unsupported
  | index :: next :: rest, record =>
    match schema.fieldTarget record index with
    | some (.record inner) => schema.reach (next :: rest) inner
    | _ => .unsupported

/-- Gives contents to every pointer on a path, as far as the path leads, and changes the scalar at
    its end. -/
def modify (schema : Schema ι) (change : Scalar → Scalar) : List Nat → Record ι → Record ι
  | [], record => record
  | [index], record => schema.modifyField (Value.mapScalar change) index record
  | index :: next :: rest, record =>
    schema.modifyField (Value.mapRecord (schema.modify change (next :: rest))) index record

/-- Assigns to the field at the end of a path the scalar that a segment stands for. Where that
    fails the field keeps its value, but the pointers on the path have contents. -/
def assign (schema : Schema ι) (path : List Nat) (segment : String) (record : Record ι) :
    Record ι × Except AssignError Unit :=
  match schema.reach path record with
  | .scalar scalar =>
    match scalar.type.parse segment with
    | .ok value => (schema.modify (fun _ => value) path record, .ok ())
    | .error error => (schema.modify id path record, .error (.malformed error))
  | .record _ => (schema.modify id path record, .error (.notScalar .record))
  | .unsupported => (schema.modify id path record, .error (.notScalar .unsupported))

end Schema

end ResourceNames
