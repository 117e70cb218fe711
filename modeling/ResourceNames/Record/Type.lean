import ResourceNames.Scalar.Basic

set_option autoImplicit false

/-! # Field types and shapes

What a field of a record holds, and what of that matters for binding: its shape. Record types refer
to each other, and possibly to themselves, by name; the names are the members of a type `ι`.

An optional field may hold nothing, which is what a name leaves unsaid. It has the shape of its
contents, marked as a pointer. -/

namespace ResourceNames

/-- The kinds of containers, which no variable can be bound to. -/
inductive ContainerKind
  | sequence
  | set
  | mapping
  | callable
deriving DecidableEq

/-- The kind in one word. -/
def ContainerKind.word : ContainerKind → String
  | .sequence => "sequence"
  | .set => "set"
  | .mapping => "mapping"
  | .callable => "callable"

/-- The type of a field. -/
inductive FieldType (ι : Type)
  | scalar (type : ScalarType)
  /-- A record of the type with the given name. -/
  | record (type : ι)
  /-- Contents that may be absent. -/
  | optional (content : FieldType ι)
  /-- Contents that are always there, kept elsewhere. -/
  | boxed (content : FieldType ι)
  | container (kind : ContainerKind)
  | unsupported
deriving DecidableEq

/-- The same type in a family where the record types have other names. -/
def FieldType.map {ι κ : Type} (rename : ι → κ) : FieldType ι → FieldType κ
  | .scalar type => .scalar type
  | .record type => .record (rename type)
  | .optional content => .optional (content.map rename)
  | .boxed content => .boxed (content.map rename)
  | .container kind => .container kind
  | .unsupported => .unsupported

/-- The part that a field plays in binding. -/
inductive Shape (ι : Type)
  | scalar (kind : ScalarKind) (pointer : Bool)
  | record (type : ι) (pointer : Bool)
  | container (kind : ContainerKind)
  | unsupported
deriving DecidableEq

variable {ι : Type}

namespace Shape

/-- The shape of contents that may be absent. -/
def pointer : Shape ι → Shape ι
  | .scalar kind _ => .scalar kind true
  | .record type _ => .record type true
  | shape => shape

/-- The shape in words. -/
def description : Shape ι → String
  | .scalar _ _ => "a scalar"
  | .record _ _ => "a record"
  | .container kind => s!"a {kind.word}"
  | .unsupported => "an unsupported type"

end Shape

/-- The shape of a field of the given type. -/
def FieldType.shape : FieldType ι → Shape ι
  | .scalar type => .scalar type.kind false
  | .record type => .record type false
  | .optional content => content.shape.pointer
  | .boxed content => content.shape
  | .container kind => .container kind
  | .unsupported => .unsupported

/-- One entry of the table of fields that a record type binds with. -/
structure FieldEntry (ι : Type) where
  name : String
  /-- The keys that the field binds; where there are none, the name gives the key. -/
  keys : List String
  shape : Shape ι
deriving DecidableEq

end ResourceNames
