import ResourceNames.Record.Type

set_option autoImplicit false

/-! # Why a record type cannot be bound -/

namespace ResourceNames

/-- What keeps the fields of a record type from being bound. -/
inductive BindingError
  /-- A container declares keys. -/
  | annotatedContainer (field type : String) (kind : ContainerKind)
  /-- A field holds a record of a type that the path to the field leads through. -/
  | recursiveRecord (type field : String)
deriving DecidableEq

/-- The error in words. -/
def BindingError.message : BindingError → String
  | .annotatedContainer field type kind =>
      s!"field `{field}` of `{type}` is a {kind.word} and cannot bind a pattern key"
  | .recursiveRecord type field => s!"record `{type}` contains itself through field `{field}`"

end ResourceNames
