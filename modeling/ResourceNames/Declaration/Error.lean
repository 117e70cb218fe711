import ResourceNames.Template.Error

set_option autoImplicit false

/-! # Why a declaration is refused -/

namespace ResourceNames

/-- What is wrong with the declaration of a record type. -/
inductive DeclarationError
  /-- An attribute of the type that is neither a pattern nor the resource type. -/
  | unknownTypeAttribute
  /-- An attribute of a field that is neither a key nor the mark of a skipped field. -/
  | unknownFieldAttribute
  | missingValue
  | unexpectedValue
  /-- The value of an attribute is no text. -/
  | notText
  | duplicateResource
  | invalidPattern (error : TemplateError)
  | tooManyPatterns (limit : Nat)
  | resourceWithoutPattern
  | invalidKey (key : String)
  | skippedWithKeys
  | notStruct
  | unnamedFields
deriving DecidableEq

/-- The error in words. -/
def DeclarationError.message : DeclarationError → String
  | .unknownTypeAttribute => "expected `pattern` or `resource`"
  | .unknownFieldAttribute => "expected `key` or `skip`"
  | .missingValue => "expected `=`"
  | .unexpectedValue => "expected `,`"
  | .notText => "expected string literal"
  | .duplicateResource => "duplicate `resource` attribute"
  | .invalidPattern error => error.message
  | .tooManyPatterns limit => s!"at most {limit} patterns may be declared"
  | .resourceWithoutPattern => "`resource` requires at least one `pattern`"
  | .invalidKey key => s!"binding key `{key}` must be a lower snake case name"
  | .skippedWithKeys => "a skipped field cannot carry binding keys"
  | .notStruct => "Record derive only supports structs"
  | .unnamedFields => "Record derive only supports structs with named fields"

end ResourceNames
