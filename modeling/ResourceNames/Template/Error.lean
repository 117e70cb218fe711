set_option autoImplicit false

/-! # Why a text is no template -/

namespace ResourceNames

/-- What is wrong with a template, or with the values it was to be filled with. Positions count the
    segments from 1. -/
inductive TemplateError
  | empty
  | emptySegment (pattern : String) (position : Nat)
  | wildcard (pattern : String) (position : Nat)
  | invalidLiteral (segment : String)
  | invalidVariable (segment : String)
  | leadingVariable (pattern : String)
  | notAlternating (pattern : String) (position : Nat)
  | duplicateVariable (pattern key : String)
  | arity (pattern : String) (expected found : Nat)
deriving DecidableEq

/-- The error in words. -/
def TemplateError.message : TemplateError → String
  | .empty => "pattern is empty"
  | .emptySegment pattern position => s!"segment {position} of `{pattern}` is empty"
  | .wildcard pattern position => s!"segment {position} of `{pattern}` is the wildcard `-`"
  | .invalidLiteral segment =>
      s!"literal segment `{segment}` must be an ASCII letter followed by ASCII alphanumerics"
  | .invalidVariable segment =>
      s!"variable segment `{segment}` must be a lower snake case name in braces"
  | .leadingVariable pattern => s!"pattern `{pattern}` must start with a literal segment"
  | .notAlternating pattern position =>
      s!"segment {position} of `{pattern}` does not alternate between literal and variable"
  | .duplicateVariable pattern key => s!"variable `{key}` appears more than once in `{pattern}`"
  | .arity pattern expected found =>
      s!"pattern `{pattern}` has {expected} variables, got {found} values"

end ResourceNames
