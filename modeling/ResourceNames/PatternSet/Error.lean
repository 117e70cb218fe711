import ResourceNames.Template.Error

set_option autoImplicit false

/-! # Why patterns form no set -/

namespace ResourceNames

/-- What is wrong with a list of patterns. -/
inductive PatternSetError
  /-- No pattern is declared. -/
  | noPatterns
  /-- The declared patterns would run into the indices of the extra ones. -/
  | tooManyDeclared (count offset : Nat)
  /-- The pattern with this index is no template that the set may hold. -/
  | invalidPattern (index : Nat) (pattern : String) (cause : TemplateError)
deriving DecidableEq

/-- The error in words. -/
def PatternSetError.message : PatternSetError → String
  | .noPatterns => "no resource pattern declared"
  | .tooManyDeclared count offset =>
      s!"{count} declared patterns overlap the extra pattern range starting at {offset}"
  | .invalidPattern index pattern cause =>
      s!"pattern {index} (`{pattern}`) is invalid: {cause.message}"

end ResourceNames
