import ResourceNames.Text.LowerCase

set_option autoImplicit false

/-! # Snake case

The key that a field answers to when it names none itself: its own name in lower case, with `_`
between words. A word starts at an ASCII capital that follows an ASCII small letter; spaces and
hyphens are word breaks too. Characters are compared with the character before them in the name
as it was given, not in the result. -/

namespace ResourceNames.Text

/-- What becomes of one character, given the character before it. -/
def snakeCaseChar (previous : Option Char) (c : Char) : List Char :=
  if c = ' ' || c = '-' then ['_']
  else if c.isUpper && previous.any Char.isLower then '_' :: lowerCase c
  else lowerCase c

/-- The snake case of the characters that follow `previous`. -/
def snakeCaseFrom (previous : Option Char) : List Char → List Char
  | [] => []
  | c :: rest => snakeCaseChar previous c ++ snakeCaseFrom (some c) rest

/-- The snake case of a name. A name that is in snake case already comes back unchanged. -/
def snakeCase (name : String) : String :=
  String.ofList (snakeCaseFrom none name.toList)

example : snakeCase "parentOneID" = "parent_one_id" := by decide
example : snakeCase "a -B" = "a__b" := by decide

end ResourceNames.Text
