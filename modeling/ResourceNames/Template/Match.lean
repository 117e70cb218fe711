import ResourceNames.Template.Basic

set_option autoImplicit false

/-! # Matching names

A name matches a template if it has as many segments, repeats every literal and has a token at
every variable. A token is any text but the empty one and those in braces; the wildcard is one. -/

namespace ResourceNames

/-- Whether a segment of a name is in braces, as a variable of a template is. -/
def isBraced (text : String) : Bool :=
  text.toList.head? == some '{' && text.toList.getLast? == some '}'

/-- Whether a segment of a name may stand for a variable. -/
def isToken (text : String) : Bool :=
  text != "" && !isBraced text

namespace Template

/-- The tokens of the segments `parts` at the variables of `segments`. -/
def matchSegments : List Segment → List String → Option (List String)
  | [], [] => some []
  | .literal text :: segments, part :: parts =>
    if part = text then matchSegments segments parts else none
  | .variable _ :: segments, part :: parts =>
    if isToken part then (matchSegments segments parts).map (part :: ·) else none
  | _, _ => none

/-- The tokens of `name` at the variables, left to right, if the name matches. -/
def tokens? (template : Template) (name : String) : Option (List String) :=
  if template.isEmpty then
    if name = "" then some [] else none
  else matchSegments template.segments (Text.segments name)

/-- Whether `name` matches the template. -/
def describes (template : Template) (name : String) : Bool :=
  (template.tokens? name).isSome

end Template

end ResourceNames
