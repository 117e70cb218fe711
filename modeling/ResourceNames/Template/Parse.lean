import ResourceNames.Template.Basic
import ResourceNames.Template.Error

set_option autoImplicit false

/-! # The grammar of templates

A text is a template if its segments are, in turn, a literal and a variable, starting with a
literal, and no key occurs twice. A literal is an ASCII letter followed by ASCII letters and
digits; a variable is a key in braces. Segments are judged left to right and the first fault is
the one reported, for one segment in the order: no text at all, the wildcard, not well formed,
out of turn, a key seen before. -/

namespace ResourceNames

/-- Whether a text can be the key of a variable: a small ASCII letter followed by small ASCII
    letters, digits and `_`. -/
def isVariableKey (text : String) : Bool :=
  match text.toList with
  | [] => false
  | c :: rest => c.isLower && rest.all fun d => d.isLower || d.isDigit || d == '_'

/-- Whether a text can be a literal: an ASCII letter followed by ASCII letters and digits. -/
def isLiteral (text : String) : Bool :=
  match text.toList with
  | [] => false
  | c :: rest => c.isAlpha && rest.all Char.isAlphanum

namespace Segment

/-- What stands between the braces of a text that opens with one and ends with one. -/
def key?OfBraced (text : String) : Option String :=
  match text.toList with
  | '{' :: inner => if inner.getLast? = some '}' then some (String.ofList inner.dropLast) else none
  | _ => none

/-- Reads one segment of the template `pattern`, by itself. -/
def parse (pattern : String) (position : Nat) (text : String) : Except TemplateError Segment :=
  if text = "" then .error (.emptySegment pattern position)
  else if text = Text.wildcard then .error (.wildcard pattern position)
  else if text.toList.head? = some '{' then
    match key?OfBraced text with
    | some key => if isVariableKey key then .ok (.variable key) else .error (.invalidVariable text)
    | none => .error (.invalidVariable text)
  else if isLiteral text then .ok (.literal text)
  else .error (.invalidLiteral text)

end Segment

namespace Template

/-- Whether `segment` may follow the segments `before` it in the template `pattern`. -/
def checkNext (pattern : String) (before : List Segment) (segment : Segment) :
    Except TemplateError Unit :=
  match before.getLast? with
  | none => if segment.isVariable then .error (.leadingVariable pattern) else .ok ()
  | some previous =>
    if previous.isVariable = segment.isVariable then
      .error (.notAlternating pattern (before.length + 1))
    else
      match segment.key? with
      | some key =>
        if key ∈ before.filterMap Segment.key? then .error (.duplicateVariable pattern key)
        else .ok ()
      | none => .ok ()

/-- Reads the segments that follow those `before` them. -/
def parseSegments (pattern : String) (before : List Segment) :
    List String → Except TemplateError (List Segment)
  | [] => .ok before
  | text :: rest => do
    let segment ← Segment.parse pattern (before.length + 1) text
    checkNext pattern before segment
    parseSegments pattern (before ++ [segment]) rest

/-- Reads a template. -/
def parse (pattern : String) : Except TemplateError Template :=
  if pattern = "" then .error .empty
  else (parseSegments pattern [] (Text.segments pattern)).map fun segments => ⟨pattern, segments⟩

end Template

end ResourceNames
