import ResourceNames.Text.Segments

set_option autoImplicit false

/-! # Templates

A template is a list of segments in which collection literals and variables take turns, such as
`shelves/{shelf}/books/{book}`. A variable has a key, the name under which values are bound to it.

The empty template has no segments. It is never written down: it is the parent of every template
at root level, and the empty text is the only name it describes. -/

namespace ResourceNames

/-- One segment of a template. -/
inductive Segment
  /-- Fixed text that a name repeats. -/
  | literal (text : String)
  /-- A place for a value, bound by its key. -/
  | variable (key : String)
deriving DecidableEq

namespace Segment

/-- The segment as it is written in a template: a literal as it is, a key in braces. -/
def text : Segment → String
  | .literal text => text
  | .variable key => "\x7b" ++ key ++ "\x7d"

/-- The key of a variable. -/
def key? : Segment → Option String
  | .literal _ => none
  | .variable key => some key

def isVariable (segment : Segment) : Bool :=
  segment.key?.isSome

end Segment

/-- A template: its text, and the segments that the text spells out. -/
structure Template where
  text : String
  segments : List Segment
deriving DecidableEq

namespace Template

/-- The template without segments, parent of the templates at root level. -/
def empty : Template := ⟨"", []⟩

instance : Inhabited Template := ⟨empty⟩

/-- The template with the given segments, written out. -/
def ofSegments (segments : List Segment) : Template :=
  ⟨Text.ofSegments (segments.map Segment.text), segments⟩

/-- The number of segments. -/
def length (template : Template) : Nat :=
  template.segments.length

def isEmpty (template : Template) : Bool :=
  template.segments.isEmpty

/-- The keys of the variables, left to right. -/
def keys (template : Template) : List String :=
  template.segments.filterMap Segment.key?

def variableCount (template : Template) : Nat :=
  template.keys.length

end Template

end ResourceNames
