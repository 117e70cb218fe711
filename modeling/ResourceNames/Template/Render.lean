import ResourceNames.Template.Basic
import ResourceNames.Template.Error

set_option autoImplicit false

/-! # Rendering names

A name is rendered from a template by putting texts in the place of its variables. The texts come
as a list, one for each variable, or from a lookup that is asked for each key. The lookup runs in
any monad: it is asked left to right, and where the monad has failure the first one ends it. -/

namespace ResourceNames.Template

/-- The segments with values in the place of the variables, as long as there are any. -/
def fill : List Segment → List String → List String
  | [], _ => []
  | .literal text :: segments, values => text :: fill segments values
  | .variable _ :: segments, value :: values => value :: fill segments values
  | .variable _ :: segments, [] => "" :: fill segments []

/-- The name with the given values at the variables; there must be one for each. -/
def render (template : Template) (values : List String) : Except TemplateError String :=
  if values.length = template.variableCount then
    .ok (Text.ofSegments (fill template.segments values))
  else .error (.arity template.text template.variableCount values.length)

/-- What one segment contributes to a name. -/
def renderSegment {m : Type → Type} [Monad m] (lookup : String → m String) : Segment → m String
  | .literal text => pure text
  | .variable key => lookup key

/-- The name with the values that `lookup` gives for the keys. -/
def renderBy {m : Type → Type} [Monad m] (template : Template) (lookup : String → m String) :
    m String := do
  let parts ← template.segments.mapM (renderSegment lookup)
  return Text.ofSegments parts

end ResourceNames.Template
