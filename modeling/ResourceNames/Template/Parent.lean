import ResourceNames.Template.Basic

set_option autoImplicit false

/-! # Parents

The parent of a template describes the resource that contains the one it names. It is the template
without its last literal and what follows: the last pair of a literal and a variable, or a literal
that stands alone at the end, a singleton.

Templates of one or two segments are at root level and have no parent. Whether a singleton of three
segments, such as `projects/{project}/settings`, is at root level too depends on the use:
`parent` says so, `singletonParent?` does not. -/

namespace ResourceNames.Template

/-- The template without its last literal and what follows it. -/
def dropResource (template : Template) : Template :=
  let keep := template.length - 1
  ofSegments (template.segments.take (if keep % 2 = 1 then keep - 1 else keep))

/-- The parent, empty for templates of up to three segments. -/
def parent (template : Template) : Template :=
  if template.length ≤ 3 then empty else template.dropResource

/-- The parent, which only templates of one or two segments lack. -/
def singletonParent? (template : Template) : Option Template :=
  if 3 ≤ template.length then some template.dropResource else none

end ResourceNames.Template
