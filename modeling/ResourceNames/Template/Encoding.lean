import ResourceNames.Template.Parse

set_option autoImplicit false

/-! # Templates in data

In data formats a template is a string, its text. Every other kind of datum is refused. Which other
kinds there are, and in what words they are refused, is up to the format. -/

namespace ResourceNames

/-- A datum of a format that has strings, and `α` as its other data. -/
inductive Datum (α : Type)
  | string (text : String)
  | other (datum : α)
deriving DecidableEq

/-- Why a datum is no template. -/
inductive DecodeError (α : Type)
  | notString (datum : α)
  | template (error : TemplateError)
deriving DecidableEq

namespace Template

variable {α : Type}

/-- The datum that stands for a template. -/
def encode (template : Template) : Datum α :=
  .string template.text

/-- Reads a template from a datum. -/
def decode : Datum α → Except (DecodeError α) Template
  | .string text => (parse text).mapError .template
  | .other datum => .error (.notString datum)

end Template

end ResourceNames
