import ResourceNames.Namer.Basic
import ResourceNames.Record.Access
import ResourceNames.Template.Render

set_option autoImplicit false

/-! # Formatting

The name of a record, or of its parent, is the first of the selected templates that the record can
fill. A record fills a template if each key is bound to a scalar that is not absent: no zero, no
empty string, and not behind a pointer without contents. -/

namespace ResourceNames.Namer

variable {ι : Type} {schema : Schema ι} {type : ι}

/-- The value that a record has for a key. -/
def value (namer : Namer schema type) (record : Record ι) (key : String) :
    Except KeyError Scalar :=
  match namer.bindings.get? key with
  | none => .error (.unbound key namer.typeName)
  | some binding =>
    match schema.read binding.path record with
    | .scalar scalar =>
      if scalar.isZero then .error (.invalidValue key scalar.text .absent) else .ok scalar
    | .nil => .error (.invalidValue key "None" .absent)
    | .record _ => .error (.notScalar key namer.typeName .record)
    | .unsupported => .error (.notScalar key namer.typeName .unsupported)

/-- A template filled from a record. -/
def fill (namer : Namer schema type) (record : Record ι) (template : Template) :
    Except KeyError String :=
  template.renderBy fun key => (namer.value record key).map Scalar.text

/-- The first of several templates that a record can fill, or else why it cannot fill the last one.
    Where there is none to try, `last` says why. -/
def fillFirst (namer : Namer schema type) (record : Record ι) (last : Option KeyError) :
    List Template → Except (Option KeyError) String
  | [] => .error last
  | template :: rest =>
    match namer.fill record template with
    | .ok name => .ok name
    | .error error => fillFirst namer record (some error) rest

/-- The selected patterns. -/
def selected (namer : Namer schema type) : Selector → Except NamerError (List Pattern)
  | .all => .ok namer.patterns.toList
  | .only index =>
    match namer.patterns.toList.find? fun pattern => (pattern.index : Int) == index with
    | some pattern => .ok [pattern]
    | none => .error (.invalidIndex index)

/-- The template of a pattern for a kind of name; patterns at root level have none for the
    parent. -/
def templateFor (kind : NameKind) (pattern : Pattern) : Option Template :=
  match kind with
  | .own => some pattern.template
  | .parent => if pattern.isRoot then none else some pattern.parent

/-- Formats the name of a record or of its parent. -/
def formatKind (namer : Namer schema type) (kind : NameKind) (record : Record ι)
    (selector : Selector) : Except NamerError String := do
  let patterns ← namer.selected selector
  (namer.fillFirst record none (patterns.filterMap (templateFor kind))).mapError
    fun last => .noPatternFound kind namer.typeName last

/-- Formats the name of a record. -/
def format (namer : Namer schema type) (record : Record ι) (selector : Selector) :
    Except NamerError String :=
  namer.formatKind .own record selector

/-- Formats the name of the parent of a record. -/
def formatParent (namer : Namer schema type) (record : Record ι) (selector : Selector) :
    Except NamerError String :=
  namer.formatKind .parent record selector

end ResourceNames.Namer
