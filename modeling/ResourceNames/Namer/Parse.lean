import ResourceNames.Namer.Basic
import ResourceNames.Record.Access

set_option autoImplicit false

/-! # Parsing

A name is parsed with the pattern of lowest index that it matches. Its tokens are assigned to the
fields of the keys, left to right; a wildcard leaves its field as it is. Where a token fails, what
was assigned before it stays. -/

namespace ResourceNames.Namer

variable {ι : Type} {schema : Schema ι} {type : ι}

/-- The error of the namer for a failed assignment of a token. -/
def keyError (namer : Namer schema type) (key token : String) : AssignError → KeyError
  | .notScalar found => .notScalar key namer.typeName found
  | .malformed error => .invalidValue key token (.malformed error)

/-- Assigns tokens to the fields of their keys, in order. -/
def assign (namer : Namer schema type) :
    List (String × String) → Record ι → Record ι × Except KeyError Unit
  | [], record => (record, .ok ())
  | (key, token) :: rest, record =>
    match namer.bindings.get? key with
    | none => (record, .error (.unbound key namer.typeName))
    | some binding =>
      -- A wildcard is not even followed to its field, so that nothing is allocated for it.
      if token = Text.wildcard then namer.assign rest record
      else
        match schema.assign binding.path token record with
        | (record, .ok ()) => namer.assign rest record
        | (record, .error error) => (record, .error (namer.keyError key token error))

/-- Assigns the tokens of a match to the fields of the keys of its template, and answers with the
    index of the pattern. -/
def assignMatch (namer : Namer schema type) (index : Nat) (template : Template)
    (tokens : List String) (record : Record ι) : Record ι × Except NamerError Nat :=
  match namer.assign (template.keys.zip tokens) record with
  | (record, .ok ()) => (record, .ok index)
  | (record, .error error) => (record, .error (.key error))

/-- Parses a name into a record, and answers with the index of the pattern. -/
def parse (namer : Namer schema type) (name : String) (record : Record ι) :
    Record ι × Except NamerError Nat :=
  match namer.patterns.matchName? name with
  | none => (record, .error (.invalidName name))
  | some (pattern, tokens) => namer.assignMatch pattern.index pattern.template tokens record

/-- Parses the name of a parent into a record, and answers with the index of the pattern whose
    parent it is. The empty text is the parent of every pattern at root level. -/
def parseParent (namer : Namer schema type) (parent : String) (record : Record ι) :
    Record ι × Except NamerError Nat :=
  match namer.patterns.matchParent? parent with
  | none => (record, .error (.invalidParent parent))
  | some (pattern, tokens) => namer.assignMatch pattern.index pattern.parent tokens record

end ResourceNames.Namer
