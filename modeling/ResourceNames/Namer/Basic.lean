import ResourceNames.Binding.Basic
import ResourceNames.Namer.Error
import ResourceNames.PatternSet.Basic

set_option autoImplicit false

/-! # Namers

A namer joins a pattern set and a record type: it formats names from records and parses names into
records. A strict namer is refused if some pattern uses a key that the record type does not bind; a
lenient one is made, and such a pattern fails when it is used. -/

namespace ResourceNames

variable {ι : Type}

/-- A resource type and the patterns it declares for its names. -/
structure Resource where
  type : String
  patterns : List String
deriving DecidableEq

/-- How a namer is made. -/
structure Namer.Options where
  /-- Patterns to add to those that are declared. -/
  extraPatterns : List String
  /-- Whether every key of every pattern has to be bound. -/
  strict : Bool
deriving DecidableEq

/-- No extra patterns, and strict. -/
def Namer.Options.standard : Namer.Options := ⟨[], true⟩

/-- Which patterns formatting may use. -/
inductive Selector
  /-- Every pattern, in ascending order of the indices. -/
  | all
  /-- The pattern with the given index. -/
  | only (index : Int)
deriving DecidableEq

namespace Selector

/-- The selector for a number: -1 stands for every pattern. -/
def ofInt (number : Int) : Selector :=
  if number = -1 then .all else .only number

/-- Selects the first declared pattern. -/
def standard : Selector := .only 0

end Selector

/-- A namer for the records of one type of a schema. -/
structure Namer (schema : Schema ι) (type : ι) where
  patterns : PatternSet
  bindings : Bindings
deriving DecidableEq

namespace Namer

/-- The name of the record type. -/
def typeName {schema : Schema ι} {type : ι} (_namer : Namer schema type) : String :=
  (schema.record type).name

/-- The first key that the bindings lack, with the first pattern that uses it. -/
def missingKey? (set : PatternSet) (bindings : Bindings) : Option (Template × String) :=
  set.toList.findSome? fun pattern =>
    (pattern.template.keys.find? fun key => !bindings.contains key).map (pattern.template, ·)

/-- Makes a namer from the texts of patterns. -/
def compile [DecidableEq ι] (schema : Schema ι) (type : ι) (patterns : List String)
    (options : Namer.Options) : Except ConfigurationError (Namer schema type) := do
  let set ← (PatternSet.compile patterns options.extraPatterns).mapError .patterns
  let bindings ← (schema.bindings type).mapError .binding
  match if options.strict then missingKey? set bindings else none with
  | some (template, key) =>
    .error (.missingBinding key template.text (schema.record type).name)
  | none => .ok ⟨set, bindings⟩

/-- Makes a namer from the patterns that a resource declares. -/
def forResource [DecidableEq ι] (schema : Schema ι) (type : ι) (resource : Resource)
    (options : Namer.Options) : Except ConfigurationError (Namer schema type) :=
  compile schema type resource.patterns options

end Namer

end ResourceNames
