import ResourceNames.Declaration.Error
import ResourceNames.Namer.Basic
import ResourceNames.PatternSet.Basic
import ResourceNames.Record.Field
import ResourceNames.Text.Blank

set_option autoImplicit false

/-! # Declarations of record types

A record type is declared as a struct with attributes. The attributes of the struct give the
patterns of its names and the resource type; those of a field give the keys it binds, or leave the
field out. What is declared is checked in a fixed order, and the first fault is reported: the
attributes of the struct, the number of patterns, the kind of the declared item, then the fields. -/

namespace ResourceNames

/-- The value of an attribute, which is of use only if it is a text. -/
inductive AttributeValue
  | text (text : String)
  | number
deriving DecidableEq

/-- One item of an attribute: a word, and possibly a value. -/
structure AttributeItem where
  word : String
  value : Option AttributeValue
deriving DecidableEq

/-- The text of an item that must have one. -/
def AttributeItem.text (item : AttributeItem) : Except DeclarationError String :=
  match item.value with
  | some (.text text) => .ok text
  | some .number => .error .notText
  | none => .error .missingValue

/-- An attribute, with the name of the tool it is meant for. -/
structure Attribute where
  tool : String
  items : List AttributeItem
deriving DecidableEq

/-- The items of the attributes that are meant for a tool, in order. -/
def itemsFor (tool : String) (attributes : List Attribute) : List AttributeItem :=
  (attributes.filter fun group => group.tool == tool).flatMap Attribute.items

/-- The kinds of items that can be declared. -/
inductive DeclaredKind
  /-- A struct with named fields. -/
  | struct
  /-- A struct without fields. -/
  | unit
  /-- A struct whose fields have no names. -/
  | tuple
  | enum
  | union
deriving DecidableEq

/-- A declared field with contents of type `τ`. -/
structure FieldDeclaration (τ : Type) where
  name : String
  type : τ
  attributes : List Attribute
deriving DecidableEq

/-- A declared item. -/
structure Declaration (τ : Type) where
  kind : DeclaredKind
  name : String
  attributes : List Attribute
  fields : List (FieldDeclaration τ)
deriving DecidableEq

variable {τ : Type}

/-! ## Attributes of the struct -/

/-- What the attributes of a struct say. -/
structure StructSettings where
  resource : Option String
  patterns : List String
deriving DecidableEq

namespace StructSettings

def empty : StructSettings := ⟨none, []⟩

/-- Takes in one item. -/
def add (settings : StructSettings) (item : AttributeItem) :
    Except DeclarationError StructSettings :=
  if item.word = "pattern" then do
    let pattern ← item.text
    match Template.parse pattern with
    | .ok _ => .ok { settings with patterns := settings.patterns ++ [pattern] }
    | .error error => .error (.invalidPattern error)
  else if item.word = "resource" then
    if settings.resource.isSome then .error .duplicateResource
    else do
      let resource ← item.text
      .ok { settings with resource := some resource }
  else .error .unknownTypeAttribute

/-- Refuses more patterns than can have indices, and a resource type without patterns. -/
def check (settings : StructSettings) : Except DeclarationError StructSettings :=
  if PatternSet.firstExtraIndex < settings.patterns.length then
    .error (.tooManyPatterns PatternSet.firstExtraIndex)
  else if settings.patterns.isEmpty && settings.resource.isSome then
    .error .resourceWithoutPattern
  else .ok settings

/-- Reads the attributes of a struct. -/
def ofAttributes (tool : String) (attributes : List Attribute) :
    Except DeclarationError StructSettings := do
  let settings ← (itemsFor tool attributes).foldlM add empty
  settings.check

/-- The resource that a struct of the given name declares, if it declares patterns. -/
def toResource? (settings : StructSettings) (name : String) : Option Resource :=
  if settings.patterns.isEmpty then none
  else some ⟨settings.resource.getD (plainName name), settings.patterns⟩

end StructSettings

/-! ## Attributes of a field -/

/-- The parts of a list of keys in one text: what stands between commas, without blanks around. -/
def keyParts (text : String) : List String :=
  (text.toList.splitOn ',').map fun part => String.ofList (Text.trimBlanks part)

/-- Appends keys that are not there yet, in order; every one of them must be a key. -/
def addKeys (keys : List String) : List String → Except DeclarationError (List String)
  | [] => .ok keys
  | key :: rest =>
    if isVariableKey key then addKeys (if key ∈ keys then keys else keys ++ [key]) rest
    else .error (.invalidKey key)

/-- What the attributes of a field say. -/
structure FieldSettings where
  keys : List String
  skipped : Bool
deriving DecidableEq

namespace FieldSettings

def empty : FieldSettings := ⟨[], false⟩

/-- Takes in one item. -/
def add (settings : FieldSettings) (item : AttributeItem) :
    Except DeclarationError FieldSettings :=
  if item.word = "key" then do
    let text ← item.text
    let keys ← addKeys settings.keys (keyParts text)
    .ok { settings with keys := keys }
  else if item.word = "skip" then
    if item.value.isSome then .error .unexpectedValue
    else .ok { settings with skipped := true }
  else .error .unknownFieldAttribute

/-- Reads the attributes of a field. -/
def ofAttributes (tool : String) (attributes : List Attribute) :
    Except DeclarationError FieldSettings := do
  let settings ← (itemsFor tool attributes).foldlM add empty
  if settings.skipped && !settings.keys.isEmpty then .error .skippedWithKeys else .ok settings

end FieldSettings

/-- Reads a declared field. -/
def FieldDeclaration.read (tool : String) (field : FieldDeclaration τ) :
    Except DeclarationError (RecordField τ) := do
  let settings ← FieldSettings.ofAttributes tool field.attributes
  return ⟨field.name, settings.keys, settings.skipped, field.type⟩

/-! ## The whole declaration -/

/-- What a declaration amounts to. -/
structure Derivation (τ : Type) where
  /-- All declared fields, the skipped ones included. -/
  fields : List (RecordField τ)
  resource : Option Resource
deriving DecidableEq

namespace Declaration

/-- The fields of an item that can be a record type. -/
def recordFields (declaration : Declaration τ) :
    Except DeclarationError (List (FieldDeclaration τ)) :=
  match declaration.kind with
  | .struct => .ok declaration.fields
  | .unit => .ok []
  | .tuple => .error .unnamedFields
  | .enum => .error .notStruct
  | .union => .error .notStruct

/-- Reads a declaration, where the attributes that count are those for `tool`. -/
def derive (tool : String) (declaration : Declaration τ) :
    Except DeclarationError (Derivation τ) := do
  let settings ← StructSettings.ofAttributes tool declaration.attributes
  let declared ← declaration.recordFields
  let fields ← declared.mapM (FieldDeclaration.read tool)
  return ⟨fields, settings.toResource? declaration.name⟩

end Declaration

end ResourceNames
