import ResourceNames.Namer.Basic
import ResourceNames.Template.Render

set_option autoImplicit false

/-! # Namers without records

Names of values that are no records: the user says which texts the variables of a pattern get for a
value, with a getter, and which value the tokens of a name stand for, with a setter. Getters and
setters may fail, and have effects in a monad of the user's choice.

There are three uses. A resource at root level is named by its id, a singleton by its parent, and
the member of a collection by both. The namers of the latter two also parse the names of parents,
where a singleton of three segments has a parent. -/

namespace ResourceNames

-- Powers of numbers mean the same here whatever else is imported.
attribute [local instance (high)] instPowNat

/-! ## Patterns -/

namespace PatternSet

/-- The pattern with the lowest index whose parent `parent` is, and the tokens of `parent`. Patterns
    of one or two segments have no parent; such a pattern is chosen, without tokens, by the empty
    text and by its own names. -/
def matchSingletonParent? (set : PatternSet) (parent : String) :
    Option (Pattern × Option (List String)) :=
  set.toList.findSome? fun pattern =>
    match pattern.template.singletonParent? with
    | some template => (template.tokens? parent).map fun tokens => (pattern, some tokens)
    | none =>
      -- The resource stands for its own missing parent.
      if parent = "" || pattern.template.describes parent then some (pattern, none) else none

end PatternSet

/-- What errors call the values that a getter gives. -/
def getterValues : String := "getter values"

/-- The next of the values that are left, for a key. -/
def nextValue (key : String) : StateT (List String) (Except KeyError) String := do
  match ← get with
  | [] => throw (.unbound key getterValues)
  | value :: rest =>
    set rest
    if value = "" then throw (.invalidValue key "" .absent) else return value

/-- A template filled with values, one for each key, left to right. Values left over are dropped. -/
def Template.renderValues (template : Template) (values : List String) : Except KeyError String :=
  (template.renderBy nextValue : StateT (List String) (Except KeyError) String).run' values

/-! ## Values of one kind -/

/-- A namer for values of type `α`, with a getter and a setter in the monad `m`. -/
structure ValueNamer (m : Type → Type) (α : Type) where
  patterns : PatternSet
  /-- The texts for the variables of the pattern with the given index. -/
  getter : α → Nat → ExceptT NamerError m (List String)
  /-- The value that the tokens of the pattern with the given index stand for. -/
  setter : List String → Nat → ExceptT NamerError m α

namespace ValueNamer

variable {m : Type → Type} [Monad m] {α : Type}

/-- The largest index that errors tell. -/
def maxReportedIndex : Nat := 2 ^ (63 : Nat) - 1

/-- Formats the name of a value with the pattern of the given index. -/
def format (namer : ValueNamer m α) (value : α) (index : Nat) : ExceptT NamerError m String :=
  match namer.patterns.get? index with
  | none => throw (.invalidIndex (min index maxReportedIndex : Nat))
  | some pattern => do
    let values ← namer.getter value index
    match pattern.template.renderValues values with
    | .ok name => return name
    | .error error => throw (.key error)

/-- Parses a name into a value, with the index of the pattern. -/
def parse (namer : ValueNamer m α) (name : String) : ExceptT NamerError m (α × Nat) :=
  match namer.patterns.matchName? name with
  | none => throw (.invalidName name)
  | some (pattern, tokens) => do
    let value ← namer.setter tokens pattern.index
    return (value, pattern.index)

end ValueNamer

/-! ## The three uses -/

variable {m : Type → Type} {α : Type}

/-- A namer for resources at root level, which have an id and no parent. -/
abbrev IdNamer (m : Type → Type) (Id : Type) : Type :=
  ValueNamer m Id

/-- Refuses a pattern with more than one variable, for an id is one value. -/
def checkIdPattern (pattern : Pattern) : Except PatternSetError Unit :=
  let template := pattern.template
  if 1 < template.variableCount then
    .error (.invalidPattern pattern.index template.text
      (.arity template.text 1 template.variableCount))
  else .ok ()

/-- Makes a namer for ids from the texts of patterns. -/
def IdNamer.compile {Id : Type} (patterns : List String)
    (getter : Id → Nat → ExceptT NamerError m (List String))
    (setter : List String → Nat → ExceptT NamerError m Id) :
    Except PatternSetError (IdNamer m Id) := do
  let set ← PatternSet.compile patterns []
  set.toList.forM checkIdPattern
  return ⟨set, getter, setter⟩

/-- A namer for values of type `α` that have a parent of type `Parent`. -/
structure ParentedNamer (m : Type → Type) (Parent α : Type) extends ValueNamer m α where
  /-- The parent that the tokens of the parent of the pattern with the given index stand for. -/
  parentSetter : List String → Nat → ExceptT NamerError m Parent

/-- A namer for singletons, which have a parent and no id. -/
abbrev ParentNamer (m : Type → Type) (Parent : Type) : Type :=
  ParentedNamer m Parent Parent

/-- A namer for members of collections, which have a parent and an id. -/
abbrev ParentIdNamer (m : Type → Type) (Parent Id : Type) : Type :=
  ParentedNamer m Parent (Parent × Id)

namespace ParentedNamer

variable {Parent : Type}

/-- Makes a namer from the texts of patterns. -/
def compile (patterns : List String) (getter : α → Nat → ExceptT NamerError m (List String))
    (setter : List String → Nat → ExceptT NamerError m α)
    (parentSetter : List String → Nat → ExceptT NamerError m Parent) :
    Except PatternSetError (ParentedNamer m Parent α) := do
  let set ← PatternSet.compile patterns []
  return ⟨⟨set, getter, setter⟩, parentSetter⟩

/-- Parses the name of a parent, with the index of the pattern whose parent it is. A pattern at root
    level gives the default parent. -/
def parseParent [Monad m] [Inhabited Parent] (namer : ParentedNamer m Parent α) (parent : String) :
    ExceptT NamerError m (Parent × Nat) :=
  match namer.patterns.matchSingletonParent? parent with
  | none => throw (.invalidParent parent)
  | some (pattern, none) => return (default, pattern.index)
  | some (pattern, some tokens) => do
    let value ← namer.parentSetter tokens pattern.index
    return (value, pattern.index)

end ParentedNamer

end ResourceNames
