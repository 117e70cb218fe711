import ResourceNames.PatternSet.Error
import ResourceNames.Template.Match
import ResourceNames.Template.Parent
import ResourceNames.Template.Parse

set_option autoImplicit false

/-! # Pattern sets

The patterns that the names of one resource type may follow. Each has an index that never changes:
the declared patterns are numbered from 0, patterns added by a user of the type from 100, so that
more patterns can be declared later without renumbering any.

A name may match several patterns. The one with the lowest index counts. -/

namespace ResourceNames

/-- A template with its index in a set. -/
structure Pattern where
  index : Nat
  template : Template
deriving DecidableEq

namespace Pattern

/-- The template of the containing resource. -/
def parent (pattern : Pattern) : Template :=
  pattern.template.parent

/-- Whether no resource contains the one that the pattern names. -/
def isRoot (pattern : Pattern) : Bool :=
  pattern.parent.isEmpty

end Pattern

/-- Patterns in ascending order of their indices. -/
structure PatternSet where
  patterns : Array Pattern
deriving DecidableEq

namespace PatternSet

/-- The index of the first extra pattern, and so the most patterns that can be declared. -/
def firstExtraIndex : Nat := 100

/-- Reads the pattern with the given index. -/
def compilePattern (index : Nat) (pattern : String) : Except PatternSetError Pattern :=
  match Template.parse pattern with
  | .ok template => .ok ⟨index, template⟩
  | .error cause => .error (.invalidPattern index pattern cause)

/-- Reads patterns that are numbered from `index` on. -/
def compileFrom (index : Nat) : List String → Except PatternSetError (List Pattern)
  | [] => .ok []
  | pattern :: rest => do
    let first ← compilePattern index pattern
    let others ← compileFrom (index + 1) rest
    return first :: others

/-- The set of the declared patterns, of which there must be one, and the extra ones. -/
def compile (declared extra : List String) : Except PatternSetError PatternSet :=
  if declared.isEmpty then .error .noPatterns
  else if firstExtraIndex < declared.length then
    .error (.tooManyDeclared declared.length firstExtraIndex)
  else do
    let first ← compileFrom 0 declared
    let second ← compileFrom firstExtraIndex extra
    return ⟨(first ++ second).toArray⟩

/-- The patterns in ascending order of their indices. -/
def toList (set : PatternSet) : List Pattern :=
  set.patterns.toList

def size (set : PatternSet) : Nat :=
  set.patterns.size

def isEmpty (set : PatternSet) : Bool :=
  set.patterns.isEmpty

/-- The indices, in ascending order. -/
def indices (set : PatternSet) : List Nat :=
  set.toList.map Pattern.index

/-- Looks for the pattern with the given index among those at the positions from `low` up to, but
    not including, `high`, by halving. -/
def searchIndex (patterns : Array Pattern) (index low high : Nat) : Option Pattern :=
  if low < high then
    let middle := (low + high) / 2
    match patterns[middle]? with
    | none => none
    | some pattern =>
      if pattern.index = index then some pattern
      else if pattern.index < index then searchIndex patterns index (middle + 1) high
      else searchIndex patterns index low middle
  else none
termination_by high - low

/-- The pattern with the given index. -/
def get? (set : PatternSet) (index : Nat) : Option Pattern :=
  searchIndex set.patterns index 0 set.patterns.size

/-- The pattern with the lowest index that `name` matches, and the tokens of `name`. -/
def matchName? (set : PatternSet) (name : String) : Option (Pattern × List String) :=
  set.toList.findSome? fun pattern => (pattern.template.tokens? name).map (pattern, ·)

/-- The pattern with the lowest index whose parent `parent` matches, and the tokens of `parent`.
    The empty parent of a pattern at root level matches the empty text alone. -/
def matchParent? (set : PatternSet) (parent : String) : Option (Pattern × List String) :=
  set.toList.findSome? fun pattern => (pattern.parent.tokens? parent).map (pattern, ·)

end PatternSet

end ResourceNames
