import ResourceNames.Binding.Error
import ResourceNames.Record.Schema
import ResourceNames.Text.SnakeCase

set_option autoImplicit false

/-! # Bindings

Which field each key reads and writes. The fields of a record type are visited in a fixed order:
first all scalars of the record itself, as declared, then its nested records, as declared, each
completely before the next. Where two visits bind the same key the later one stands, so that a
nested record shadows the records it is nested in.

A type on the path to a field must not be met again there, or the visit would never end; this is
also why it does end: every descent leaves one type less to meet. -/

namespace ResourceNames

variable {ι : Type}

/-- Where in a record the value of one key is. -/
structure Binding where
  key : String
  /-- The path from the record to the field. -/
  path : List Nat
  kind : ScalarKind
  /-- Whether the field may be absent. -/
  pointer : Bool
  /-- The name of the field at the end of the path. -/
  field : String
deriving DecidableEq

/-- Bindings with distinct keys, in ascending order of the keys. -/
structure Bindings where
  entries : List Binding
deriving DecidableEq

namespace Bindings

def empty : Bindings := ⟨[]⟩

/-- The binding of a key. -/
def get? (bindings : Bindings) (key : String) : Option Binding :=
  bindings.entries.find? fun binding => binding.key == key

def contains (bindings : Bindings) (key : String) : Bool :=
  (bindings.get? key).isSome

/-- The bound keys, in ascending order. -/
def keys (bindings : Bindings) : List String :=
  bindings.entries.map Binding.key

def size (bindings : Bindings) : Nat :=
  bindings.entries.length

def isEmpty (bindings : Bindings) : Bool :=
  bindings.entries.isEmpty

/-- Puts a binding in its place in an ascending list, where an older one of the same key gives
    way. -/
def insertEntry (binding : Binding) : List Binding → List Binding
  | [] => [binding]
  | first :: rest =>
    if first.key = binding.key then binding :: rest
    else if binding.key < first.key then binding :: first :: rest
    else first :: insertEntry binding rest

/-- The bindings with one more, which takes the place of an older one of the same key. -/
def insert (bindings : Bindings) (binding : Binding) : Bindings :=
  ⟨insertEntry binding bindings.entries⟩

theorem find?_insertEntry (binding : Binding) (entries : List Binding) (key : String) :
    (insertEntry binding entries).find? (fun entry => entry.key == key) =
      if binding.key = key then some binding
      else entries.find? fun entry => entry.key == key := by
  induction entries with
  | nil => by_cases h : binding.key = key <;> simp [insertEntry, h]
  | cons first rest ih =>
      by_cases hsame : first.key = binding.key
      · by_cases h : binding.key = key <;> simp [insertEntry, hsame, h]
      · have hother : binding.key = key → (first.key == key) = false := by
          intro h
          simpa [h] using hsame
        by_cases hless : binding.key < first.key
        · rw [insertEntry, if_neg hsame, if_pos hless]
          by_cases h : binding.key = key <;> simp [List.find?_cons, h]
        · rw [insertEntry, if_neg hsame, if_neg hless, List.find?_cons, ih, List.find?_cons]
          by_cases h : binding.key = key
          · simp [h, hother h]
          · simp [h]

/-- The newest binding of a key is the one that stands. -/
theorem get?_insert (bindings : Bindings) (binding : Binding) (key : String) :
    (bindings.insert binding).get? key =
      if binding.key = key then some binding else bindings.get? key :=
  find?_insertEntry binding bindings.entries key

end Bindings

/-! ## Visiting fields -/

/-- The keys of a field: those it declares, or else its name in snake case. -/
def FieldEntry.boundKeys (entry : FieldEntry ι) : List String :=
  if entry.keys.isEmpty then [Text.snakeCase entry.name] else entry.keys

/-- Binds the scalars among `entries`, the entries of a table from `index` on. -/
def Bindings.bindScalars (type : String) (path : List Nat) (index : Nat) (bindings : Bindings) :
    List (FieldEntry ι) → Except BindingError Bindings
  | [] => .ok bindings
  | entry :: rest =>
    match entry.shape with
    | .scalar kind pointer =>
      let bound := entry.boundKeys.foldl
        (fun bound key => bound.insert ⟨key, path ++ [index], kind, pointer, entry.name⟩) bindings
      bindScalars type path (index + 1) bound rest
    | .container kind =>
      if entry.keys.isEmpty then bindScalars type path (index + 1) bindings rest
      else .error (.annotatedContainer entry.name type kind)
    | _ => bindScalars type path (index + 1) bindings rest

namespace Schema

variable [DecidableEq ι]

/-- How many types are not among those on a path. -/
def unmet (schema : Schema ι) (met : List ι) : Nat :=
  (schema.types.filter fun type => decide (type ∉ met)).length

/-- Every new type on a path leaves fewer to meet. -/
theorem unmet_cons_lt (schema : Schema ι) {met : List ι} {type : ι} (h : type ∉ met) :
    schema.unmet (type :: met) < schema.unmet met := by
  have hsplit : schema.types.filter (fun other => decide (other ∉ type :: met)) =
      (schema.types.filter fun other => decide (other ∉ met)).filter
        fun other => decide (other ≠ type) := by
    rw [List.filter_filter]
    congr 1
    funext other
    simp [List.mem_cons, not_or]
  unfold unmet
  rw [hsplit]
  apply List.length_filter_lt_length_iff_exists.2
  exact ⟨type, List.mem_filter.2 ⟨schema.mem_types type, by simpa using h⟩, by simp⟩

/-- Binds all fields of a record type, where `met` are the types on the path to the record, its own
    included. -/
def visit (schema : Schema ι) (met : List ι) (path : List Nat) (type : ι) (bindings : Bindings) :
    Except BindingError Bindings := do
  let table := (schema.record type).table
  -- All scalars come before any nested record, whatever their order in the table.
  let bound ← Bindings.bindScalars (schema.record type).name path 0 bindings table
  table.zipIdx.foldlM
    (fun bound (entry, index) =>
      match entry.shape with
      | .record inner _ =>
        if _ : inner ∈ met then
          .error (.recursiveRecord (schema.record inner).name entry.name)
        else visit schema (inner :: met) (path ++ [index]) inner bound
      | _ => .ok bound)
    bound
termination_by schema.unmet met
decreasing_by exact schema.unmet_cons_lt (by assumption)

/-- The bindings of a record type. -/
def bindings (schema : Schema ι) (type : ι) : Except BindingError Bindings :=
  schema.visit [type] [] type .empty

end Schema

end ResourceNames
