set_option autoImplicit false

/-! # Declared fields

The fields of a record type as they are declared, and the table that binding works with. The table
leaves out the fields that are skipped, so that an index into it and the position of the field in
the declaration differ behind a skipped field; `place?` translates the one into the other. -/

namespace ResourceNames

/-- A name without the mark `r#` that lets a declaration use a reserved word. -/
def plainName (name : String) : String :=
  match name.toList with
  | 'r' :: '#' :: rest => String.ofList rest
  | _ => name

/-- A declared field with contents of type `τ`. -/
structure RecordField (τ : Type) where
  /-- The name as it is declared, mark included. -/
  name : String
  /-- The keys that the field binds; where there are none, the name gives the key. -/
  keys : List String
  /-- Whether the field is left out of the table. -/
  skipped : Bool
  type : τ
deriving DecidableEq

namespace RecordField

variable {τ : Type}

/-- The fields that are in the table, in the order of declaration. -/
def table (fields : List (RecordField τ)) : List (RecordField τ) :=
  fields.filter fun field => !field.skipped

/-- The position, among all declared fields, of the one with the given index in the table. -/
def place? : List (RecordField τ) → Nat → Option Nat
  | [], _ => none
  | field :: rest, index =>
    if field.skipped then (place? rest index).map (· + 1)
    else
      match index with
      | 0 => some 0
      | index + 1 => (place? rest index).map (· + 1)

/-- An index of the table and its place lead to the same field. -/
theorem bind_place? (fields : List (RecordField τ)) (index : Nat) :
    (place? fields index).bind (fields[·]?) = (table fields)[index]? := by
  induction fields generalizing index with
  | nil => simp [place?, table]
  | cons field rest ih =>
      have hshift : ∀ n, ((place? rest n).map (· + 1)).bind ((field :: rest)[·]?) =
          (table rest)[n]? := by
        intro n
        rw [← ih n]
        cases place? rest n <;> simp
      by_cases hskip : field.skipped
      · simpa [place?, table, hskip] using hshift index
      · cases index with
        | zero => simp [place?, table, hskip]
        | succ index => simpa [place?, table, hskip] using hshift index

end RecordField

end ResourceNames
