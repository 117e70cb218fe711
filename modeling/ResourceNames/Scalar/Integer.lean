set_option autoImplicit false

/-! # Integers of fixed width

The integer types of fields, their ranges, and how their decimal texts are read. A text is judged
digit by digit, left to right. Texts too short to leave the range are summed up without looking at
it; for longer ones the range is checked at each digit, first for the product with ten, then for
the sum, and a character that is no digit is reported in between. -/

namespace ResourceNames

-- Powers of numbers mean the same here whatever else is imported.
attribute [local instance (high)] instPowNat

/-- The widths of integer fields. -/
inductive IntegerWidth
  | bits8 | bits16 | bits32 | bits64
deriving DecidableEq

def IntegerWidth.bytes : IntegerWidth → Nat
  | .bits8 => 1
  | .bits16 => 2
  | .bits32 => 4
  | .bits64 => 8

/-- A type of integers: those of one width, with or without a sign. -/
structure IntegerType where
  signed : Bool
  width : IntegerWidth
deriving DecidableEq

/-- Why a text is no integer of a type. -/
inductive IntegerError
  | empty
  | invalidDigit
  | tooLarge
  | tooSmall
deriving DecidableEq

/-- The error in words. -/
def IntegerError.message : IntegerError → String
  | .empty => "cannot parse integer from empty string"
  | .invalidDigit => "invalid digit found in string"
  | .tooLarge => "number too large to fit in target type"
  | .tooSmall => "number too small to fit in target type"

namespace IntegerType

def bits (type : IntegerType) : Nat :=
  8 * type.width.bytes

/-- The smallest number of the type. -/
def min (type : IntegerType) : Int :=
  if type.signed then -2 ^ (type.bits - 1) else 0

/-- The largest number of the type. -/
def max (type : IntegerType) : Int :=
  if type.signed then 2 ^ (type.bits - 1) - 1 else 2 ^ type.bits - 1

/-- A number of the type. -/
abbrev Value (type : IntegerType) : Type :=
  { number : Int // type.min ≤ number ∧ number ≤ type.max }

theorem min_le_zero (type : IntegerType) : type.min ≤ 0 := by
  rcases type with ⟨_ | _, _ | _ | _ | _⟩ <;> decide

theorem zero_le_max (type : IntegerType) : 0 ≤ type.max := by
  rcases type with ⟨_ | _, _ | _ | _ | _⟩ <;> decide

def zero (type : IntegerType) : type.Value :=
  ⟨0, type.min_le_zero, type.zero_le_max⟩

/-- The number as one of the type, if it is in range. -/
def ofInt? (type : IntegerType) (number : Int) : Option type.Value :=
  if h : type.min ≤ number ∧ number ≤ type.max then some ⟨number, h⟩ else none

theorem wrap_mem (type : IntegerType) (number : Int) :
    let wrapped := if type.signed then number.bmod (2 ^ type.bits) else number % 2 ^ type.bits
    type.min ≤ wrapped ∧ wrapped ≤ type.max := by
  have hpos : 0 < 2 ^ type.bits := Nat.two_pow_pos _
  have hlow := Int.le_bmod (x := number) hpos
  have hhigh := Int.bmod_lt (x := number) hpos
  rcases type with ⟨_ | _, _ | _ | _ | _⟩ <;>
    simp [min, max, bits, IntegerWidth.bytes] at hlow hhigh ⊢ <;> omega

/-- The number of the type that differs from `number` by a multiple of two to the width, as the
    type's own arithmetic has it. -/
def wrap (type : IntegerType) (number : Int) : type.Value :=
  ⟨if type.signed then number.bmod (2 ^ type.bits) else number % 2 ^ type.bits,
    type.wrap_mem number⟩

/-! ## Reading -/

/-- The value of a decimal digit. -/
def digit? (c : Char) : Option Nat :=
  if c.isDigit then some (c.toNat - '0'.toNat) else none

/-- Moves `number` away from zero by `digit`. -/
def addDigit (negative : Bool) (number : Int) (digit : Nat) : Int :=
  if negative then number - digit else number + digit

/-- The error for a number outside the range. -/
def overflow (negative : Bool) : IntegerError :=
  if negative then .tooSmall else .tooLarge

/-- Appends digits to `number` in the arithmetic of the type. -/
def appendUnchecked (type : IntegerType) (negative : Bool) (number : type.Value) :
    List Char → Except IntegerError type.Value
  | [] => .ok number
  | c :: rest =>
    match digit? c with
    | none => .error .invalidDigit
    | some digit =>
      let product := type.wrap (number.val * 10)
      appendUnchecked type negative (type.wrap (addDigit negative product.val digit)) rest

/-- Appends digits to `number` as long as the result is in range. -/
def appendChecked (type : IntegerType) (negative : Bool) (number : type.Value) :
    List Char → Except IntegerError type.Value
  | [] => .ok number
  | c :: rest =>
    -- A product out of range is not reported before the character has proved to be a digit.
    let product := type.ofInt? (number.val * 10)
    match digit? c with
    | none => .error .invalidDigit
    | some digit =>
      match product.bind fun p => type.ofInt? (addDigit negative p.val digit) with
      | none => .error (overflow negative)
      | some sum => appendChecked type negative sum rest

/-- The most digits that cannot leave the range, whatever they are: two for each byte, and one less
    where a bit is the sign. -/
def safeDigits (type : IntegerType) : Nat :=
  2 * type.width.bytes - (if type.signed then 1 else 0)

/-- Reads what follows the sign. -/
def parseDigits (type : IntegerType) (negative : Bool) (digits : List Char) :
    Except IntegerError type.Value :=
  if digits.length ≤ type.safeDigits then appendUnchecked type negative type.zero digits
  else appendChecked type negative type.zero digits

/-- Reads a decimal number: digits after an optional `+`, or `-` where the type has a sign. -/
def parse (type : IntegerType) (text : String) : Except IntegerError type.Value :=
  match text.toList with
  | [] => .error .empty
  | c :: rest =>
    if (c = '+' || c = '-') && rest.isEmpty then .error .invalidDigit
    else if c = '+' then type.parseDigits false rest
    else if c = '-' && type.signed then type.parseDigits true rest
    else type.parseDigits false (c :: rest)

end IntegerType

end ResourceNames
