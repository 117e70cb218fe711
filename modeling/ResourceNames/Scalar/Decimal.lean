import ResourceNames.Scalar.Binary

set_option autoImplicit false

/-! # Decimal texts of floating-point numbers

A number is written with the fewest digits that read back as the same number of its format; of
several such texts it is the one nearest to the number, and of two equally near ones the one further
from zero. The notation is positional, without an exponent.

Read are digits with an optional point among them, before or after, and an optional exponent, or
one of the words for infinity and for no number, in letters of either case. -/

namespace ResourceNames

-- Powers of numbers mean the same here whatever else is imported.
attribute [local instance (high)] instPowNat

/-- Why a text is no floating-point number. -/
inductive FloatError
  | empty
  | invalid
deriving DecidableEq

/-- The error in words. -/
def FloatError.message : FloatError → String
  | .empty => "cannot parse float from empty string"
  | .invalid => "invalid float literal"

namespace Binary

variable {format : FloatFormat}

/-! ## Writing -/

/-- The multiple of `10 ^ exponent` next to the number with the given rank, below or above, that
    reads back as that number; the nearer one if both do, and of two equally near ones the upper. -/
def readBackOnGrid (format : FloatFormat) (rank : Fin format.finiteCount) (exponent : Int) :
    Option Nat :=
  let numerator := format.numerator rank * 10 ^ (-exponent).toNat
  let denominator := format.denominator rank * 10 ^ exponent.toNat
  -- No other multiple can be nearer than the two around the number.
  let lower := numerator / denominator
  let readsBack (digits : Nat) : Bool := ofDecimal format false digits exponent = .finite false rank
  match readsBack lower, readsBack (lower + 1) with
  | true, true =>
    some (if denominator ≤ 2 * (numerator % denominator) then lower + 1 else lower)
  | true, false => some lower
  | false, true => some (lower + 1)
  | false, false => none

/-- The decimal grids between a power of ten above the number with the given rank and a grid that
    holds it exactly, the coarsest first, by their exponents. -/
def grids (format : FloatFormat) (rank : Fin format.finiteCount) : List Int :=
  let top : Int := decimalLength (format.numerator rank / format.denominator rank)
  let bottom : Int := min 0 (format.exponent rank)
  (List.range ((top - bottom).toNat + 1)).map fun step : Nat => top - (step : Int)

/-- The fewest digits, with the exponent of the last one, that read back as the number with the
    given rank: those on the coarsest grid that has any. -/
def shortestDecimal (format : FloatFormat) (rank : Fin format.finiteCount) : Nat × Int :=
  match (grids format rank).findSome? fun exponent =>
      (readBackOnGrid format rank exponent).map (·, exponent) with
  | some found => found
  | none => (format.significand rank * 5 ^ (-format.exponent rank).toNat *
      2 ^ (format.exponent rank).toNat, min 0 (format.exponent rank))

/-- The number `digits * 10 ^ exponent` in positional notation. -/
def positional (digits : Nat) (exponent : Int) : List Char :=
  let shown := Nat.toDigits 10 digits
  if 0 ≤ exponent then shown ++ List.replicate exponent.toNat '0'
  else
    let places := (-exponent).toNat
    if places < shown.length then
      shown.take (shown.length - places) ++ '.' :: shown.drop (shown.length - places)
    else '0' :: '.' :: List.replicate (places - shown.length) '0' ++ shown

/-- The sign as it is written. -/
def signText (negative : Bool) : List Char :=
  if negative then ['-'] else []

/-- The value as it stands in a name. -/
def text : Binary format → String
  | .nan => "NaN"
  | .infinite negative => String.ofList (signText negative ++ "inf".toList)
  | .finite negative rank =>
    if rank.val = 0 then String.ofList (signText negative ++ ['0'])
    else
      let decimal := shortestDecimal format rank
      String.ofList (signText negative ++ positional decimal.1 decimal.2)

/-! ## Reading -/

/-- An exponent that has reached this bound no longer grows with further digits. -/
def exponentBound : Nat := 65536

/-- The value of the digits of an exponent. -/
def exponentOfDigits (digits : List Char) : Nat :=
  digits.foldl
    (fun value c => if value < exponentBound then 10 * value + (c.toNat - '0'.toNat) else value) 0

/-- Reads what follows the digits of a number: nothing, or an exponent. -/
def parseExponent : List Char → Option Int
  | [] => some 0
  | c :: rest =>
    if c = 'e' ∨ c = 'E' then
      let negative := rest.head? = some '-'
      let digits := if rest.head? = some '-' ∨ rest.head? = some '+' then rest.tail else rest
      if digits.isEmpty || !digits.all Char.isDigit then none
      else
        let value : Int := exponentOfDigits digits
        some (if negative then -value else value)
    else none

/-- A decimal number without a sign, as it is written. -/
structure DecimalParts where
  /-- The digits before the point. -/
  whole : List Char
  /-- The digits after the point. -/
  fraction : List Char
  exponent : Int
deriving DecidableEq

/-- Splits a number without a sign into its parts; there must be a digit on one side of the
    point. -/
def decimalParts (text : List Char) : Option DecimalParts :=
  let whole := text.takeWhile Char.isDigit
  let afterWhole := text.dropWhile Char.isDigit
  let hasPoint := afterWhole.head? = some '.'
  let fraction := if hasPoint then afterWhole.tail.takeWhile Char.isDigit else []
  let rest := if hasPoint then afterWhole.tail.dropWhile Char.isDigit else afterWhole
  if whole.isEmpty && fraction.isEmpty then none
  else (parseExponent rest).map fun exponent => ⟨whole, fraction, exponent⟩

/-- Reads a number without a sign, as all its digits and the exponent of the last one. -/
def parseDecimal (text : List Char) : Option (Nat × Int) :=
  (decimalParts text).map fun parts =>
    (Nat.ofDigitChars 10 (parts.whole ++ parts.fraction) 0, parts.exponent - parts.fraction.length)

/-- Reads a word for a value that is no finite number, in letters of either case. -/
def parseWord (negative : Bool) (text : List Char) : Option (Binary format) :=
  let word := String.ofList (text.map Char.toLower)
  if word = "inf" ∨ word = "infinity" then some (.infinite negative)
  else if word = "nan" then some .nan
  else none

/-- Reads a value without a sign. -/
def parseUnsigned (negative : Bool) (text : List Char) : Except FloatError (Binary format) :=
  match parseDecimal text with
  | some (digits, exponent) => .ok (ofDecimal format negative digits exponent)
  | none =>
    match parseWord negative text with
    | some value => .ok value
    | none => .error .invalid

/-- Reads a value of the format, the nearest one to the decimal number that the text shows. -/
def parse (format : FloatFormat) (text : String) : Except FloatError (Binary format) :=
  match text.toList with
  | [] => .error .empty
  | c :: rest =>
    if c = '-' then parseUnsigned true rest
    else if c = '+' then parseUnsigned false rest
    else parseUnsigned false (c :: rest)

end Binary

end ResourceNames
