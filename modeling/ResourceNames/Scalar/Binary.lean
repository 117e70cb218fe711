set_option autoImplicit false

/-! # Binary floating-point numbers

The numbers of the two binary floating-point formats, single and double, and the rounding of a
fraction to the nearest of them. Everything is exact arithmetic on natural numbers.

The finite numbers of one sign are in order, and each is known by its rank in that order: zero has
rank 0, the smallest number above it rank 1, and so on. A rank fixes a significand and an exponent,
whose product with a power of two is the number. Rounding up to the next number is adding one to
the rank, also where the exponent changes, and a rank beyond the last one means overflow. -/

namespace ResourceNames

-- Powers of numbers mean the same here whatever else is imported.
attribute [local instance (high)] instPowNat

/-- The binary floating-point formats of 32 and 64 bits. -/
inductive FloatFormat
  | single
  | double
deriving DecidableEq

namespace FloatFormat

/-- The number of bits of a significand. -/
def precision : FloatFormat → Nat
  | .single => 24
  | .double => 53

/-- The exponent of the last bit of the smallest numbers. -/
def minExponent : FloatFormat → Int
  | .single => -149
  | .double => -1074

/-- How many times the exponent grows, starting with the numbers next to zero. -/
def binades : FloatFormat → Nat
  | .single => 255
  | .double => 2047

/-- The number of ranks that share an exponent: the significands with the first bit set, or
    without it. -/
def binadeSize (format : FloatFormat) : Nat :=
  2 ^ (format.precision - 1)

/-- The number of finite numbers of one sign. -/
def finiteCount (format : FloatFormat) : Nat :=
  format.binades * format.binadeSize

/-- The significand of the number with the given rank. -/
def significand (format : FloatFormat) (rank : Nat) : Nat :=
  if rank < format.binadeSize then rank else format.binadeSize + rank % format.binadeSize

/-- The exponent of the number with the given rank: of two, for the last bit of the significand. -/
def exponent (format : FloatFormat) (rank : Nat) : Int :=
  format.minExponent + ((rank / format.binadeSize - 1 : Nat) : Int)

/-- The numerator of the number with the given rank. -/
def numerator (format : FloatFormat) (rank : Nat) : Nat :=
  format.significand rank * 2 ^ (format.exponent rank).toNat

/-- The denominator of the number with the given rank, a power of two. -/
def denominator (format : FloatFormat) (rank : Nat) : Nat :=
  2 ^ (-format.exponent rank).toNat

/-! ## Rounding -/

/-- The natural number nearest to a fraction; of two, the even one. -/
def roundHalfEven (numerator denominator : Nat) : Nat :=
  let quotient := numerator / denominator
  let twice := 2 * (numerator % denominator)
  if denominator < twice ∨ (twice = denominator ∧ quotient % 2 = 1) then quotient + 1
  else quotient

/-- The largest exponent of a power of two that is not above a positive fraction. -/
def floorLog2 (numerator denominator : Nat) : Int :=
  let estimate : Int := (numerator.log2 : Int) - (denominator.log2 : Int)
  if denominator * 2 ^ estimate.toNat ≤ numerator * 2 ^ (-estimate).toNat then estimate
  else estimate - 1

/-- The rank of the number nearest to a fraction, of two that of the even significand, as if the
    ranks never ended. -/
def nearestRank (format : FloatFormat) (numerator denominator : Nat) : Nat :=
  if numerator = 0 then 0
  else
    -- The exponent of the last bit; the smallest numbers all share one.
    let last := max (floorLog2 numerator denominator - (format.precision - 1 : Nat))
      format.minExponent
    (last - format.minExponent).toNat * format.binadeSize +
      roundHalfEven (numerator * 2 ^ (-last).toNat) (denominator * 2 ^ last.toNat)

end FloatFormat

/-- A number of a binary floating-point format, or one of the values that are no numbers. -/
inductive Binary (format : FloatFormat)
  | nan
  | infinite (negative : Bool)
  | finite (negative : Bool) (rank : Fin format.finiteCount)
deriving DecidableEq

namespace Binary

variable {format : FloatFormat}

theorem finiteCount_pos (format : FloatFormat) : 0 < format.finiteCount := by
  cases format <;> decide

def zero (negative : Bool) : Binary format :=
  .finite negative ⟨0, finiteCount_pos format⟩

/-- Whether the value is zero, of either sign. -/
def isZero : Binary format → Bool
  | .finite _ rank => rank.val == 0
  | _ => false

/-- The number of the format nearest to a fraction, infinite if that lies beyond the last one. -/
def ofRatio (format : FloatFormat) (negative : Bool) (numerator denominator : Nat) :
    Binary format :=
  if h : format.nearestRank numerator denominator < format.finiteCount then .finite negative ⟨_, h⟩
  else .infinite negative

/-- The number of decimal digits of a natural number. -/
def decimalLength (number : Nat) : Nat :=
  (Nat.toDigits 10 number).length

/-- Decimal numbers from `10 ^ decimalReach` on are infinite in both formats, and those below
    `10 ^ -decimalReach` are zero. -/
def decimalReach : Int := 400

/-- The number of the format nearest to `digits * 10 ^ exponent`. -/
def ofDecimal (format : FloatFormat) (negative : Bool) (digits : Nat) (exponent : Int) :
    Binary format :=
  if digits = 0 then zero negative
  else if decimalReach < exponent then .infinite negative
  else if exponent + decimalLength digits < -decimalReach then zero negative
  else ofRatio format negative (digits * 10 ^ exponent.toNat) (10 ^ (-exponent).toNat)

end Binary

end ResourceNames
