import Mathlib.Data.Int.Log
import Mathlib.Data.Rat.Floor
import Mathlib.Tactic.FieldSimp
import Mathlib.Tactic.Positivity
import ResourceNames.Scalar.Binary

set_option autoImplicit false

/-! # Rounding what needs no rounding

The number of a format that is nearest to one of its own numbers is that number. The logarithm of
the fraction gives the exponent of the number back, and what is left to round is its significand. -/

namespace ResourceNames.FloatFormat

variable {format : FloatFormat} {rank numerator denominator : Nat}

/-! ## Powers of two -/

/-- A power of two with an exponent of either sign is a fraction of two that have none. -/
theorem two_pow_toNat (exponent : Int) :
    (2 : ℚ) ^ exponent.toNat = 2 ^ exponent * 2 ^ (-exponent).toNat := by
  rcases Int.le_total 0 exponent with hpos | hneg
  · have hexponent : (exponent.toNat : Int) = exponent := Int.toNat_of_nonneg hpos
    have hzero : (-exponent).toNat = 0 := by omega
    rw [hzero, pow_zero, mul_one, ← hexponent, zpow_natCast, Int.toNat_natCast]
  · have hexponent : ((-exponent).toNat : Int) = -exponent := Int.toNat_of_nonneg (by omega)
    have hzero : exponent.toNat = 0 := by omega
    rw [hzero, pow_zero, ← zpow_natCast, hexponent, zpow_neg,
      mul_inv_cancel₀ (zpow_ne_zero exponent two_ne_zero)]

theorem two_zpow_le_iff (hdenominator : 0 < denominator) (exponent : Int) :
    denominator * 2 ^ exponent.toNat ≤ numerator * 2 ^ (-exponent).toNat ↔
      (2 : ℚ) ^ exponent ≤ numerator / denominator := by
  have hden : (0 : ℚ) < denominator := by exact_mod_cast hdenominator
  have hpow : (0 : ℚ) < 2 ^ (-exponent).toNat := by positivity
  have hcast : denominator * 2 ^ exponent.toNat ≤ numerator * 2 ^ (-exponent).toNat ↔
      (denominator : ℚ) * 2 ^ exponent.toNat ≤ numerator * 2 ^ (-exponent).toNat := by
    exact_mod_cast Iff.rfl
  rw [hcast, two_pow_toNat, ← mul_assoc, mul_le_mul_iff_left₀ hpow, le_div_iff₀ hden,
    mul_comm]

theorem log_eq_of_bounds {value : ℚ} (hvalue : 0 < value) {exponent : Int}
    (hlow : (2 : ℚ) ^ exponent ≤ value) (hhigh : value < (2 : ℚ) ^ (exponent + 1)) :
    Int.log 2 value = exponent := by
  have hle : exponent ≤ Int.log 2 value :=
    (Int.zpow_le_iff_le_log (by decide) hvalue).1 (by exact_mod_cast hlow)
  have hlt : Int.log 2 value < exponent + 1 :=
    (Int.lt_zpow_iff_log_lt (by decide) hvalue).1 (by exact_mod_cast hhigh)
  omega

/-- A positive number is at least the power of its logarithm, and below the next one. -/
theorem log2_bounds {number : Nat} (h : 0 < number) :
    (2 : ℚ) ^ number.log2 ≤ number ∧ (number : ℚ) < 2 ^ (number.log2 + 1) := by
  constructor
  · exact_mod_cast Nat.log2_self_le h.ne'
  · exact_mod_cast Nat.lt_log2_self

theorem lt_two_zpow_of_log2 (hnumerator : 0 < numerator) (hdenominator : 0 < denominator) :
    (numerator : ℚ) / denominator < 2 ^ ((numerator.log2 : Int) - denominator.log2 + 1) := by
  have hden : (0 : ℚ) < denominator := by exact_mod_cast hdenominator
  obtain ⟨-, hnumHigh⟩ := log2_bounds hnumerator
  obtain ⟨hdenLow, -⟩ := log2_bounds hdenominator
  have hexponent : (numerator.log2 : Int) - denominator.log2 + 1 =
      ((numerator.log2 + 1 : Nat) : Int) - (denominator.log2 : Nat) := by
    push_cast
    omega
  rw [hexponent, zpow_sub₀ two_ne_zero, zpow_natCast, zpow_natCast,
    div_lt_div_iff₀ hden (by positivity)]
  calc (numerator : ℚ) * 2 ^ denominator.log2
      ≤ numerator * denominator := by gcongr
    _ < 2 ^ (numerator.log2 + 1) * denominator := by gcongr

theorem two_zpow_le_of_log2 (hnumerator : 0 < numerator) (hdenominator : 0 < denominator) :
    (2 : ℚ) ^ ((numerator.log2 : Int) - denominator.log2 - 1) ≤ numerator / denominator := by
  have hden : (0 : ℚ) < denominator := by exact_mod_cast hdenominator
  obtain ⟨hnumLow, -⟩ := log2_bounds hnumerator
  obtain ⟨-, hdenHigh⟩ := log2_bounds hdenominator
  have hexponent : (numerator.log2 : Int) - denominator.log2 - 1 =
      (numerator.log2 : Nat) - ((denominator.log2 + 1 : Nat) : Int) := by
    push_cast
    omega
  rw [hexponent, zpow_sub₀ two_ne_zero, zpow_natCast, zpow_natCast,
    div_le_div_iff₀ (by positivity) hden]
  calc (2 : ℚ) ^ numerator.log2 * denominator
      ≤ numerator * denominator := by gcongr
    _ ≤ numerator * 2 ^ (denominator.log2 + 1) := by gcongr

/-- The logarithms of numerator and denominator leave two candidates, and one comparison decides
between them. -/
theorem floorLog2_eq_log (hnumerator : 0 < numerator) (hdenominator : 0 < denominator) :
    floorLog2 numerator denominator = Int.log 2 ((numerator : ℚ) / denominator) := by
  have hvalue : (0 : ℚ) < numerator / denominator := by positivity
  have hlow := two_zpow_le_of_log2 hnumerator hdenominator
  have hhigh := lt_two_zpow_of_log2 hnumerator hdenominator
  unfold floorLog2
  dsimp only
  by_cases htest : denominator * 2 ^ ((numerator.log2 : Int) - denominator.log2).toNat ≤
      numerator * 2 ^ (-((numerator.log2 : Int) - denominator.log2)).toNat
  · rw [if_pos htest]
    rw [two_zpow_le_iff hdenominator] at htest
    exact (log_eq_of_bounds hvalue htest hhigh).symm
  · rw [if_neg htest]
    rw [two_zpow_le_iff hdenominator, not_le] at htest
    symm
    apply log_eq_of_bounds hvalue hlow
    rwa [sub_add_cancel]

/-! ## Numbers of a format -/

/-- The number with the given rank. -/
def value (format : FloatFormat) (rank : Nat) : ℚ :=
  format.significand rank * 2 ^ format.exponent rank

theorem binadeSize_pos (format : FloatFormat) : 0 < format.binadeSize :=
  Nat.two_pow_pos _

theorem significand_pos (hrank : rank ≠ 0) : 0 < format.significand rank := by
  unfold significand
  have hsize := format.binadeSize_pos
  split <;> omega

theorem value_pos (hrank : rank ≠ 0) : 0 < format.value rank := by
  have hsignificand : (0 : ℚ) < format.significand rank := by
    exact_mod_cast significand_pos hrank
  exact mul_pos hsignificand (zpow_pos two_pos _)

/-- The rank counts the numbers of the exponents before, and those of its own exponent. -/
theorem rank_eq (format : FloatFormat) (rank : Nat) :
    (format.exponent rank - format.minExponent).toNat * format.binadeSize +
      format.significand rank = rank := by
  have hexponent : (format.exponent rank - format.minExponent).toNat =
      rank / format.binadeSize - 1 := by
    unfold exponent
    omega
  rw [hexponent]
  unfold significand
  by_cases hsmall : rank < format.binadeSize
  · rw [if_pos hsmall, Nat.div_eq_of_lt hsmall]
    omega
  · rw [if_neg hsmall]
    have hone : 1 ≤ rank / format.binadeSize :=
      (Nat.one_le_div_iff format.binadeSize_pos).2 (Nat.le_of_not_lt hsmall)
    have hdivision := Nat.div_add_mod rank format.binadeSize
    obtain ⟨count, hcount⟩ := Nat.exists_eq_add_of_le hone
    rw [hcount] at hdivision ⊢
    rw [Nat.add_sub_cancel_left]
    rw [Nat.mul_add, Nat.mul_one, Nat.mul_comm] at hdivision
    omega

theorem binadeSize_eq_zpow (format : FloatFormat) :
    (format.binadeSize : ℚ) = 2 ^ ((format.precision - 1 : Nat) : Int) := by
  rw [zpow_natCast]
  exact_mod_cast rfl

/-- The numbers of the first binade have fewer digits than the format has. -/
theorem log_value_lt (hrank : rank ≠ 0) (hsmall : rank < format.binadeSize) :
    Int.log 2 (format.value rank) < ((format.precision - 1 : Nat) : Int) + format.exponent rank := by
  have hpower : (0 : ℚ) < 2 ^ format.exponent rank := zpow_pos two_pos _
  have hbelow : format.value rank <
      (2 : ℚ) ^ (((format.precision - 1 : Nat) : Int) + format.exponent rank) := by
    rw [zpow_add₀ two_ne_zero, ← binadeSize_eq_zpow]
    unfold value significand
    rw [if_pos hsmall]
    gcongr
  exact (Int.lt_zpow_iff_log_lt (by decide) (value_pos hrank)).1 (by exact_mod_cast hbelow)

/-- All other numbers have as many digits as the format has. -/
theorem log_value_eq (hrank : rank ≠ 0) (hlarge : ¬ rank < format.binadeSize) :
    Int.log 2 (format.value rank) = ((format.precision - 1 : Nat) : Int) + format.exponent rank := by
  have hpower : (0 : ℚ) < 2 ^ format.exponent rank := zpow_pos two_pos _
  have hsignificand : format.significand rank = format.binadeSize + rank % format.binadeSize :=
    if_neg hlarge
  have hmod := Nat.mod_lt rank format.binadeSize_pos
  have hlow : (format.binadeSize : ℚ) ≤ format.significand rank := by
    exact_mod_cast (show format.binadeSize ≤ format.significand rank by omega)
  have hhigh : (format.significand rank : ℚ) < 2 * format.binadeSize := by
    exact_mod_cast (show format.significand rank < 2 * format.binadeSize by omega)
  apply log_eq_of_bounds (value_pos hrank)
  · rw [zpow_add₀ two_ne_zero, ← binadeSize_eq_zpow]
    unfold value
    gcongr
  · rw [add_right_comm, zpow_add₀ two_ne_zero, zpow_add₀ two_ne_zero, ← binadeSize_eq_zpow,
      zpow_one, mul_comm (format.binadeSize : ℚ)]
    unfold value
    gcongr

/-- The logarithm of a number tells its exponent. -/
theorem max_log_value (hrank : rank ≠ 0) :
    max (Int.log 2 (format.value rank) - (format.precision - 1 : Nat)) format.minExponent =
      format.exponent rank := by
  by_cases hsmall : rank < format.binadeSize
  · have hexponent : format.exponent rank = format.minExponent := by
      unfold exponent
      rw [Nat.div_eq_of_lt hsmall]
      simp
    have hlog := log_value_lt hrank hsmall
    omega
  · have hexponent : format.minExponent ≤ format.exponent rank := by
      unfold exponent
      omega
    have hlog := log_value_eq hrank hsmall
    omega

theorem roundHalfEven_mul (number : Nat) (hdenominator : 0 < denominator) :
    roundHalfEven (number * denominator) denominator = number := by
  unfold roundHalfEven
  rw [Nat.mul_mod_left, Nat.mul_div_cancel number hdenominator]
  rw [if_neg (by omega)]

/-- **A fraction that is a number of the format is rounded to that number.** -/
theorem nearestRank_eq (hrank : rank ≠ 0) (hdenominator : 0 < denominator)
    (h : (numerator : ℚ) / denominator = format.value rank) :
    format.nearestRank numerator denominator = rank := by
  have hden : (0 : ℚ) < denominator := by exact_mod_cast hdenominator
  have hnumerator : 0 < numerator := by
    have hpos : 0 < format.value rank := value_pos hrank
    rw [← h, div_pos_iff_of_pos_right hden] at hpos
    exact_mod_cast hpos
  unfold nearestRank
  rw [if_neg hnumerator.ne', floorLog2_eq_log hnumerator hdenominator, h]
  dsimp only
  -- The exponent is that of the number, and the fraction by that exponent is its significand.
  rw [max_log_value hrank]
  have hexact : numerator * 2 ^ (-format.exponent rank).toNat =
      format.significand rank * (denominator * 2 ^ (format.exponent rank).toNat) := by
    rw [div_eq_iff hden.ne'] at h
    unfold value at h
    have hcast : (numerator : ℚ) * 2 ^ (-format.exponent rank).toNat =
        format.significand rank * (denominator * 2 ^ (format.exponent rank).toNat) := by
      rw [h, two_pow_toNat (format.exponent rank)]
      ring
    exact_mod_cast hcast
  rw [hexact, roundHalfEven_mul _ (by positivity)]
  exact format.rank_eq rank

end ResourceNames.FloatFormat
