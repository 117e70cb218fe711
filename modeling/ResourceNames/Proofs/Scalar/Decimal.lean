import Mathlib.Data.List.TakeWhile
import Mathlib.Tactic.ByContra
import Mathlib.Tactic.SplitIfs
import ResourceNames.Proofs.Scalar.Integer
import ResourceNames.Proofs.Scalar.Rounding
import ResourceNames.Scalar.Decimal

set_option autoImplicit false

/-! # Reading floating-point numbers back

The text of a value is read as that value. A search for few digits looks for nothing but decimal
numbers that read back, so that it cannot go wrong; where it finds none, all digits of the number
are written, and these read back because rounding a number of the format changes nothing. -/

namespace ResourceNames.Binary

variable {format : FloatFormat} {rank : Fin format.finiteCount} {negative : Bool}

/-! ## Decimal numbers that read back -/

theorem ofRatio_eq (hrank : rank.val ≠ 0) {numerator denominator : Nat}
    (hdenominator : 0 < denominator)
    (h : (numerator : ℚ) / denominator = format.value rank) :
    ofRatio format negative numerator denominator = .finite negative rank := by
  have hnearest := FloatFormat.nearestRank_eq hrank hdenominator h
  unfold ofRatio
  simp only [hnearest, dif_pos rank.isLt]

/-- Reading a number does not depend on its sign. -/
theorem ofDecimal_negative {digits : Nat} {exponent : Int}
    (h : ofDecimal format false digits exponent = .finite false rank) (negative : Bool) :
    ofDecimal format negative digits exponent = .finite negative rank := by
  unfold ofDecimal ofRatio at *
  split_ifs at h ⊢ <;> simp_all [zero]

/-- Zeros may be written out instead of an exponent. -/
theorem ofDecimal_zeros {digits : Nat} {exponent : Int}
    (h : ofDecimal format false digits exponent = .finite false rank) :
    ofDecimal format false (digits * 10 ^ exponent.toNat) (min 0 exponent) =
      .finite false rank := by
  rcases Int.le_total exponent 0 with hneg | hpos
  · rw [Int.toNat_of_nonpos hneg, pow_zero, mul_one, min_eq_right hneg]
    exact h
  · rw [min_eq_left hpos]
    unfold ofDecimal at h ⊢
    by_cases hdigits : digits = 0
    · rw [if_pos hdigits] at h
      rw [if_pos (by simp [hdigits])]
      exact h
    · have hproduct : digits * 10 ^ exponent.toNat ≠ 0 := by positivity
      rw [if_neg hdigits] at h
      -- Neither is beyond the reach of decimal numbers, and both stand for the same fraction.
      rw [if_neg hproduct, if_neg (by decide), if_neg (by unfold decimalReach; omega)]
      split_ifs at h with hlarge hsmall
      · unfold decimalReach at hsmall
        omega
      · simpa [Int.toNat_of_nonpos (Int.neg_nonpos_of_nonneg hpos)] using h

theorem lt_ten_pow_decimalLength (number : Nat) : number < 10 ^ decimalLength number := by
  unfold decimalLength
  exact (Nat.length_toDigits_le_iff (by decide) Nat.length_toDigits_pos).1 le_rfl

theorem neg_exponent_le (format : FloatFormat) (rank : Nat) : -format.exponent rank ≤ 1074 := by
  have hmin : -1074 ≤ format.minExponent := by cases format <;> decide
  unfold FloatFormat.exponent
  omega

theorem two_pow_le_five_pow {exponent bound : Nat} (h : exponent ≤ 2 * bound) :
    2 ^ exponent ≤ 5 ^ bound := by
  calc 2 ^ exponent
      ≤ 2 ^ (2 * bound) := Nat.pow_le_pow_right (by decide) h
    _ = (2 ^ 2) ^ bound := Nat.pow_mul _ _ _
    _ ≤ 5 ^ bound := Nat.pow_le_pow_left (by decide) bound

/-- All digits of a number, none of them dropped, are too many to be beyond the reach of decimal
numbers. -/
theorem reach_le_of_five_pow_le {digits places : Nat} (hplaces : places ≤ 1074)
    (hdigits : 5 ^ places ≤ digits) : places ≤ decimalLength digits + 400 := by
  by_contra hlong
  obtain ⟨gap, hgap⟩ := Nat.exists_eq_add_of_le
    (show decimalLength digits ≤ places by omega)
  have hten : 10 ^ decimalLength digits ≤ 5 ^ places := by
    calc 10 ^ decimalLength digits
        = 5 ^ decimalLength digits * 2 ^ decimalLength digits := by
          rw [← Nat.mul_pow]
      _ ≤ 5 ^ decimalLength digits * 5 ^ gap :=
          Nat.mul_le_mul_left _ (two_pow_le_five_pow (by omega))
      _ = 5 ^ places := by rw [← Nat.pow_add, hgap]
  have hlt := lt_ten_pow_decimalLength digits
  omega

/-- All digits of a number read back as the number. -/
theorem ofDecimal_exact (hrank : rank.val ≠ 0) :
    ofDecimal format false
      (format.significand rank * 5 ^ (-format.exponent rank).toNat *
        2 ^ (format.exponent rank).toNat) (min 0 (format.exponent rank)) =
      .finite false rank := by
  have hsignificand : 0 < format.significand rank := FloatFormat.significand_pos hrank
  have hplaces : (-min 0 (format.exponent rank)).toNat = (-format.exponent rank).toNat := by omega
  have hnone : (min 0 (format.exponent rank)).toNat = 0 := by omega
  have hfive : 5 ^ (-format.exponent rank).toNat ≤
      format.significand rank * 5 ^ (-format.exponent rank).toNat *
        2 ^ (format.exponent rank).toNat := by
    calc 5 ^ (-format.exponent rank).toNat
        ≤ format.significand rank * 5 ^ (-format.exponent rank).toNat :=
          Nat.le_mul_of_pos_left _ hsignificand
      _ ≤ _ := Nat.le_mul_of_pos_right _ (by positivity)
  have hreach := reach_le_of_five_pow_le (by have := neg_exponent_le format rank; omega) hfive
  have hdigits : format.significand rank * 5 ^ (-format.exponent rank).toNat *
      2 ^ (format.exponent rank).toNat ≠ 0 := by positivity
  unfold ofDecimal
  rw [if_neg hdigits, if_neg (by unfold decimalReach; omega),
    if_neg (by unfold decimalReach; omega), hplaces, hnone]
  apply ofRatio_eq hrank (by positivity)
  have hten : (10 : ℚ) = 5 * 2 := by norm_num
  unfold FloatFormat.value
  push_cast
  rw [FloatFormat.two_pow_toNat (format.exponent rank), hten, mul_pow]
  field_simp

theorem ofDecimal_of_readBackOnGrid {exponent : Int} {digits : Nat}
    (h : readBackOnGrid format rank exponent = some digits) :
    ofDecimal format false digits exponent = .finite false rank := by
  unfold readBackOnGrid at h
  dsimp only at h
  split at h
  · rename_i hlower hupper
    obtain rfl := Option.some.inj h
    split
    · exact of_decide_eq_true hupper
    · exact of_decide_eq_true hlower
  · rename_i hlower hupper
    obtain rfl := Option.some.inj h
    exact of_decide_eq_true hlower
  · rename_i hlower hupper
    obtain rfl := Option.some.inj h
    exact of_decide_eq_true hupper
  · cases h

/-- **The fewest digits of a number read back as the number.** -/
theorem ofDecimal_shortestDecimal (hrank : rank.val ≠ 0) :
    ofDecimal format false (shortestDecimal format rank).1
      (shortestDecimal format rank).2 = .finite false rank := by
  unfold shortestDecimal
  cases hsearch : (grids format rank).findSome? fun exponent =>
      (readBackOnGrid format rank exponent).map (·, exponent) with
  | some found =>
      obtain ⟨exponent, -, hfound⟩ := List.exists_of_findSome?_eq_some hsearch
      rw [Option.map_eq_some_iff] at hfound
      obtain ⟨digits, hdigits, rfl⟩ := hfound
      exact ofDecimal_of_readBackOnGrid hdigits
  | none => exact ofDecimal_exact hrank

/-! ## Positional notation -/

theorem takeWhile_digits {digits : List Char} (hdigits : ∀ c ∈ digits, c.isDigit = true) :
    digits.takeWhile Char.isDigit = digits ∧ digits.dropWhile Char.isDigit = [] :=
  ⟨List.takeWhile_eq_self_iff.2 hdigits, List.dropWhile_eq_nil_iff.2 hdigits⟩

theorem parseDecimal_whole {whole : List Char} (hwhole : ∀ c ∈ whole, c.isDigit = true)
    (hne : whole ≠ []) : parseDecimal whole = some (Nat.ofDigitChars 10 whole 0, 0) := by
  obtain ⟨htake, hdrop⟩ := takeWhile_digits hwhole
  unfold parseDecimal decimalParts
  simp [htake, hdrop, hne, parseExponent]

theorem parseDecimal_point {whole fraction : List Char}
    (hwhole : ∀ c ∈ whole, c.isDigit = true) (hfraction : ∀ c ∈ fraction, c.isDigit = true)
    (hne : whole ≠ []) :
    parseDecimal (whole ++ '.' :: fraction) =
      some (Nat.ofDigitChars 10 (whole ++ fraction) 0, -(fraction.length : Int)) := by
  obtain ⟨htake, hdrop⟩ := takeWhile_digits hfraction
  unfold parseDecimal decimalParts
  rw [List.takeWhile_append_of_pos hwhole, List.dropWhile_append_of_pos hwhole,
    List.takeWhile_cons_of_neg (by decide), List.dropWhile_cons_of_neg (by decide),
    List.append_nil]
  simp [htake, hdrop, hne, parseExponent]

theorem isDigit_of_mem_zeros {count : Nat} {c : Char} (h : c ∈ List.replicate count '0') :
    c.isDigit = true := by
  rw [List.eq_of_mem_replicate h]
  rfl

/-- Positional notation has all zeros written out, and no others dropped. -/
theorem parseDecimal_positional (digits : Nat) (exponent : Int) :
    parseDecimal (positional digits exponent) =
      some (digits * 10 ^ exponent.toNat, min 0 exponent) := by
  have hshown : ∀ c ∈ Nat.toDigits 10 digits, c.isDigit = true := by
    intro c hc
    exact IntegerType.isDigit_of_mem_toDigits hc
  have hne : Nat.toDigits 10 digits ≠ [] := Nat.toDigits_ne_nil
  unfold positional
  dsimp only
  by_cases hexponent : 0 ≤ exponent
  · -- Zeros stand behind the digits.
    have hall : ∀ c ∈ Nat.toDigits 10 digits ++ List.replicate exponent.toNat '0',
        c.isDigit = true := by
      intro c hc
      rcases List.mem_append.1 hc with hc | hc
      · exact hshown c hc
      · exact isDigit_of_mem_zeros hc
    rw [if_pos hexponent, parseDecimal_whole hall (by simp [hne]), min_eq_left hexponent,
      Nat.ofDigitChars_append, Nat.ofDigitChars_ten_toDigits, Nat.ofDigitChars_replicate_zero,
      Nat.mul_comm]
  · have hnone : exponent.toNat = 0 := by omega
    rw [if_neg hexponent, hnone, pow_zero, mul_one, min_eq_right (by omega)]
    by_cases hplaces : (-exponent).toNat < (Nat.toDigits 10 digits).length
    · -- The point stands among the digits.
      have hwhole : (Nat.toDigits 10 digits).take
          ((Nat.toDigits 10 digits).length - (-exponent).toNat) ≠ [] := by
        rw [← List.length_pos_iff, List.length_take]
        omega
      rw [if_pos hplaces, parseDecimal_point (fun c hc => hshown c (List.mem_of_mem_take hc))
        (fun c hc => hshown c (List.mem_of_mem_drop hc)) hwhole, List.take_append_drop,
        Nat.ofDigitChars_ten_toDigits, List.length_drop, Option.some.injEq, Prod.mk.injEq]
      exact ⟨rfl, by omega⟩
    · -- The digits stand behind the point, and behind zeros.
      have hfraction : ∀ c ∈ List.replicate ((-exponent).toNat - (Nat.toDigits 10 digits).length)
          '0' ++ Nat.toDigits 10 digits, c.isDigit = true := by
        intro c hc
        rcases List.mem_append.1 hc with hc | hc
        · exact isDigit_of_mem_zeros hc
        · exact hshown c hc
      have hzero : ∀ c ∈ ['0'], c.isDigit = true := by
        intro c hc
        rw [List.mem_singleton.1 hc]
        rfl
      rw [if_neg hplaces]
      show parseDecimal (['0'] ++ '.' :: (_ ++ _)) = _
      rw [parseDecimal_point hzero hfraction (by simp), List.length_append, List.length_replicate,
        Option.some.injEq, Prod.mk.injEq]
      refine ⟨?_, by omega⟩
      simp [Nat.ofDigitChars_cons, Nat.ofDigitChars_append, Nat.ofDigitChars_replicate_zero]

/-! ## Texts -/

/-- A number without a sign does not start with one. -/
theorem ne_sign_of_parseDecimal {c : Char} {rest : List Char} {number : Nat × Int}
    (h : parseDecimal (c :: rest) = some number) : c ≠ '-' ∧ c ≠ '+' := by
  constructor
  · rintro rfl
    simp [parseDecimal, decimalParts] at h
  · rintro rfl
    simp [parseDecimal, decimalParts] at h

theorem parse_signed {unsigned : List Char} {digits : Nat} {exponent : Int}
    (h : parseDecimal unsigned = some (digits, exponent)) (negative : Bool) :
    parse format (String.ofList (signText negative ++ unsigned)) =
      .ok (ofDecimal format negative digits exponent) := by
  have hunsigned : parseUnsigned negative unsigned =
      .ok (ofDecimal format negative digits exponent) := by
    rw [parseUnsigned, h]
  unfold parse
  rw [String.toList_ofList]
  cases negative with
  | true => exact hunsigned
  | false =>
      cases unsigned with
      | nil => simp [parseDecimal, decimalParts] at h
      | cons c rest =>
          obtain ⟨hminus, hplus⟩ := ne_sign_of_parseDecimal h
          simp only [signText, Bool.false_eq_true, if_false, List.nil_append, hminus, hplus]
          exact hunsigned

/-- **The text of a value is read as that value.** -/
theorem parse_text (value : Binary format) : parse format value.text = .ok value := by
  cases value with
  | nan => cases format <;> rfl
  | infinite negative => cases format <;> cases negative <;> rfl
  | finite negative rank =>
      unfold text
      by_cases hrank : rank.val = 0
      · have hzero : ofDecimal format negative 0 0 = .finite negative rank := by
          rw [ofDecimal, if_pos rfl, zero]
          exact congrArg _ (Fin.ext hrank.symm)
        simp only [if_pos hrank]
        rw [← hzero]
        exact parse_signed (by decide) negative
      · have hshortest := ofDecimal_zeros (ofDecimal_shortestDecimal hrank)
        simp only [if_neg hrank]
        rw [parse_signed (parseDecimal_positional _ _) negative,
          ofDecimal_negative hshortest negative]

end ResourceNames.Binary
