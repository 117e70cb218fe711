import Mathlib.Tactic.ByContra
import ResourceNames.Scalar.Basic

set_option autoImplicit false

/-! # Reading integers back

The decimal text of an integer in the range of a type is read as that integer. What both ways of
appending digits have in common is that the value of a longer text is further from zero: if the
last value is in range, so are the values on the way to it, and the products with ten between
them. -/

namespace ResourceNames

/-- The number with the given distance from zero. -/
def signedNumber (negative : Bool) (distance : Nat) : Int :=
  if negative then -(distance : Int) else distance

theorem signedNumber_natAbs {number : Int} {negative : Bool}
    (h : negative = decide (number < 0)) : signedNumber negative number.natAbs = number := by
  unfold signedNumber
  by_cases hneg : number < 0
  · rw [if_pos (by simp [h, hneg])]
    omega
  · rw [if_neg (by simp [h, hneg])]
    omega

theorem le_ofDigitChars (digits : List Char) (start : Nat) :
    start ≤ Nat.ofDigitChars 10 digits start := by
  induction digits generalizing start with
  | nil => simp
  | cons c rest ih =>
      rw [Nat.ofDigitChars_cons]
      have hrest := ih (10 * start + (c.toNat - '0'.toNat))
      omega

namespace IntegerType

variable {type : IntegerType} {negative : Bool}

theorem inRange_of_le {distance bound : Nat} (hle : distance ≤ bound)
    (h : type.min ≤ signedNumber negative bound ∧ signedNumber negative bound ≤ type.max) :
    type.min ≤ signedNumber negative distance ∧ signedNumber negative distance ≤ type.max := by
  have hmin := type.min_le_zero
  have hmax := type.zero_le_max
  unfold signedNumber at *
  cases negative
  · simp only [Bool.false_eq_true, if_false] at h ⊢
    omega
  · simp only [if_true] at h ⊢
    omega

theorem val_wrap {number : Int} (h : type.min ≤ number ∧ number ≤ type.max) :
    (type.wrap number).val = number := by
  obtain ⟨hlow, hhigh⟩ := h
  obtain ⟨signed, width⟩ := type
  cases signed with
  | false =>
      simp only [min, max, Bool.false_eq_true, if_false] at hlow hhigh
      show number % 2 ^ bits ⟨false, width⟩ = number
      exact Int.emod_eq_of_lt hlow (by omega)
  | true =>
      simp only [min, max, if_true] at hlow hhigh
      show number.bmod (2 ^ bits ⟨true, width⟩) = number
      cases width <;> simp only [bits, IntegerWidth.bytes] at hlow hhigh ⊢ <;>
        exact Int.bmod_eq_of_le (by omega) (by omega)

theorem digit?_of_isDigit {c : Char} (h : c.isDigit = true) :
    digit? c = some (c.toNat - '0'.toNat) :=
  if_pos h

/-! ## Appending digits -/

/-- Appending a digit is moving ten times as far from zero, and a digit further. -/
theorem addDigit_signedNumber (distance digit : Nat) :
    addDigit negative (signedNumber negative distance * 10) digit =
      signedNumber negative (10 * distance + digit) := by
  unfold addDigit signedNumber
  cases negative
  · simp only [Bool.false_eq_true, if_false]
    omega
  · simp only [if_true]
    omega

theorem signedNumber_mul_ten (distance : Nat) :
    signedNumber negative distance * 10 = signedNumber negative (10 * distance) := by
  unfold signedNumber
  cases negative
  · simp only [Bool.false_eq_true, if_false]
    omega
  · simp only [if_true]
    omega

/-- Where the last value is in range, so are the product with ten and the sum at the next digit. -/
theorem inRange_of_result {c : Char} {rest : List Char} {distance : Nat} {result : type.Value}
    (hresult : result.val = signedNumber negative (Nat.ofDigitChars 10 (c :: rest) distance)) :
    (type.min ≤ signedNumber negative distance * 10 ∧
        signedNumber negative distance * 10 ≤ type.max) ∧
      type.min ≤ signedNumber negative (10 * distance + (c.toNat - '0'.toNat)) ∧
        signedNumber negative (10 * distance + (c.toNat - '0'.toNat)) ≤ type.max := by
  rw [Nat.ofDigitChars_cons] at hresult
  have hsum := inRange_of_le (le_ofDigitChars rest _) (hresult ▸ result.property)
  have hproduct := inRange_of_le (Nat.le_add_right (10 * distance) _) hsum
  rw [signedNumber_mul_ten]
  exact ⟨hproduct, hsum⟩

theorem appendUnchecked_eq_ok {digits : List Char} (hdigits : ∀ c ∈ digits, c.isDigit = true)
    {number : type.Value} {distance : Nat} (hnumber : number.val = signedNumber negative distance)
    {result : type.Value}
    (hresult : result.val = signedNumber negative (Nat.ofDigitChars 10 digits distance)) :
    type.appendUnchecked negative number digits = .ok result := by
  induction digits generalizing number distance with
  | nil =>
      rw [Nat.ofDigitChars_nil, ← hnumber] at hresult
      rw [appendUnchecked, Subtype.ext hresult]
  | cons c rest ih =>
      rw [List.forall_mem_cons] at hdigits
      obtain ⟨hproduct, hsum⟩ := inRange_of_result hresult
      rw [Nat.ofDigitChars_cons] at hresult
      rw [appendUnchecked, digit?_of_isDigit hdigits.1]
      apply ih hdigits.2 _ hresult
      show (type.wrap (addDigit negative (type.wrap (number.val * 10)).val _)).val = _
      rw [hnumber, val_wrap hproduct, addDigit_signedNumber]
      exact val_wrap hsum

theorem appendChecked_eq_ok {digits : List Char} (hdigits : ∀ c ∈ digits, c.isDigit = true)
    {number : type.Value} {distance : Nat} (hnumber : number.val = signedNumber negative distance)
    {result : type.Value}
    (hresult : result.val = signedNumber negative (Nat.ofDigitChars 10 digits distance)) :
    type.appendChecked negative number digits = .ok result := by
  induction digits generalizing number distance with
  | nil =>
      rw [Nat.ofDigitChars_nil, ← hnumber] at hresult
      rw [appendChecked, Subtype.ext hresult]
  | cons c rest ih =>
      rw [List.forall_mem_cons] at hdigits
      obtain ⟨hproduct, hsum⟩ := inRange_of_result hresult
      rw [Nat.ofDigitChars_cons] at hresult
      rw [appendChecked, digit?_of_isDigit hdigits.1]
      simp only [ofInt?, hnumber, dif_pos hproduct, Option.bind_some, addDigit_signedNumber,
        dif_pos hsum]
      exact ih hdigits.2 rfl hresult

theorem parseDigits_eq_ok {digits : List Char} (hdigits : ∀ c ∈ digits, c.isDigit = true)
    {result : type.Value}
    (hresult : result.val = signedNumber negative (Nat.ofDigitChars 10 digits 0)) :
    type.parseDigits negative digits = .ok result := by
  have hzero : type.zero.val = signedNumber negative 0 := by
    cases negative <;> rfl
  unfold parseDigits
  by_cases hshort : digits.length ≤ type.safeDigits
  · rw [if_pos hshort]
    exact appendUnchecked_eq_ok hdigits hzero hresult
  · rw [if_neg hshort]
    exact appendChecked_eq_ok hdigits hzero hresult

/-! ## Texts -/

theorem isDigit_of_mem_toDigits {number : Nat} {c : Char} (h : c ∈ Nat.toDigits 10 number) :
    c.isDigit = true :=
  Nat.isDigit_of_mem_toDigits (by decide) (by decide) h

theorem toList_integerText_of_neg {number : Int} (h : number < 0) :
    (integerText number).toList = '-' :: Nat.toDigits 10 number.natAbs := by
  unfold integerText
  simp only [if_pos h, String.toList_ofList]

theorem toList_integerText_of_nonneg {number : Int} (h : ¬ number < 0) :
    (integerText number).toList = Nat.toDigits 10 number.natAbs := by
  unfold integerText
  simp only [if_neg h, String.toList_ofList]

/-- **The text of an integer is read as that integer.** -/
theorem parse_integerText (number : type.Value) :
    type.parse (integerText number.val) = .ok number := by
  have hdigits : ∀ c ∈ Nat.toDigits 10 number.val.natAbs, c.isDigit = true :=
    fun c hc => isDigit_of_mem_toDigits hc
  have hvalue : ∀ negative, negative = decide (number.val < 0) → number.val =
      signedNumber negative (Nat.ofDigitChars 10 (Nat.toDigits 10 number.val.natAbs) 0) := by
    intro negative hnegative
    rw [Nat.ofDigitChars_ten_toDigits, signedNumber_natAbs hnegative]
  unfold parse
  by_cases hneg : number.val < 0
  · -- Only a type with a sign has negative numbers, and only there a minus is read.
    have hsigned : type.signed = true := by
      by_contra hunsigned
      have hlow := number.property.1
      have hmin : type.min = 0 := if_neg hunsigned
      omega
    have hne : (Nat.toDigits 10 number.val.natAbs).isEmpty = false := by
      simp [Nat.toDigits_ne_nil]
    rw [toList_integerText_of_neg hneg]
    simp only [hne, hsigned, Bool.and_false, Bool.and_true,
      Bool.false_eq_true, if_false, decide_true, if_true]
    rw [if_neg (by decide)]
    exact parseDigits_eq_ok hdigits (hvalue true (by simp [hneg]))
  · rw [toList_integerText_of_nonneg hneg]
    cases hlist : Nat.toDigits 10 number.val.natAbs with
    | nil => exact absurd hlist Nat.toDigits_ne_nil
    | cons c rest =>
        rw [hlist] at hdigits
        have hc : c.isDigit = true := hdigits c List.mem_cons_self
        -- The first digit is not taken for a sign.
        have hplus : c ≠ '+' := by
          rintro rfl
          simp at hc
        have hminus : c ≠ '-' := by
          rintro rfl
          simp at hc
        simp only [hplus, hminus, decide_false, Bool.or_self, Bool.false_and, Bool.false_eq_true,
          if_false]
        exact parseDigits_eq_ok hdigits (hlist ▸ hvalue false (by simp [hneg]))

end IntegerType

end ResourceNames
