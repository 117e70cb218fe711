import Mathlib.Tactic.SplitIfs
import ResourceNames.Proofs.Scalar.Integer

set_option autoImplicit false

/-! # What a text is as an integer

Whatever follows them, the digits that a text starts with, behind its sign, have a value. If it is out
of the range of the type that is the fault of the text, and only then comes the question whether
there are digits at all and nothing else. Both ways of appending digits come to this: the value only
grows, so that a value out of range is met before what follows the digits, and a short text has none
that is out of range. -/

namespace ResourceNames.IntegerType

-- Powers of numbers mean the same here whatever else is imported.
attribute [local instance (high)] instPowNat

variable {type : IntegerType} {negative : Bool} {number : type.Value} {distance : Nat}
  {c : Char} {rest chars : List Char}

/-! ## Numbers in range -/

theorem ofInt?_eq_some_iff {value : Int} : type.ofInt? value = some number ↔ number.val = value := by
  rw [ofInt?]
  split_ifs with h
  · rw [Option.some.injEq, eq_comm, Subtype.ext_iff]
  · simp only [false_iff]
    rintro rfl
    exact h number.property

theorem ofInt?_eq_none_iff {value : Int} :
    type.ofInt? value = none ↔ ¬ (type.min ≤ value ∧ value ≤ type.max) := by
  rw [ofInt?]
  split_ifs with h <;> simp [h]

theorem val_zero : type.zero.val = signedNumber negative 0 := by
  cases negative <;> rfl

theorem ofInt?_val (number : type.Value) : type.ofInt? number.val = some number :=
  ofInt?_eq_some_iff.2 rfl

/-- The number as one of 64 bits. -/
def widen (type : IntegerType) (number : type.Value) : Value ⟨type.signed, .bits64⟩ :=
  wrap ⟨type.signed, .bits64⟩ number.val

/-- No type has numbers that 64 bits cannot hold. -/
theorem val_widen (number : type.Value) : (type.widen number).val = number.val := by
  have hmin : min ⟨type.signed, .bits64⟩ ≤ type.min := by
    rcases type with ⟨_ | _, _ | _ | _ | _⟩ <;> decide
  have hmax : type.max ≤ max ⟨type.signed, .bits64⟩ := by
    rcases type with ⟨_ | _, _ | _ | _ | _⟩ <;> decide
  exact val_wrap ⟨Int.le_trans hmin number.property.1, Int.le_trans number.property.2 hmax⟩

/-! ## Appending digits -/

/-- What a number at the given distance from zero becomes if it is followed by the characters: out
of range if the digits among them lead there, and no number if they are followed by others. -/
def readFrom (type : IntegerType) (negative : Bool) (distance : Nat) (chars : List Char) :
    Except IntegerError type.Value :=
  let digits := chars.takeWhile Char.isDigit
  match type.ofInt? (signedNumber negative (Nat.ofDigitChars 10 digits distance)) with
  | none => .error (overflow negative)
  | some number => if chars.dropWhile Char.isDigit = [] then .ok number else .error .invalidDigit

theorem readFrom_nil (hnumber : number.val = signedNumber negative distance) :
    type.readFrom negative distance [] = .ok number := by
  simp only [readFrom, List.takeWhile_nil, List.dropWhile_nil, Nat.ofDigitChars_nil, if_true,
    ← hnumber, ofInt?_val]

theorem readFrom_cons_of_not_digit (hnumber : number.val = signedNumber negative distance)
    (hc : ¬ c.isDigit = true) :
    type.readFrom negative distance (c :: rest) = .error .invalidDigit := by
  simp only [readFrom, List.takeWhile_cons_of_neg hc, List.dropWhile_cons_of_neg hc,
    Nat.ofDigitChars_nil, ← hnumber, ofInt?_val, reduceCtorEq, if_false]

theorem readFrom_cons_of_digit (hc : c.isDigit = true) :
    type.readFrom negative distance (c :: rest) =
      type.readFrom negative (10 * distance + (c.toNat - '0'.toNat)) rest := by
  simp only [readFrom, List.takeWhile_cons_of_pos hc, List.dropWhile_cons_of_pos hc,
    Nat.ofDigitChars_cons]

/-- Once out of range, a number stays so whatever follows. -/
theorem readFrom_of_not_inRange
    (h : ¬ (type.min ≤ signedNumber negative distance ∧
      signedNumber negative distance ≤ type.max)) :
    type.readFrom negative distance chars = .error (overflow negative) := by
  have hvalue := ofInt?_eq_none_iff.2 fun hrange => h (inRange_of_le
    (le_ofDigitChars (chars.takeWhile Char.isDigit) distance) hrange)
  simp only [readFrom, hvalue]

theorem digit?_of_not_isDigit (h : ¬ c.isDigit = true) : digit? c = none :=
  if_neg h

/-- A digit is appended if this leads to a number in range. The product with ten is not further from
zero, so that it need not be asked for. -/
theorem appendChecked_cons (hnumber : number.val = signedNumber negative distance)
    (hc : c.isDigit = true) :
    type.appendChecked negative number (c :: rest) =
      match type.ofInt? (signedNumber negative (10 * distance + (c.toNat - '0'.toNat))) with
      | none => .error (overflow negative)
      | some next => type.appendChecked negative next rest := by
  have hsum : (type.ofInt? (number.val * 10)).bind (fun product =>
      type.ofInt? (addDigit negative product.val (c.toNat - '0'.toNat))) =
        type.ofInt? (signedNumber negative (10 * distance + (c.toNat - '0'.toNat))) := by
    rw [hnumber]
    cases hproduct : type.ofInt? (signedNumber negative distance * 10) with
    | some product =>
        rw [Option.bind_some, ofInt?_eq_some_iff.1 hproduct, addDigit_signedNumber]
    | none =>
        rw [signedNumber_mul_ten, ofInt?_eq_none_iff] at hproduct
        rw [Option.bind_none, eq_comm, ofInt?_eq_none_iff]
        exact fun hrange => hproduct (inRange_of_le (Nat.le_add_right _ _) hrange)
  cases hnext : type.ofInt? (signedNumber negative (10 * distance + (c.toNat - '0'.toNat)))
  all_goals simp only [appendChecked, digit?_of_isDigit hc, hsum.trans hnext]

theorem appendChecked_eq_readFrom (hnumber : number.val = signedNumber negative distance) :
    type.appendChecked negative number chars = type.readFrom negative distance chars := by
  induction chars generalizing number distance with
  | nil => rw [appendChecked, readFrom_nil hnumber]
  | cons c rest ih =>
      by_cases hc : c.isDigit = true
      · rw [appendChecked_cons hnumber hc, readFrom_cons_of_digit hc]
        cases hnext : type.ofInt? (signedNumber negative
            (10 * distance + (c.toNat - '0'.toNat))) with
        | none => exact (readFrom_of_not_inRange (ofInt?_eq_none_iff.1 hnext)).symm
        | some next => exact ih (ofInt?_eq_some_iff.1 hnext)
      · rw [appendChecked, digit?_of_not_isDigit hc, readFrom_cons_of_not_digit hnumber hc]

/-- Without looking at the range digits are appended just as well if they do not lead out of it. -/
theorem appendUnchecked_eq_readFrom (hnumber : number.val = signedNumber negative distance)
    {last : type.Value} (hlast : last.val =
      signedNumber negative (Nat.ofDigitChars 10 (chars.takeWhile Char.isDigit) distance)) :
    type.appendUnchecked negative number chars = type.readFrom negative distance chars := by
  induction chars generalizing number distance with
  | nil => rw [appendUnchecked, readFrom_nil hnumber]
  | cons c rest ih =>
      by_cases hc : c.isDigit = true
      · rw [List.takeWhile_cons_of_pos hc] at hlast
        obtain ⟨hproduct, hsum⟩ := inRange_of_result hlast
        rw [Nat.ofDigitChars_cons] at hlast
        rw [appendUnchecked, digit?_of_isDigit hc, readFrom_cons_of_digit hc]
        refine ih ?_ hlast
        rw [hnumber, val_wrap hproduct, addDigit_signedNumber]
        exact val_wrap hsum
      · rw [appendUnchecked, digit?_of_not_isDigit hc, readFrom_cons_of_not_digit hnumber hc]

/-! ## Short texts -/

theorem ofDigitChars_lt (digits : List Char) (hdigits : ∀ c ∈ digits, c.isDigit = true)
    (start : Nat) : Nat.ofDigitChars 10 digits start < (start + 1) * 10 ^ digits.length := by
  induction digits generalizing start with
  | nil => simp
  | cons c rest ih =>
      rw [List.forall_mem_cons] at hdigits
      have hdigit : c.toNat - '0'.toNat ≤ 9 := by
        have hc := hdigits.1
        simp only [Char.isDigit, Bool.and_eq_true, decide_eq_true_eq] at hc
        have hle : c.toNat ≤ '9'.toNat := hc.2
        simp at hle ⊢
        omega
      rw [Nat.ofDigitChars_cons, List.length_cons, Nat.pow_succ]
      calc Nat.ofDigitChars 10 rest (10 * start + (c.toNat - '0'.toNat))
          < (10 * start + (c.toNat - '0'.toNat) + 1) * 10 ^ rest.length := ih hdigits.2 _
        _ ≤ ((start + 1) * 10) * 10 ^ rest.length := Nat.mul_le_mul_right _ (by omega)
        _ = (start + 1) * (10 ^ rest.length * 10) := by
          rw [Nat.mul_assoc, Nat.mul_comm 10]

theorem inRange_of_safeDigits (type : IntegerType) (negative : Bool)
    (hsign : negative = true → type.signed = true) :
    type.min ≤ signedNumber negative (10 ^ type.safeDigits - 1) ∧
      signedNumber negative (10 ^ type.safeDigits - 1) ≤ type.max := by
  rcases type with ⟨_ | _, _ | _ | _ | _⟩ <;> cases negative <;>
    first
      | exact absurd (hsign rfl) (by decide)
      | decide

/-- The digits that a short text starts with have no value out of range. -/
theorem inRange_of_length_le (hsign : negative = true → type.signed = true)
    (hshort : chars.length ≤ type.safeDigits) :
    type.min ≤ signedNumber negative (Nat.ofDigitChars 10 (chars.takeWhile Char.isDigit) 0) ∧
      signedNumber negative (Nat.ofDigitChars 10 (chars.takeWhile Char.isDigit) 0) ≤ type.max := by
  refine inRange_of_le ?_ (inRange_of_safeDigits type negative hsign)
  have hvalue := ofDigitChars_lt (chars.takeWhile Char.isDigit)
    (List.all_eq_true.1 List.all_takeWhile) 0
  have hlength : (chars.takeWhile Char.isDigit).length ≤ type.safeDigits :=
    Nat.le_trans (List.takeWhile_prefix _).length_le hshort
  have hpow : 10 ^ (chars.takeWhile Char.isDigit).length ≤ 10 ^ type.safeDigits :=
    Nat.pow_le_pow_right (by decide) hlength
  omega

theorem parseDigits_eq_readFrom (hsign : negative = true → type.signed = true) :
    type.parseDigits negative chars = type.readFrom negative 0 chars := by
  rw [parseDigits]
  split_ifs with hshort
  · let last : type.Value := ⟨_, inRange_of_length_le hsign hshort⟩
    have hlast : last.val = signedNumber negative _ := rfl
    exact appendUnchecked_eq_readFrom val_zero hlast
  · exact appendChecked_eq_readFrom val_zero

/-! ## Texts -/

/-- The sign of a text and what follows it. A `+` may start a number of any type, a `-` only one of a
type with a sign. -/
def splitSign (type : IntegerType) (text : String) : Bool × List Char :=
  match text.toList with
  | '+' :: rest => (false, rest)
  | '-' :: rest => if type.signed then (true, rest) else (false, '-' :: rest)
  | chars => (false, chars)

/-- The longest run of digits behind the sign of a text. -/
def leadingDigits (type : IntegerType) (text : String) : List Char :=
  (type.splitSign text).2.takeWhile Char.isDigit

/-- What follows the run of digits. -/
def remainder (type : IntegerType) (text : String) : List Char :=
  (type.splitSign text).2.dropWhile Char.isDigit

/-- The value of the run of digits, with the sign. -/
def leadingNumber (type : IntegerType) (text : String) : Int :=
  signedNumber (type.splitSign text).1 (Nat.ofDigitChars 10 (type.leadingDigits text) 0)

theorem signed_of_splitSign {text : String} (h : (type.splitSign text).1 = true) :
    type.signed = true := by
  rw [splitSign] at h
  split at h
  · cases h
  · split_ifs at h with hsigned
    exact hsigned
  · cases h

theorem parse_eq_readFrom {text : String} (hne : text ≠ "") :
    type.parse text =
      if (type.splitSign text).2 = [] then .error .invalidDigit
      else type.readFrom (type.splitSign text).1 0 (type.splitSign text).2 := by
  rw [← parseDigits_eq_readFrom signed_of_splitSign, parse, splitSign]
  cases htext : text.toList with
  | nil => exact absurd (String.toList_eq_nil_iff.1 htext) hne
  | cons c rest =>
      by_cases hplus : c = '+'
      · subst hplus
        cases rest <;> simp
      · by_cases hminus : c = '-'
        · subst hminus
          cases hsigned : type.signed with
          | true => cases rest <;> simp
          | false =>
              -- Here the minus is no sign, and so the first character that is no digit.
              have hlone : type.parseDigits false ['-'] = .error .invalidDigit :=
                (parseDigits_eq_readFrom Bool.noConfusion).trans
                  (readFrom_cons_of_not_digit val_zero (by decide))
              cases rest <;> simp [hlone]
        · simp [hplus, hminus]

/-- What is read is the number, if it is in range, there are digits, and nothing follows them. -/
theorem parse_eq {text : String} (hne : text ≠ "") :
    type.parse text =
      match type.ofInt? (type.leadingNumber text) with
      | none => .error (overflow (type.splitSign text).1)
      | some number =>
        if type.leadingDigits text ≠ [] ∧ type.remainder text = [] then .ok number
        else .error .invalidDigit := by
  rw [parse_eq_readFrom hne, leadingNumber, leadingDigits, remainder, readFrom]
  cases hchars : (type.splitSign text).2 with
  | nil =>
      have hzero : type.ofInt? (signedNumber (type.splitSign text).1 0) = some type.zero :=
        ofInt?_eq_some_iff.2 val_zero
      simp [hzero]
  | cons c rest =>
      by_cases hc : c.isDigit = true
      · simp [hc]
      · simp [hc]

section Exact

variable {text : String}

theorem parse_empty : type.parse "" = .error .empty := rfl

/-- A number below the range has a minus, and one above it has none. -/
theorem overflow_eq (h : ¬ (type.min ≤ type.leadingNumber text ∧
    type.leadingNumber text ≤ type.max)) :
    (overflow (type.splitSign text).1 = .tooSmall ∧ type.leadingNumber text < type.min) ∨
      overflow (type.splitSign text).1 = .tooLarge ∧ type.max < type.leadingNumber text := by
  have hmin := type.min_le_zero
  have hmax := type.zero_le_max
  rw [leadingNumber, signedNumber] at h ⊢
  cases hsign : (type.splitSign text).1 with
  | false =>
      simp only [hsign, Bool.false_eq_true, if_false] at h ⊢
      exact .inr ⟨rfl, by omega⟩
  | true =>
      simp only [hsign, if_true] at h ⊢
      exact .inl ⟨rfl, by omega⟩

/-- **The outcome of reading a text, told of its sign, its digits and what follows them.** -/
theorem parse_cases (type : IntegerType) (text : String) :
    (text = "" ∧ type.parse text = .error .empty) ∨
      (text ≠ "" ∧ type.max < type.leadingNumber text ∧ type.parse text = .error .tooLarge) ∨
      (text ≠ "" ∧ type.leadingNumber text < type.min ∧ type.parse text = .error .tooSmall) ∨
      (text ≠ "" ∧ (∃ number : type.Value, number.val = type.leadingNumber text) ∧
        (type.leadingDigits text = [] ∨ type.remainder text ≠ []) ∧
          type.parse text = .error .invalidDigit) ∨
      (text ≠ "" ∧ ∃ number : type.Value, number.val = type.leadingNumber text ∧
        (type.leadingDigits text ≠ [] ∧ type.remainder text = []) ∧
          type.parse text = .ok number) := by
  by_cases hne : text = ""
  · exact .inl ⟨hne, hne ▸ parse_empty⟩
  refine .inr ?_
  rw [parse_eq hne]
  cases hnumber : type.ofInt? (type.leadingNumber text) with
  | none =>
      rcases overflow_eq (ofInt?_eq_none_iff.1 hnumber) with ⟨hfault, hbelow⟩ | ⟨hfault, habove⟩
      · exact .inr (.inl ⟨hne, hbelow, congrArg _ hfault⟩)
      · exact .inl ⟨hne, habove, congrArg _ hfault⟩
  | some number =>
      have hvalue := ofInt?_eq_some_iff.1 hnumber
      refine .inr (.inr ?_)
      by_cases hplain : type.leadingDigits text ≠ [] ∧ type.remainder text = []
      · exact .inr ⟨hne, number, hvalue, hplain, if_pos hplain⟩
      · exact .inl ⟨hne, ⟨number, hvalue⟩, or_iff_not_and_not.2 (by simpa using hplain),
          if_neg hplain⟩

/-- The cases exclude each other, so that each outcome tells which of them the text is. -/
theorem parse_exact (type : IntegerType) (text : String) :
    (type.parse text = .error .empty ↔ text = "") ∧
      (type.parse text = .error .tooLarge ↔ text ≠ "" ∧ type.max < type.leadingNumber text) ∧
      (type.parse text = .error .tooSmall ↔ text ≠ "" ∧ type.leadingNumber text < type.min) ∧
      (type.parse text = .error .invalidDigit ↔
        text ≠ "" ∧
          (type.min ≤ type.leadingNumber text ∧ type.leadingNumber text ≤ type.max) ∧
          (type.leadingDigits text = [] ∨ type.remainder text ≠ [])) ∧
      ∀ number, type.parse text = .ok number ↔
        text ≠ "" ∧ number.val = type.leadingNumber text ∧ type.leadingDigits text ≠ [] ∧
          type.remainder text = [] := by
  have hmin := type.min_le_zero
  have hmax := type.zero_le_max
  rcases parse_cases type text with ⟨hempty, h⟩ | ⟨hne, habove, h⟩ | ⟨hne, hbelow, h⟩ |
    ⟨hne, ⟨number, hnumber⟩, hfault, h⟩ | ⟨hne, number, hnumber, hplain, h⟩
  · subst hempty
    simp [h]
  · have hnotBelow : ¬type.leadingNumber text < type.min := by omega
    have hnotInRange : ¬type.leadingNumber text ≤ type.max := Int.not_le.2 habove
    have hnone : ∀ number : type.Value, number.val ≠ type.leadingNumber text := fun number h =>
      hnotInRange (h ▸ number.property.2)
    simp [h, hne, habove, hnotBelow, hnotInRange, hnone]
  · have hnotAbove : ¬type.max < type.leadingNumber text := by omega
    have hnotInRange : ¬type.min ≤ type.leadingNumber text := Int.not_le.2 hbelow
    have hnone : ∀ number : type.Value, number.val ≠ type.leadingNumber text := fun number h =>
      hnotInRange (h ▸ number.property.1)
    simp [h, hne, hbelow, hnotAbove, hnotInRange, hnone]
  · obtain ⟨hlow, hhigh⟩ := number.property
    rw [hnumber] at hlow hhigh
    refine ⟨by simp [h, hne], by simp [h, Int.not_lt.2 hhigh], by simp [h, Int.not_lt.2 hlow],
      by simp [h, hne, hlow, hhigh, hfault], fun other => ?_⟩
    rw [h]
    exact ⟨by simp, fun hplain => absurd hplain.2.2.2 (hfault.resolve_left hplain.2.2.1)⟩
  · obtain ⟨hlow, hhigh⟩ := number.property
    rw [hnumber] at hlow hhigh
    have hsame : ∀ other : type.Value, number = other ↔ other.val = type.leadingNumber text :=
      fun other => by rw [Subtype.ext_iff, hnumber, eq_comm]
    simp [h, hne, Int.not_lt.2 hlow, Int.not_lt.2 hhigh, hplain, hsame]

end Exact

end ResourceNames.IntegerType
