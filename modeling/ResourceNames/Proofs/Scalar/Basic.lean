import ResourceNames.Proofs.Scalar.Decimal
import ResourceNames.Scalar.Basic
import ResourceNames.Template.Match

set_option autoImplicit false

/-! # Texts of scalars in names

Every scalar is read back from its text. The text of a number is always fit to be a segment of a
name; that of a string need not be. -/

namespace ResourceNames

namespace Scalar

/-- **Every scalar is what its text is read as.** -/
theorem parse_text (scalar : Scalar) : scalar.type.parse scalar.text = .ok scalar := by
  cases scalar with
  | integer type number =>
      show ((type.parse (integerText number.val)).map (Scalar.integer type)).mapError _ = _
      rw [IntegerType.parse_integerText]
      rfl
  | float format number =>
      show ((Binary.parse format number.text).map (Scalar.float format)).mapError _ = _
      rw [Binary.parse_text]
      rfl
  | string text => rfl

/-! ## Characters -/

/-- The characters of numbers, and of the words for values that are none, are no delimiters. -/
def IsInner (c : Char) : Prop :=
  c ≠ Text.separator ∧ c ≠ '\x7b'

theorem isInner_of_isDigit {c : Char} (h : c.isDigit = true) : IsInner c := by
  constructor
  · rintro rfl
    simp [Text.separator] at h
  · rintro rfl
    simp at h

theorem isInner_of_mem_toDigits {number : Nat} {c : Char} (h : c ∈ Nat.toDigits 10 number) :
    IsInner c :=
  isInner_of_isDigit (IntegerType.isDigit_of_mem_toDigits h)

theorem isInner_of_mem_integerText {number : Int} {c : Char} (h : c ∈ (integerText number).toList) :
    IsInner c := by
  by_cases hneg : number < 0
  · rw [IntegerType.toList_integerText_of_neg hneg] at h
    rcases List.mem_cons.1 h with rfl | hdigit
    · exact ⟨by decide, by decide⟩
    · exact isInner_of_mem_toDigits hdigit
  · rw [IntegerType.toList_integerText_of_nonneg hneg] at h
    exact isInner_of_mem_toDigits h

theorem isInner_of_mem_positional {digits : Nat} {exponent : Int} {c : Char}
    (h : c ∈ Binary.positional digits exponent) : IsInner c := by
  have hpoint : IsInner '.' := ⟨by decide, by decide⟩
  have hzero : IsInner '0' := ⟨by decide, by decide⟩
  unfold Binary.positional at h
  dsimp only at h
  split at h
  · rcases List.mem_append.1 h with hdigit | hzeros
    · exact isInner_of_mem_toDigits hdigit
    · rw [List.eq_of_mem_replicate hzeros]
      exact hzero
  · split at h
    · rcases List.mem_append.1 h with hwhole | hrest
      · exact isInner_of_mem_toDigits (List.mem_of_mem_take hwhole)
      · rcases List.mem_cons.1 hrest with rfl | hfraction
        · exact hpoint
        · exact isInner_of_mem_toDigits (List.mem_of_mem_drop hfraction)
    · rcases List.mem_append.1 h with hzeros | hdigit
      · simp only [List.mem_cons] at hzeros
        rcases hzeros with rfl | rfl | hzeros
        · exact hzero
        · exact hpoint
        · rw [List.eq_of_mem_replicate hzeros]
          exact hzero
      · exact isInner_of_mem_toDigits hdigit

theorem isInner_of_mem_signText {negative : Bool} {c : Char}
    (h : c ∈ Binary.signText negative) : IsInner c := by
  cases negative with
  | false => cases h
  | true =>
      obtain rfl : c = '-' := by simpa [Binary.signText] using h
      exact ⟨by decide, by decide⟩

theorem isInner_of_mem_binaryText {format : FloatFormat} {number : Binary format} {c : Char}
    (h : c ∈ number.text.toList) : IsInner c := by
  cases number with
  | nan =>
      rw [Binary.text] at h
      have hword : c ∈ ['N', 'a', 'N'] := h
      simp only [List.mem_cons, List.not_mem_nil, or_false] at hword
      rcases hword with rfl | rfl | rfl <;> exact ⟨by decide, by decide⟩
  | infinite negative =>
      rw [Binary.text, String.toList_ofList] at h
      rcases List.mem_append.1 h with hsign | hword
      · exact isInner_of_mem_signText hsign
      · replace hword : c ∈ ['i', 'n', 'f'] := hword
        simp only [List.mem_cons, List.not_mem_nil, or_false] at hword
        rcases hword with rfl | rfl | rfl <;> exact ⟨by decide, by decide⟩
  | finite negative rank =>
      unfold Binary.text at h
      dsimp only at h
      split at h
      · rw [String.toList_ofList] at h
        rcases List.mem_append.1 h with hsign | hzero
        · exact isInner_of_mem_signText hsign
        · rw [List.mem_singleton.1 hzero]
          exact ⟨by decide, by decide⟩
      · rw [String.toList_ofList] at h
        rcases List.mem_append.1 h with hsign | hdigits
        · exact isInner_of_mem_signText hsign
        · exact isInner_of_mem_positional hdigits

/-! ## Segments -/

/-- The text of the scalar stands for itself as a segment of a name: it is a number, or a string
without separators that is neither the wildcard nor in braces. -/
def IsSegment : Scalar → Prop
  | .integer _ _ => True
  | .float _ _ => True
  | .string text =>
    Text.separator ∉ text.toList ∧ text ≠ Text.wildcard ∧ isBraced text = false

theorem isBraced_of_isInner {text : String} (h : ∀ c ∈ text.toList, IsInner c) :
    isBraced text = false := by
  unfold isBraced
  rw [Bool.and_eq_false_iff]
  left
  rw [beq_eq_false_iff_ne]
  intro hhead
  exact (h _ (List.mem_of_head? hhead)).2 rfl

theorem separator_not_mem_of_isInner {text : String} (h : ∀ c ∈ text.toList, IsInner c) :
    Text.separator ∉ text.toList :=
  fun hmem => (h _ hmem).1 rfl

theorem IsSegment.separator_not_mem {scalar : Scalar} (h : scalar.IsSegment) :
    Text.separator ∉ scalar.text.toList := by
  cases scalar with
  | integer type number =>
      exact separator_not_mem_of_isInner fun _ => isInner_of_mem_integerText
  | float format number =>
      exact separator_not_mem_of_isInner fun _ => isInner_of_mem_binaryText
  | string text => exact h.1

theorem IsSegment.ne_wildcard {scalar : Scalar} (h : scalar.IsSegment) :
    scalar.text ≠ Text.wildcard := by
  intro htext
  have hparse := scalar.parse_text
  rw [htext] at hparse
  cases scalar with
  | integer type number => cases hparse
  | float format number => cases hparse
  | string text => exact h.2.1 htext

theorem IsSegment.isBraced_eq_false {scalar : Scalar} (h : scalar.IsSegment) :
    isBraced scalar.text = false := by
  cases scalar with
  | integer type number => exact isBraced_of_isInner fun _ => isInner_of_mem_integerText
  | float format number => exact isBraced_of_isInner fun _ => isInner_of_mem_binaryText
  | string text => exact h.2.2

theorem text_ne_empty {scalar : Scalar} (h : scalar.isZero = false) : scalar.text ≠ "" := by
  intro htext
  have hparse := scalar.parse_text
  rw [htext] at hparse
  cases scalar with
  | integer type number => cases hparse
  | float format number => cases hparse
  | string text =>
      obtain rfl : text = "" := htext
      cases h

theorem IsSegment.isToken {scalar : Scalar} (h : scalar.IsSegment)
    (hpresent : scalar.isZero = false) : isToken scalar.text = true := by
  simp [ResourceNames.isToken, text_ne_empty hpresent, h.isBraced_eq_false]

end Scalar

end ResourceNames
