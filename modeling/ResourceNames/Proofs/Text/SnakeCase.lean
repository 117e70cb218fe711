import ResourceNames.Text.SnakeCase
import ResourceNames.Proofs.Template.Segment
import ResourceNames.Proofs.Text.LowerCase

set_option autoImplicit false

/-! # Snake case is a normal form

What snake case writes is in lower case and without blanks and hyphens, and whatever is so comes back
unchanged. The `_` that it puts before words and in place of blanks and hyphens are all that tells
its result from the lower case of the name, so that the name of a field always becomes a key that
patterns can use. -/

namespace ResourceNames.Text

/-! ## One character -/

/-- A character in lower case, and neither a blank nor a hyphen. -/
def IsSnakeChar (c : Char) : Prop :=
  lowerCase c = [c] ∧ c ≠ ' ' ∧ c ≠ '-'

/-- A character that only sets words apart. -/
def isWordBreak (c : Char) : Bool :=
  c == ' ' || c == '-' || c == '_'

section

variable {previous : Option Char} {c d : Char}

theorem snakeCaseChar_of_break (h : c = ' ' ∨ c = '-') : snakeCaseChar previous c = ['_'] := by
  rcases h with rfl | rfl <;> rfl

theorem snakeCaseChar_of_ne (h : c ≠ ' ' ∧ c ≠ '-') :
    snakeCaseChar previous c =
      (if c.isUpper && previous.any Char.isLower then ['_'] else []) ++ lowerCase c := by
  simp only [snakeCaseChar, h.1, h.2, decide_false, Bool.or_false, Bool.false_eq_true, if_false]
  split <;> rfl

theorem mem_snakeCaseChar (h : d ∈ snakeCaseChar previous c) :
    d = '_' ∨ (c ≠ ' ' ∧ c ≠ '-') ∧ d ∈ lowerCase c := by
  by_cases hbreak : c ≠ ' ' ∧ c ≠ '-'
  · rw [snakeCaseChar_of_ne hbreak, List.mem_append] at h
    rcases h with hword | hlower
    · split at hword
      · exact .inl (List.mem_singleton.1 hword)
      · exact absurd hword List.not_mem_nil
    · exact .inr ⟨hbreak, hlower⟩
  · rw [snakeCaseChar_of_break (by tauto), List.mem_singleton] at h
    exact .inl h

theorem IsSnakeChar.isUpper_eq_false (h : IsSnakeChar c) : c.isUpper = false := by
  refine Bool.eq_false_iff.2 fun hupper => ?_
  obtain ⟨small, hsmall, hlower⟩ := exists_lowerCase_of_isUpper hupper
  obtain rfl : c = small := by simpa [h.1] using hsmall
  have hletter : IsSmallLetter c := isLower_iff.1 hlower
  have hcapital : IsCapitalLetter c := isUpper_iff.1 hupper
  exact absurd (Char.le_trans hletter.1 hcapital.2) (by decide)

theorem isSnakeChar_underscore : IsSnakeChar '_' :=
  ⟨lowerCase_of_ascii (by decide) rfl, by decide, by decide⟩

theorem isSnakeChar_of_mem_snakeCaseChar (h : d ∈ snakeCaseChar previous c) : IsSnakeChar d := by
  rcases mem_snakeCaseChar h with rfl | ⟨⟨hblank, hhyphen⟩, hlower⟩
  · exact isSnakeChar_underscore
  · refine ⟨lowerCase_of_mem_lowerCase hlower, ?_, ?_⟩
    · rintro rfl
      exact hblank (eq_of_mem_lowerCase_of_le hlower (by decide)).symm
    · rintro rfl
      exact hhyphen (eq_of_mem_lowerCase_of_le hlower (by decide)).symm

theorem IsSnakeChar.snakeCaseChar_eq (h : IsSnakeChar c) : snakeCaseChar previous c = [c] := by
  rw [snakeCaseChar_of_ne h.2, h.isUpper_eq_false, h.1]
  rfl

theorem underscore_notMem_lowerCase (h : c ≠ '_') : '_' ∉ lowerCase c :=
  fun hmem => h (eq_of_mem_lowerCase_of_le hmem (by decide)).symm

theorem filter_snakeCaseChar :
    (snakeCaseChar previous c).filter (· ≠ '_') = if isWordBreak c then [] else lowerCase c := by
  by_cases hbreak : c ≠ ' ' ∧ c ≠ '-'
  · have hword : (if c.isUpper && previous.any Char.isLower then ['_'] else []).filter (· ≠ '_') =
        [] := by
      split <;> rfl
    rw [snakeCaseChar_of_ne hbreak, List.filter_append, hword, List.nil_append]
    by_cases hunderscore : c = '_'
    · subst hunderscore
      decide
    · have hnot : isWordBreak c = false := by simp [isWordBreak, hbreak, hunderscore]
      rw [hnot, if_neg Bool.false_ne_true, List.filter_eq_self]
      intro d hd
      have hd' : d ≠ '_' := fun heq => underscore_notMem_lowerCase hunderscore (heq ▸ hd)
      simpa using hd'
  · have hword : isWordBreak c = true := by
      simp only [isWordBreak, Bool.or_eq_true, beq_iff_eq]
      tauto
    rw [snakeCaseChar_of_break (by tauto), hword]
    rfl

end

/-! ## A whole name -/

theorem isSnakeChar_of_mem_snakeCaseFrom {d : Char} {previous : Option Char} {name : List Char}
    (h : d ∈ snakeCaseFrom previous name) : IsSnakeChar d := by
  induction name generalizing previous with
  | nil => simp [snakeCaseFrom] at h
  | cons c rest ih =>
      rw [snakeCaseFrom, List.mem_append] at h
      rcases h with hc | hrest
      · exact isSnakeChar_of_mem_snakeCaseChar hc
      · exact ih hrest

theorem snakeCaseFrom_eq_self {name : List Char} (h : ∀ c ∈ name, IsSnakeChar c)
    (previous : Option Char) : snakeCaseFrom previous name = name := by
  induction name generalizing previous with
  | nil => rfl
  | cons c rest ih =>
      rw [List.forall_mem_cons] at h
      rw [snakeCaseFrom, h.1.snakeCaseChar_eq, ih h.2, List.singleton_append]

theorem filter_snakeCaseFrom (previous : Option Char) (name : List Char) :
    (snakeCaseFrom previous name).filter (· ≠ '_') =
      (name.filter (!isWordBreak ·)).flatMap lowerCase := by
  induction name generalizing previous with
  | nil => rfl
  | cons c rest ih =>
      rw [snakeCaseFrom, List.filter_append, filter_snakeCaseChar, ih]
      cases hbreak : isWordBreak c <;> simp [hbreak]

/-! ## Identifiers -/

/-- An ASCII letter followed by ASCII letters, digits and `_`. -/
def IsIdentifier (name : String) : Prop :=
  ∃ first rest, name.toList = first :: rest ∧ (IsSmallLetter first ∨ IsCapitalLetter first) ∧
    ∀ c ∈ rest, IsSmallLetter c ∨ IsCapitalLetter c ∨ IsDecimalDigit c ∨ c = '_'

/-- A character that a key can have after its first. -/
def IsKeyChar (c : Char) : Prop :=
  IsSmallLetter c ∨ IsDecimalDigit c ∨ c = '_'

theorem IsKeyChar.lowerCase_eq {c : Char} (h : IsKeyChar c) : lowerCase c = [c] := by
  have hbounds : c.toNat < 128 ∧ ¬(c ≤ 'Z' ∧ 'A' ≤ c) := by
    rcases h with ⟨hlow, hhigh⟩ | ⟨hlow, hhigh⟩ | rfl
    · exact ⟨Nat.lt_of_le_of_lt hhigh (by decide),
        fun hcapital => absurd (Char.le_trans hlow hcapital.1) (by decide)⟩
    · exact ⟨Nat.lt_of_le_of_lt hhigh (by decide),
        fun hcapital => absurd (Char.le_trans hcapital.2 hhigh) (by decide)⟩
    · decide
  refine lowerCase_of_ascii hbounds.1 (Bool.eq_false_iff.2 fun hupper => hbounds.2 ?_)
  have hcapital : IsCapitalLetter c := isUpper_iff.1 hupper
  exact ⟨hcapital.2, hcapital.1⟩

theorem exists_lowerCase_of_letter {c : Char} (h : IsSmallLetter c ∨ IsCapitalLetter c) :
    ∃ d, lowerCase c = [d] ∧ IsSmallLetter d := by
  rcases h with hsmall | hcapital
  · exact ⟨c, IsKeyChar.lowerCase_eq (.inl hsmall), hsmall⟩
  · obtain ⟨d, hd, hlower⟩ := exists_lowerCase_of_isUpper (isUpper_iff.2 hcapital)
    exact ⟨d, hd, isLower_iff.1 hlower⟩

theorem isKeyChar_of_mem_snakeCaseChar {previous : Option Char} {c d : Char}
    (hc : IsSmallLetter c ∨ IsCapitalLetter c ∨ IsDecimalDigit c ∨ c = '_')
    (h : d ∈ snakeCaseChar previous c) : IsKeyChar d := by
  rcases mem_snakeCaseChar h with rfl | ⟨-, hlower⟩
  · exact .inr (.inr rfl)
  · rcases or_assoc.2 hc with hletter | hother
    · obtain ⟨small, hsmall, hd⟩ := exists_lowerCase_of_letter hletter
      rw [hsmall, List.mem_singleton] at hlower
      exact .inl (hlower ▸ hd)
    · rw [IsKeyChar.lowerCase_eq (.inr hother), List.mem_singleton] at hlower
      exact hlower ▸ .inr hother

theorem isKeyChar_of_mem_snakeCaseFrom {d : Char} {previous : Option Char} {name : List Char}
    (hname : ∀ c ∈ name, IsSmallLetter c ∨ IsCapitalLetter c ∨ IsDecimalDigit c ∨ c = '_')
    (h : d ∈ snakeCaseFrom previous name) : IsKeyChar d := by
  induction name generalizing previous with
  | nil => simp [snakeCaseFrom] at h
  | cons c rest ih =>
      rw [List.forall_mem_cons] at hname
      rw [snakeCaseFrom, List.mem_append] at h
      rcases h with hc | hrest
      · exact isKeyChar_of_mem_snakeCaseChar hname.1 hc
      · exact ih hname.2 hrest

/-- The first letter of a name has no word before it, so that nothing is put before it. -/
theorem exists_snakeCaseChar_none {c : Char} (h : IsSmallLetter c ∨ IsCapitalLetter c) :
    ∃ d, snakeCaseChar none c = [d] ∧ IsSmallLetter d := by
  have hne : c ≠ ' ' ∧ c ≠ '-' := by
    constructor <;> rintro rfl <;> exact absurd h (by decide)
  obtain ⟨d, hd, hsmall⟩ := exists_lowerCase_of_letter h
  exact ⟨d, by simp [snakeCaseChar_of_ne hne, hd], hsmall⟩

theorem IsIdentifier.isKey_snakeCase {name : String} (h : IsIdentifier name) :
    IsKey (snakeCase name) := by
  obtain ⟨first, rest, hname, hfirst, hrest⟩ := h
  obtain ⟨d, hd, hsmall⟩ := exists_snakeCaseChar_none hfirst
  refine ⟨d, snakeCaseFrom (some first) rest, ?_, hsmall, fun c hc => ?_⟩
  · rw [snakeCase, String.toList_ofList, hname, snakeCaseFrom, hd, List.singleton_append]
  · exact isKeyChar_of_mem_snakeCaseFrom hrest hc

/-! ## The normal form -/

/-- **Snake case is a normal form that patterns can name.** The snake case of a name has no ASCII
capital, no blank and no hyphen, it is its own snake case, and without its `_` it is the name in
lower case without its blanks, hyphens and `_`. The snake case of an identifier is a key. -/
theorem snakeCase_normal (name : String) :
    (∀ c ∈ (snakeCase name).toList, c.isUpper = false ∧ c ≠ ' ' ∧ c ≠ '-') ∧
      snakeCase (snakeCase name) = snakeCase name ∧
      (snakeCase name).toList.filter (· ≠ '_') =
        (name.toList.filter (!isWordBreak ·)).flatMap lowerCase ∧
      (IsIdentifier name → isVariableKey (snakeCase name) = true) := by
  have hchars : ∀ c ∈ (snakeCase name).toList, IsSnakeChar c := by
    intro c hc
    rw [snakeCase, String.toList_ofList] at hc
    exact isSnakeChar_of_mem_snakeCaseFrom hc
  refine ⟨fun c hc => ⟨(hchars c hc).isUpper_eq_false, (hchars c hc).2⟩, ?_, ?_, ?_⟩
  · rw [snakeCase, snakeCaseFrom_eq_self hchars, String.ofList_toList]
  · rw [snakeCase, String.toList_ofList, filter_snakeCaseFrom]
  · exact fun h => isVariableKey_iff.2 h.isKey_snakeCase

/-- A name with an acronym, a digit and a `_` of its own. -/
theorem snakeCase_normal_oneID :
    IsIdentifier "oneID_2" ∧ snakeCase "oneID_2" = "one_id_2" ∧
      isVariableKey (snakeCase "oneID_2") = true := by
  have hname : IsIdentifier "oneID_2" := by
    refine ⟨'o', ['n', 'e', 'I', 'D', '_', '2'], rfl, by decide, ?_⟩
    simp only [List.forall_mem_cons, List.not_mem_nil, false_implies, implies_true, and_true]
    decide
  exact ⟨hname, by decide +kernel, (snakeCase_normal "oneID_2").2.2.2 hname⟩

end ResourceNames.Text
