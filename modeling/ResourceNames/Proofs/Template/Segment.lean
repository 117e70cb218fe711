import ResourceNames.Proofs.Template.Validity

set_option autoImplicit false

/-! # Segments by themselves

Which texts are literals and which are variables can be said of their characters, and so can what is
wrong with a text that is neither. Reading a segment gives the one that is written like the text, or
the fault of the text. -/

namespace ResourceNames

/-! ## Words and keys -/

def IsSmallLetter (c : Char) : Prop :=
  'a' ≤ c ∧ c ≤ 'z'

def IsCapitalLetter (c : Char) : Prop :=
  'A' ≤ c ∧ c ≤ 'Z'

def IsDecimalDigit (c : Char) : Prop :=
  '0' ≤ c ∧ c ≤ '9'

instance (c : Char) : Decidable (IsSmallLetter c) :=
  inferInstanceAs (Decidable (_ ∧ _))

instance (c : Char) : Decidable (IsCapitalLetter c) :=
  inferInstanceAs (Decidable (_ ∧ _))

instance (c : Char) : Decidable (IsDecimalDigit c) :=
  inferInstanceAs (Decidable (_ ∧ _))

/-- An ASCII letter followed by ASCII letters and digits. -/
def IsWord (text : String) : Prop :=
  ∃ first rest, text.toList = first :: rest ∧ (IsSmallLetter first ∨ IsCapitalLetter first) ∧
    ∀ c ∈ rest, IsSmallLetter c ∨ IsCapitalLetter c ∨ IsDecimalDigit c

/-- A small ASCII letter followed by small ASCII letters, digits and `_`. -/
def IsKey (text : String) : Prop :=
  ∃ first rest, text.toList = first :: rest ∧ IsSmallLetter first ∧
    ∀ c ∈ rest, IsSmallLetter c ∨ IsDecimalDigit c ∨ c = '_'

theorem isLower_iff {c : Char} : c.isLower = true ↔ IsSmallLetter c := by
  change (decide ('a' ≤ c) && decide (c ≤ 'z')) = true ↔ 'a' ≤ c ∧ c ≤ 'z'
  rw [Bool.and_eq_true, decide_eq_true_eq, decide_eq_true_eq]

theorem isUpper_iff {c : Char} : c.isUpper = true ↔ IsCapitalLetter c :=
  decide_eq_true_iff

theorem isDigit_iff {c : Char} : c.isDigit = true ↔ IsDecimalDigit c := by
  change (decide ('0' ≤ c) && decide (c ≤ '9')) = true ↔ '0' ≤ c ∧ c ≤ '9'
  rw [Bool.and_eq_true, decide_eq_true_eq, decide_eq_true_eq]

theorem isAlpha_iff {c : Char} : c.isAlpha = true ↔ IsSmallLetter c ∨ IsCapitalLetter c := by
  change (c.isUpper || c.isLower) = true ↔ _
  rw [Bool.or_eq_true, isUpper_iff, isLower_iff, or_comm]

theorem isAlphanum_iff {c : Char} :
    c.isAlphanum = true ↔ IsSmallLetter c ∨ IsCapitalLetter c ∨ IsDecimalDigit c := by
  change (c.isAlpha || c.isDigit) = true ↔ _
  rw [Bool.or_eq_true, isAlpha_iff, isDigit_iff, or_assoc]

theorem isLiteral_iff {text : String} : isLiteral text = true ↔ IsWord text := by
  rw [isLiteral, IsWord]
  cases text.toList with
  | nil => simp
  | cons first rest =>
      simp only [Bool.and_eq_true, List.all_eq_true, isAlpha_iff, isAlphanum_iff, List.cons.injEq]
      grind

theorem isVariableKey_iff {text : String} : isVariableKey text = true ↔ IsKey text := by
  rw [isVariableKey, IsKey]
  cases text.toList with
  | nil => simp
  | cons first rest =>
      simp only [Bool.and_eq_true, Bool.or_eq_true, List.all_eq_true, isLower_iff, isDigit_iff,
        beq_iff_eq, List.cons.injEq]
      grind

/-! ## One segment by itself -/

theorem IsWord.ne_empty {text : String} (h : IsWord text) : text ≠ "" := by
  rintro rfl
  obtain ⟨first, rest, htext, -⟩ := h
  simp at htext

theorem IsWord.ne_wildcard {text : String} (h : IsWord text) : text ≠ Text.wildcard := by
  rintro rfl
  exact absurd (isLiteral_iff.2 h) (by decide)

theorem IsWord.head?_ne_brace {text : String} (h : IsWord text) : text.toList.head? ≠ some '{' := by
  obtain ⟨first, rest, htext, hfirst, -⟩ := h
  rw [htext, List.head?_cons, ne_eq, Option.some.injEq]
  rintro rfl
  exact absurd hfirst (by decide)

namespace Segment

theorem isValid_literal_iff {text : String} : (Segment.literal text).IsValid ↔ IsWord text :=
  isLiteral_iff

theorem isValid_variable_iff {key : String} : (Segment.variable key).IsValid ↔ IsKey key :=
  isVariableKey_iff

theorem toList_text_variable (key : String) :
    (Segment.variable key).text.toList = '{' :: (key.toList ++ ['}']) := by
  simp [text]

theorem head?_text_variable (key : String) :
    (Segment.variable key).text.toList.head? = some '{' := by
  rw [toList_text_variable, List.head?_cons]

theorem key?OfBraced_eq_some_iff {text key : String} :
    key?OfBraced text = some key ↔ text = (Segment.variable key).text := by
  rw [← String.toList_inj, toList_text_variable, key?OfBraced]
  split
  · next inner hinner =>
      rw [hinner, List.cons.injEq, and_iff_right rfl]
      constructor
      · intro h
        split_ifs at h with hlast
        obtain ⟨front, rfl⟩ := List.getLast?_eq_some_iff.1 hlast
        rw [← Option.some.inj h, String.toList_ofList, List.dropLast_concat]
      · intro h
        simp [h]
  · next hother =>
      simp only [reduceCtorEq, false_iff]
      exact hother _

/-- Why a text is no segment, whatever stands around it. -/
inductive Malformed (pattern : String) (position : Nat) : String → TemplateError → Prop
  | empty : Malformed pattern position "" (.emptySegment pattern position)
  | wildcard : Malformed pattern position Text.wildcard (.wildcard pattern position)
  | invalidVariable {text : String} (hbrace : text.toList.head? = some '{')
      (hkey : ∀ key, IsKey key → text ≠ (Segment.variable key).text) :
      Malformed pattern position text (.invalidVariable text)
  | invalidLiteral {text : String} (hempty : text ≠ "") (hwildcard : text ≠ Text.wildcard)
      (hbrace : text.toList.head? ≠ some '{') (hword : ¬ IsWord text) :
      Malformed pattern position text (.invalidLiteral text)

variable {pattern text : String} {position : Nat}

/-- A text that opens with a brace is a variable or nothing. -/
theorem parse_of_brace (h : text.toList.head? = some '{') :
    parse pattern position text =
      match key?OfBraced text with
      | some key => if isVariableKey key then .ok (.variable key) else .error (.invalidVariable text)
      | none => .error (.invalidVariable text) := by
  have hempty : text ≠ "" := by
    rintro rfl
    exact absurd h (by decide)
  have hwildcard : text ≠ Text.wildcard := by
    rintro rfl
    exact absurd h (by decide)
  rw [parse, if_neg hempty, if_neg hwildcard]
  exact if_pos h

/-- A text is read as the segment that is written like it, if that is well formed. -/
theorem parse_eq_ok_iff {segment : Segment} :
    parse pattern position text = .ok segment ↔ segment.text = text ∧ segment.IsValid := by
  constructor
  · intro h
    refine ⟨?_, isValid_of_parse h⟩
    rw [parse] at h
    split_ifs at h with hempty hwildcard hbrace hliteral
    · cases hinner : key?OfBraced text with
      | none => simp [hinner] at h
      | some key =>
          simp only [hinner] at h
          split_ifs at h
          rw [← Except.ok.inj h, key?OfBraced_eq_some_iff.1 hinner]
    · rw [← Except.ok.inj h]
      rfl
  · rintro ⟨rfl, hvalid⟩
    rcases segment with word | key
    · have hword : IsWord word := isValid_literal_iff.1 hvalid
      rw [Segment.text, parse, if_neg hword.ne_empty, if_neg hword.ne_wildcard,
        if_neg hword.head?_ne_brace]
      exact if_pos hvalid
    · rw [parse_of_brace (head?_text_variable key), key?OfBraced_eq_some_iff.2 rfl]
      exact if_pos hvalid

/-- A text is refused for what makes it no segment. -/
theorem parse_eq_error_iff {error : TemplateError} :
    parse pattern position text = .error error ↔ Malformed pattern position text error := by
  constructor
  · intro h
    rw [parse] at h
    split_ifs at h with hempty hwildcard hbrace hliteral
    · rw [hempty, ← Except.error.inj h]
      exact .empty
    · rw [hwildcard, ← Except.error.inj h]
      exact .wildcard
    · have hkey : ∀ key, IsKey key → text ≠ (Segment.variable key).text := by
        intro key hkey htext
        rw [key?OfBraced_eq_some_iff.2 htext] at h
        simp [isVariableKey_iff.2 hkey] at h
      have herror : error = .invalidVariable text := by
        split at h
        · split_ifs at h
          exact (Except.error.inj h).symm
        · exact (Except.error.inj h).symm
      rw [herror]
      exact .invalidVariable hbrace hkey
    · rw [← Except.error.inj h]
      exact .invalidLiteral hempty hwildcard hbrace (mt isLiteral_iff.2 hliteral)
  · rintro (_ | _ | ⟨hbrace, hkey⟩ | ⟨hempty, hwildcard, hbrace, hword⟩)
    · rfl
    · rfl
    · rw [parse_of_brace hbrace]
      cases hinner : key?OfBraced text with
      | none => rfl
      | some key =>
          have hnot : ¬ IsKey key := fun h => hkey key h (key?OfBraced_eq_some_iff.1 hinner)
          exact if_neg (mt isVariableKey_iff.1 hnot)
    · rw [parse, if_neg hempty, if_neg hwildcard, if_neg hbrace]
      exact if_neg (mt isLiteral_iff.1 hword)

theorem not_malformed_of_isValid {segment : Segment} (h : segment.IsValid) (error : TemplateError) :
    ¬ Malformed pattern position segment.text error := by
  intro hmalformed
  have hok : parse pattern position segment.text = .ok segment := parse_eq_ok_iff.2 ⟨rfl, h⟩
  rw [parse_eq_error_iff.2 hmalformed] at hok
  cases hok

end Segment

theorem IsWord.ne_text_variable {text : String} (h : IsWord text) (key : String) :
    text ≠ (Segment.variable key).text := by
  rintro rfl
  exact h.head?_ne_brace (Segment.head?_text_variable key)

theorem Segment.eq_variable_of_text_eq {segment : Segment} (h : segment.IsValid) {key : String}
    (htext : segment.text = (Segment.variable key).text) : segment = .variable key := by
  rcases segment with word | other
  · exact absurd htext ((Segment.isValid_literal_iff.1 h).ne_text_variable key)
  · rw [← String.toList_inj, toList_text_variable, toList_text_variable] at htext
    have hkeys := List.append_cancel_right (List.cons.inj htext).2
    rw [String.toList_inj.1 hkeys]

end ResourceNames
