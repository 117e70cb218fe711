import Mathlib.Tactic.SplitIfs
import ResourceNames.Proofs.Template.Matching
import ResourceNames.Template.Parse

set_option autoImplicit false

/-! # Templates that follow the grammar

Parsing judges a segment against those before it, so that the invariant of the walk is a property
of the segments read so far: each is well formed, literals and variables take turns, and no key
occurs twice. Taking turns fixes which places hold variables, and that makes the matching of two
templates all or nothing: the same name never matches two templates of different shapes. -/

namespace ResourceNames

/-- Whether a segment is well formed by itself. -/
def Segment.IsValid : Segment → Prop
  | .literal text => isLiteral text = true
  | .variable key => isVariableKey key = true

namespace Segment

@[simp] theorem isVariable_literal (text : String) : (Segment.literal text).isVariable = false :=
  rfl

@[simp] theorem isVariable_variable (key : String) : (Segment.variable key).isVariable = true :=
  rfl

@[simp] theorem key?_literal (text : String) : (Segment.literal text).key? = none :=
  rfl

@[simp] theorem key?_variable (key : String) : (Segment.variable key).key? = some key :=
  rfl

end Segment

theorem mem_filterMap_key?_iff {segments : List Segment} {key : String} :
    key ∈ segments.filterMap Segment.key? ↔ .variable key ∈ segments := by
  constructor
  · intro h
    obtain ⟨segment, hsegment, hkey⟩ := List.mem_filterMap.1 h
    rcases segment with word | other
    · cases hkey
    · rwa [← Option.some.inj hkey]
  · intro h
    exact List.mem_filterMap.2 ⟨_, h, rfl⟩

/-- What parsing guarantees of the segments of a template. -/
structure ValidSegments (segments : List Segment) : Prop where
  wellFormed : ∀ segment ∈ segments, segment.IsValid
  /-- Variables are at the odd places, counted from 0. -/
  alternates : ∀ index segment, segments[index]? = some segment →
    (segment.isVariable = true ↔ index % 2 = 1)
  keys_nodup : (segments.filterMap Segment.key?).Nodup

namespace ValidSegments

theorem nil : ValidSegments [] where
  wellFormed := by simp
  alternates := by simp
  keys_nodup := by simp

theorem separator_not_mem_literal {segments : List Segment} (h : ValidSegments segments)
    {text : String} (hmem : .literal text ∈ segments) : Text.separator ∉ text.toList := by
  have hliteral : isLiteral text = true := h.wellFormed _ hmem
  intro hsep
  rw [isLiteral] at hliteral
  cases hchars : text.toList with
  | nil => simp [hchars] at hsep
  | cons c rest =>
      rw [hchars] at hliteral hsep
      simp only [Bool.and_eq_true, List.all_eq_true] at hliteral
      rcases List.mem_cons.1 hsep with rfl | hrest
      · exact absurd hliteral.1 (by decide)
      · exact absurd (hliteral.2 _ hrest) (by decide)

/-- Two templates that are filled to the same parts have the same literals at the same places. -/
theorem shape_eq_of_fill_eq {segments others : List Segment} (h : ValidSegments segments)
    (hothers : ValidSegments others) {values tokens : List String}
    (hfill : Template.fill segments values = Template.fill others tokens) :
    segments.map Segment.literal? = others.map Segment.literal? := by
  have hlength : segments.length = others.length := by
    rw [← Template.length_fill segments values, hfill, Template.length_fill]
  apply List.ext_getElem?
  intro index
  rw [List.getElem?_map, List.getElem?_map]
  -- Both have a literal at the index, or both a variable, since both take turns from the start.
  cases hsegment : segments[index]? with
  | none =>
      have hnone : others[index]? = none := by
        rw [List.getElem?_eq_none_iff] at hsegment ⊢
        omega
      rw [hnone]
  | some segment =>
      obtain ⟨hindex, -⟩ := List.getElem?_eq_some_iff.1 hsegment
      obtain ⟨other, hother⟩ : ∃ other, others[index]? = some other :=
        ⟨_, List.getElem?_eq_getElem (hlength ▸ hindex)⟩
      have hturn : segment.isVariable = true ↔ other.isVariable = true :=
        (h.alternates index segment hsegment).trans (hothers.alternates index other hother).symm
      rw [hother]
      rcases segment with text | key
      · rcases other with otherText | otherKey
        · have htext : (Template.fill segments values)[index]? = some text :=
            Template.getElem?_fill_literal hsegment
          rw [hfill, Template.getElem?_fill_literal hother] at htext
          simpa [Segment.literal?] using htext.symm
        · exact absurd (hturn.2 rfl) Bool.false_ne_true
      · rcases other with otherText | otherKey
        · exact absurd (hturn.1 rfl) Bool.false_ne_true
        · rfl

section Next

variable {pattern : String} {before : List Segment} {segment : Segment}

/-- After segments that take turns, their number tells what the last one is. -/
theorem isVariable_of_getLast? (h : ValidSegments before) {previous : Segment}
    (hlast : before.getLast? = some previous) :
    before ≠ [] ∧ previous.isVariable = decide (before.length % 2 = 0) := by
  have hne : before ≠ [] := by
    rintro rfl
    cases hlast
  have hplace : before[before.length - 1]? = some previous := by
    rw [← List.getLast?_eq_getElem?, hlast]
  have hlength := List.length_pos_iff.2 hne
  refine ⟨hne, ?_⟩
  rw [Bool.eq_iff_iff, h.alternates _ _ hplace, decide_eq_true_eq]
  omega

theorem checkNext_literal (h : ValidSegments before) (word : String) :
    Template.checkNext pattern before (.literal word) =
      if before.length % 2 = 0 then .ok ()
      else .error (.notAlternating pattern (before.length + 1)) := by
  rw [Template.checkNext]
  cases hlast : before.getLast? with
  | none =>
      rw [List.getLast?_eq_none_iff.1 hlast]
      rfl
  | some previous =>
      obtain ⟨-, hprevious⟩ := isVariable_of_getLast? h hlast
      by_cases hturn : before.length % 2 = 0 <;>
        simp [hprevious, hturn]

theorem checkNext_variable (h : ValidSegments before) (key : String) :
    Template.checkNext pattern before (.variable key) =
      if before.length % 2 = 0 then
        .error (if before = [] then .leadingVariable pattern
          else .notAlternating pattern (before.length + 1))
      else if .variable key ∈ before then .error (.duplicateVariable pattern key)
      else .ok () := by
  rw [Template.checkNext]
  cases hlast : before.getLast? with
  | none =>
      rw [List.getLast?_eq_none_iff.1 hlast]
      rfl
  | some previous =>
      obtain ⟨hne, hprevious⟩ := isVariable_of_getLast? h hlast
      by_cases hturn : before.length % 2 = 0 <;>
        simp only [hprevious, hturn, hne, mem_filterMap_key?_iff] <;> simp

/-- What may come next is a variable if it comes at the place of one. -/
theorem isVariable_iff_of_checkNext (h : ValidSegments before)
    (hnext : Template.checkNext pattern before segment = .ok ()) :
    segment.isVariable = true ↔ before.length % 2 = 1 := by
  rcases segment with word | key
  · rw [h.checkNext_literal] at hnext
    split_ifs at hnext with hturn
    simp [hturn]
  · rw [h.checkNext_variable] at hnext
    split_ifs at hnext with hturn
    simpa using hturn

theorem not_mem_of_checkNext (h : ValidSegments before)
    (hnext : Template.checkNext pattern before segment = .ok ()) {key : String}
    (hkey : segment.key? = some key) : key ∉ before.filterMap Segment.key? := by
  rcases segment with word | other
  · cases hkey
  · obtain rfl : other = key := Option.some.inj hkey
    rw [h.checkNext_variable] at hnext
    split_ifs at hnext with hturn hmem
    exact mt mem_filterMap_key?_iff.1 hmem

/-- Appending a segment that may come next keeps the segments valid. -/
theorem concat (h : ValidSegments before) (hsegment : segment.IsValid)
    (hnext : Template.checkNext pattern before segment = .ok ()) :
    ValidSegments (before ++ [segment]) := by
  constructor
  · intro other hother
    rcases List.mem_append.1 hother with hbefore | hnew
    · exact h.wellFormed other hbefore
    · rw [List.mem_singleton.1 hnew]
      exact hsegment
  · intro index other hother
    rw [List.getElem?_append] at hother
    split at hother
    · exact h.alternates index other hother
    · next hindex =>
        obtain ⟨hzero, hsame⟩ : index = before.length ∧ segment = other := by
          have hsingle := List.getElem?_eq_some_iff.1 hother
          obtain ⟨hlength, heq⟩ := hsingle
          simp only [List.length_singleton] at hlength
          refine ⟨by omega, ?_⟩
          simpa using heq
        rw [← hsame, hzero]
        exact h.isVariable_iff_of_checkNext hnext
  · rw [List.filterMap_append, List.nodup_append]
    refine ⟨h.keys_nodup, ?_, ?_⟩
    · cases hkey : segment.key? <;> simp [hkey]
    · intro key hmem other hother hsame
      subst hsame
      have hkey : segment.key? = some key := by simpa using hother
      exact h.not_mem_of_checkNext hnext hkey hmem

end Next

end ValidSegments

/-! ## Parsing -/

theorem Segment.isValid_of_parse {pattern text : String} {position : Nat} {segment : Segment}
    (h : Segment.parse pattern position text = .ok segment) : segment.IsValid := by
  rw [Segment.parse] at h
  split_ifs at h with hempty hwildcard hbrace hliteral
  · split at h
    · split_ifs at h with hkey
      simp only [Except.ok.injEq] at h
      rw [← h]
      exact hkey
    · simp at h
  · simp only [Except.ok.injEq] at h
    rw [← h]
    exact hliteral

namespace Template

theorem parseSegments_cons {pattern text : String} {before segments : List Segment}
    {rest : List String}
    (h : parseSegments pattern before (text :: rest) = .ok segments) :
    ∃ segment, Segment.parse pattern (before.length + 1) text = .ok segment ∧
      checkNext pattern before segment = .ok () ∧
      parseSegments pattern (before ++ [segment]) rest = .ok segments := by
  rw [parseSegments] at h
  obtain ⟨segment, hsegment, h⟩ := bind_eq_ok_iff.1 h
  obtain ⟨⟨⟩, hnext, h⟩ := bind_eq_ok_iff.1 h
  exact ⟨segment, hsegment, hnext, h⟩

theorem validSegments_of_parseSegments {pattern : String} {before segments : List Segment}
    {parts : List String} (hbefore : ValidSegments before)
    (h : parseSegments pattern before parts = .ok segments) : ValidSegments segments := by
  induction parts generalizing before with
  | nil =>
      simp only [parseSegments, Except.ok.injEq] at h
      rw [← h]
      exact hbefore
  | cons text rest ih =>
      obtain ⟨segment, hsegment, hnext, hrest⟩ := parseSegments_cons h
      exact ih (hbefore.concat (Segment.isValid_of_parse hsegment) hnext) hrest

theorem length_of_parseSegments {pattern : String} {before segments : List Segment}
    {parts : List String} (h : parseSegments pattern before parts = .ok segments) :
    segments.length = before.length + parts.length := by
  induction parts generalizing before with
  | nil =>
      simp only [parseSegments, Except.ok.injEq] at h
      simp [h]
  | cons text rest ih =>
      obtain ⟨segment, -, -, hrest⟩ := parseSegments_cons h
      have hlength := ih hrest
      simp only [List.length_append, List.length_cons, List.length_nil] at hlength ⊢
      omega

theorem parse_eq_ok {pattern : String} {template : Template} (h : parse pattern = .ok template) :
    template.text = pattern ∧
      parseSegments pattern [] (Text.segments pattern) = .ok template.segments := by
  rw [parse] at h
  split_ifs at h with hempty
  cases hsegments : parseSegments pattern [] (Text.segments pattern) with
  | error error => simp [hsegments, Except.map] at h
  | ok segments =>
      simp only [hsegments, Except.map, Except.ok.injEq] at h
      simp [← h]

/-- **A parsed template is valid.** -/
theorem validSegments_of_parse {pattern : String} {template : Template}
    (h : parse pattern = .ok template) : ValidSegments template.segments :=
  validSegments_of_parseSegments .nil (parse_eq_ok h).2

theorem segments_ne_nil_of_parse {pattern : String} {template : Template}
    (h : parse pattern = .ok template) : template.segments ≠ [] := by
  intro hnil
  have hlength := length_of_parseSegments (parse_eq_ok h).2
  rw [hnil] at hlength
  have hparts := List.length_pos_iff.2 (Text.segments_ne_nil pattern)
  simp only [List.length_nil] at hlength
  omega

/-- **No name matches two templates of different shapes.** -/
theorem shape_eq_of_tokens? {template other : Template} (h : ValidSegments template.segments)
    (hne : template.segments ≠ []) (hother : ValidSegments other.segments)
    (hotherNe : other.segments ≠ []) {name : String} {tokens others : List String}
    (htokens : template.tokens? name = some tokens) (hothers : other.tokens? name = some others) :
    template.shape = other.shape := by
  obtain ⟨-, -, hfill⟩ := (tokens?_eq_some_iff hne).1 htokens
  obtain ⟨-, -, hotherFill⟩ := (tokens?_eq_some_iff hotherNe).1 hothers
  exact h.shape_eq_of_fill_eq hother (hfill.trans hotherFill.symm)

end Template

end ResourceNames
