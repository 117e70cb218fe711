import ResourceNames.Proofs.Template.Validity
import ResourceNames.Template.Parent

set_option autoImplicit false

/-! # Parents follow the grammar

A parent is a number of segments from the start of a template, so that it follows the grammar as the
template does, and has no key that the template does not have. The parent of a template at root
level has no segments at all, and is the only one to describe the empty text. -/

namespace ResourceNames

theorem ValidSegments.take {segments : List Segment} (h : ValidSegments segments) (count : Nat) :
    ValidSegments (segments.take count) := by
  constructor
  · intro segment hsegment
    exact h.wellFormed segment (List.mem_of_mem_take hsegment)
  · intro index segment hsegment
    rw [List.getElem?_take] at hsegment
    split at hsegment
    · exact h.alternates index segment hsegment
    · cases hsegment
  · exact h.keys_nodup.sublist ((List.take_sublist count segments).filterMap Segment.key?)

/-- A literal stands at the start, and no literal is empty. -/
theorem ValidSegments.fill_ne_empty {segments : List Segment} (h : ValidSegments segments)
    (values : List String) : Template.fill segments values ≠ [""] := by
  intro hfill
  cases segments with
  | nil => simp [Template.fill] at hfill
  | cons first rest =>
      rcases first with text | key
      · have htext : text = "" := (List.cons.inj hfill).1
        have hliteral : isLiteral text = true := h.wellFormed _ List.mem_cons_self
        rw [htext] at hliteral
        exact absurd hliteral (by decide)
      · have hplace := (h.alternates 0 (.variable key) rfl).1 rfl
        exact absurd hplace (by decide)

namespace Template

variable {template : Template}

theorem eq_empty_of_tokens? (h : template.segments = []) {name : String} {tokens : List String}
    (htokens : template.tokens? name = some tokens) : name = "" := by
  simp only [tokens?, isEmpty, h, List.isEmpty_nil, if_true] at htokens
  split at htokens
  · assumption
  · cases htokens

/-- The empty text is described by the empty template alone. -/
theorem tokens?_empty (h : ValidSegments template.segments) (hne : template.segments ≠ []) :
    template.tokens? "" = none := by
  cases htokens : template.tokens? "" with
  | none => rfl
  | some tokens =>
      obtain ⟨-, -, hfill⟩ := (tokens?_eq_some_iff hne).1 htokens
      exact absurd hfill (h.fill_ne_empty tokens)

theorem ne_empty_of_tokens? (h : ValidSegments template.segments) (hne : template.segments ≠ [])
    {name : String} {tokens : List String} (htokens : template.tokens? name = some tokens) :
    name ≠ "" := by
  rintro rfl
  rw [tokens?_empty h hne] at htokens
  cases htokens

theorem parent_segments_eq_take (template : Template) :
    ∃ count, template.parent.segments = template.segments.take count := by
  by_cases hroot : template.length ≤ 3
  · exact ⟨0, by simp [parent, hroot, empty]⟩
  · exact ⟨_, by rw [parent, if_neg hroot]; rfl⟩

theorem validSegments_parent (h : ValidSegments template.segments) :
    ValidSegments template.parent.segments := by
  obtain ⟨count, hparent⟩ := template.parent_segments_eq_take
  rw [hparent]
  exact h.take count

/-- The first segments have the first keys. -/
theorem keys_prefix_of_take {other : Template} {count : Nat}
    (h : other.segments = template.segments.take count) : other.keys <+: template.keys := by
  rw [keys, keys, h]
  exact (List.take_prefix count template.segments).filterMap Segment.key?

theorem keys_parent_prefix (template : Template) : template.parent.keys <+: template.keys := by
  obtain ⟨count, hparent⟩ := template.parent_segments_eq_take
  exact keys_prefix_of_take hparent

theorem singletonParent?_segments_eq_take {parent : Template}
    (h : template.singletonParent? = some parent) :
    ∃ count, parent.segments = template.segments.take count := by
  rw [singletonParent?] at h
  split_ifs at h
  rw [← Option.some.inj h]
  exact ⟨_, rfl⟩

/-- The templates that there are: those that are read, and the parents of those that there are. -/
inductive Arises : Template → Prop
  | parsed {pattern : String} {template : Template} (h : parse pattern = .ok template) :
      Arises template
  | parent {template : Template} (h : Arises template) : Arises template.parent
  | singletonParent {template parent : Template} (h : Arises template)
      (hparent : template.singletonParent? = some parent) : Arises parent

theorem Arises.validSegments (h : template.Arises) : ValidSegments template.segments := by
  induction h with
  | parsed h => exact validSegments_of_parse h
  | parent _ ih => exact validSegments_parent ih
  | singletonParent _ hparent ih =>
      obtain ⟨count, hcount⟩ := singletonParent?_segments_eq_take hparent
      rw [hcount]
      exact ih.take count

end Template

end ResourceNames
