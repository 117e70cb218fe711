import ResourceNames.Proofs.Template.Parent

set_option autoImplicit false

/-! # The parent in a name

Dropping the resource from a template leaves pairs of a literal and a variable, so that the number
of segments that are left is even. What is dropped is a literal, with a variable behind it if the
number of segments of the template is even as well. A name is cut at the same place: its first
segments are the name of the parent, and its first tokens are those of the parent. -/

namespace ResourceNames

namespace Template

variable {template : Template} {name : String} {tokens : List String}

/-! ## Where a template is cut -/

/-- How many segments there are without the last literal and what follows it. -/
def parentLength (template : Template) : Nat :=
  2 * ((template.length - 1) / 2)

/-- The text of the segments of a name that are left without its last literal and what follows. -/
def parentText (template : Template) (name : String) : String :=
  Text.firstSegments template.parentLength name

theorem dropResource_segments (template : Template) :
    template.dropResource.segments = template.segments.take template.parentLength := by
  have hkeep : (if (template.length - 1) % 2 = 1 then template.length - 1 - 1
      else template.length - 1) = template.parentLength := by
    rw [parentLength]
    split_ifs <;> omega
  rw [dropResource, hkeep, ofSegments]

theorem parent_eq_dropResource (h : 4 ≤ template.length) :
    template.parent = template.dropResource := by
  rw [parent, if_neg (by omega)]

theorem singletonParent?_eq_some_iff {parent : Template} :
    template.singletonParent? = some parent ↔
      3 ≤ template.length ∧ template.dropResource = parent := by
  rw [singletonParent?]
  split_ifs with hlength <;> simp [hlength]

theorem singletonParent?_eq_none_iff :
    template.singletonParent? = none ↔ template.length < 3 := by
  rw [singletonParent?]
  split_ifs with hlength <;> simp <;> omega

theorem Arises.dropResource (h : template.Arises) (hlength : 3 ≤ template.length) :
    template.dropResource.Arises :=
  h.singletonParent (singletonParent?_eq_some_iff.2 ⟨hlength, rfl⟩)

theorem length_dropResource (hne : template.segments ≠ []) :
    template.dropResource.length = template.parentLength := by
  have hpos : 0 < template.length := List.length_pos_iff.2 hne
  have hle : template.parentLength ≤ template.segments.length := by
    rw [parentLength, ← length]
    omega
  rw [length, dropResource_segments, List.length_take, Nat.min_eq_left hle]

theorem segments_ne_nil_of_length {count : Nat} (hlength : count ≤ template.length)
    (hpos : 0 < count) : template.segments ≠ [] :=
  List.length_pos_iff.1 (Nat.lt_of_lt_of_le hpos hlength)

theorem dropResource_segments_ne_nil (h : 3 ≤ template.length) :
    template.dropResource.segments ≠ [] := by
  have hlength := length_dropResource (segments_ne_nil_of_length h (by decide))
  apply segments_ne_nil_of_length (Nat.le_of_eq hlength.symm)
  rw [parentLength]
  omega

/-- What follows an even number of segments takes turns as the whole does. -/
theorem isVariable_drop_iff {segments : List Segment} (h : ValidSegments segments) {count : Nat}
    (heven : count % 2 = 0) {place : Nat} {segment : Segment}
    (hsegment : (segments.drop count)[place]? = some segment) :
    segment.isVariable = true ↔ place % 2 = 1 := by
  rw [List.getElem?_drop] at hsegment
  rw [h.alternates _ _ hsegment]
  omega

/-- What is dropped is a literal, or a literal and a variable. -/
theorem exists_resource (h : ValidSegments template.segments) (hne : template.segments ≠ []) :
    ∃ word, template.length % 2 = 1 ∧
        template.segments = template.dropResource.segments ++ [.literal word] ∨
      template.length % 2 = 0 ∧ ∃ key,
        template.segments = template.dropResource.segments ++ [.literal word, .variable key] := by
  have hpos : 0 < template.length := List.length_pos_iff.2 hne
  have hcut : template.parentLength = 2 * ((template.length - 1) / 2) := rfl
  have hlength : (template.segments.drop template.parentLength).length =
      template.length - template.parentLength := List.length_drop
  have hturn : ∀ place segment, (template.segments.drop template.parentLength)[place]? =
      some segment → (segment.isVariable = true ↔ place % 2 = 1) :=
    fun place segment => isVariable_drop_iff h (by omega)
  have hsplit := template.segments.take_append_drop template.parentLength
  rw [dropResource_segments]
  rcases hdrop : template.segments.drop template.parentLength with _ | ⟨first, rest⟩
  · rw [hdrop, List.length_nil] at hlength
    omega
  · rw [hdrop] at hlength hsplit hturn
    rcases first with word | key
    · refine ⟨word, ?_⟩
      rcases rest with _ | ⟨second, others⟩
      · rw [List.length_singleton] at hlength
        exact .inl ⟨by omega, hsplit.symm⟩
      · simp only [List.length_cons] at hlength
        obtain rfl : others = [] := List.length_eq_zero_iff.1 (by omega)
        have hsecond : second.isVariable = true := (hturn 1 second rfl).2 rfl
        rcases second with other | key
        · cases hsecond
        · exact .inr ⟨by omega, key, hsplit.symm⟩
    · exact absurd ((hturn 0 _ rfl).1 rfl) (by decide)

/-! ## Filling what is cut -/

/-- The first values fill the first segments. -/
theorem fill_append (segments others : List Segment) (values : List String) :
    fill (segments ++ others) values =
      fill segments (values.take (segments.filterMap Segment.key?).length) ++
        fill others (values.drop (segments.filterMap Segment.key?).length) := by
  induction segments generalizing values with
  | nil => simp [fill]
  | cons segment rest ih =>
      rcases segment with word | key
      · simp [fill, List.filterMap_cons, ih]
      · cases values <;> simp [fill, ih]

theorem matchSegments_append {segments others : List Segment} {parts : List String}
    (h : matchSegments (segments ++ others) parts = some tokens) :
    matchSegments segments (parts.take segments.length) =
      some (tokens.take (segments.filterMap Segment.key?).length) := by
  rw [matchSegments_eq_some_iff] at h ⊢
  obtain ⟨hcount, htokens, hfill⟩ := h
  rw [List.filterMap_append, List.length_append] at hcount
  refine ⟨?_, fun token htoken => htokens token (List.mem_of_mem_take htoken), ?_⟩
  · rw [List.length_take]
    omega
  · have hlength := length_fill segments
      (tokens.take (segments.filterMap Segment.key?).length)
    rw [← hfill, fill_append, ← hlength, List.take_left]

/-- **The name of the parent is in the name.** A name without its last literal and what follows
matches the template without these, and its tokens are the first ones of the name. -/
theorem tokens?_parentText (h : 3 ≤ template.length)
    (htokens : template.tokens? name = some tokens) :
    template.dropResource.tokens? (template.parentText name) =
      some (tokens.take template.dropResource.variableCount) := by
  have hne : template.segments ≠ [] := segments_ne_nil_of_length h (by decide)
  have hlength : template.dropResource.segments.length = template.parentLength :=
    length_dropResource hne
  have hparentNe := dropResource_segments_ne_nil h
  have hpos : 0 < template.parentLength := hlength ▸ List.length_pos_iff.2 hparentNe
  have hsplit : template.dropResource.segments ++ template.segments.drop template.parentLength =
      template.segments := by
    rw [dropResource_segments, List.take_append_drop]
  have hmatch : matchSegments template.segments (Text.segments name) = some tokens := by
    rw [tokens?, isEmpty, List.isEmpty_eq_false_iff.2 hne] at htokens
    exact htokens
  rw [← hsplit] at hmatch
  have hfirst := matchSegments_append hmatch
  rw [hlength] at hfirst
  rw [tokens?, isEmpty, List.isEmpty_eq_false_iff.2 hparentNe, parentText,
    Text.segments_firstSegments hpos]
  exact hfirst

end Template

end ResourceNames
