import ResourceNames.Proofs.Outcome
import ResourceNames.Proofs.Text.Segments
import ResourceNames.Template.Match
import ResourceNames.Template.Render

set_option autoImplicit false

/-! # Matching against rendering

Both sides of a name meet in `fill`: a name is rendered by filling the segments of a template with
values, and it matches with the tokens that fill the segments to give the name. What decides
whether two templates match the same names is their shape, the literals at their places. -/

namespace ResourceNames

/-- The text of a literal. -/
def Segment.literal? : Segment → Option String
  | .literal text => some text
  | .variable _ => none

namespace Template

/-- The literals at their places, with nothing at the places of variables. Two templates have the
    same shape if they have as many segments and the same literals at the same places. -/
def shape (template : Template) : List (Option String) :=
  template.segments.map Segment.literal?

/-! ## Filling segments -/

theorem length_fill (segments : List Segment) (values : List String) :
    (fill segments values).length = segments.length := by
  fun_induction fill segments values <;> simp_all

theorem fill_ne_nil {segments : List Segment} (h : segments ≠ []) (values : List String) :
    fill segments values ≠ [] := by
  intro hnil
  have hlength := length_fill segments values
  rw [hnil] at hlength
  exact h (List.length_eq_zero_iff.1 hlength.symm)

/-- Filling depends on the shape of a template, not on its keys. -/
theorem fill_congr {segments others : List Segment}
    (h : segments.map Segment.literal? = others.map Segment.literal?) (values : List String) :
    fill segments values = fill others values := by
  induction segments generalizing others values with
  | nil =>
      have hnil : others = [] := by simpa using h.symm
      rw [hnil]
  | cons segment rest ih =>
      cases others with
      | nil => simp at h
      | cons other others =>
          simp only [List.map_cons, List.cons.injEq] at h
          obtain ⟨hhead, htail⟩ := h
          cases segment <;> cases other <;> simp only [Segment.literal?, reduceCtorEq,
            Option.some.injEq] at hhead
          · simp only [fill, hhead, ih htail]
          · cases values <;> simp only [fill, ih htail]

/-- Where a segment is a literal, the filled segments repeat it. -/
theorem getElem?_fill_literal {segments : List Segment} {values : List String} {index : Nat}
    {text : String} (h : segments[index]? = some (.literal text)) :
    (fill segments values)[index]? = some text := by
  induction segments generalizing values index with
  | nil => simp at h
  | cons segment rest ih =>
      cases index with
      | zero =>
          have hsegment : segment = .literal text := by simpa using h
          rw [hsegment]
          rfl
      | succ index =>
          have hrest : rest[index]? = some (.literal text) := by simpa using h
          cases segment <;> cases values <;> simpa [fill] using ih hrest

/-- Nothing about the values is lost by filling segments with them. -/
theorem values_eq_of_fill_eq {segments : List Segment} {values others : List String}
    (hvalues : values.length = (segments.filterMap Segment.key?).length)
    (hothers : others.length = (segments.filterMap Segment.key?).length)
    (h : fill segments values = fill segments others) : values = others := by
  induction segments generalizing values others with
  | nil =>
      rw [List.length_eq_zero_iff.1 hvalues, List.length_eq_zero_iff.1 hothers]
  | cons segment rest ih =>
      rcases segment with text | key
      · exact ih hvalues hothers (List.cons.inj h).2
      · cases values with
        | nil => simp [Segment.key?] at hvalues
        | cons value values =>
            cases others with
            | nil => simp [Segment.key?] at hothers
            | cons other others =>
                obtain ⟨rfl, hrest⟩ := List.cons.inj h
                rw [ih (Nat.succ.inj hvalues) (Nat.succ.inj hothers) hrest]

/-- What can be told of the values can be told of the filled segments. -/
theorem map_fill_congr {β : Type} (tell : String → β) {segments : List Segment}
    {values others : List String} (h : values.map tell = others.map tell) :
    (fill segments values).map tell = (fill segments others).map tell := by
  induction segments generalizing values others with
  | nil => rfl
  | cons segment rest ih =>
      rcases segment with text | key
      · simp only [fill, List.map_cons, ih h]
      · cases values with
        | nil =>
            obtain rfl : others = [] := by simpa using h.symm
            rfl
        | cons value values =>
            cases others with
            | nil => simp at h
            | cons other others =>
                obtain ⟨hvalue, hvalues⟩ := List.cons.inj h
                simp only [fill, List.map_cons, hvalue, ih hvalues]

/-- Nothing about the values is lost by joining the filled segments either, if it is known how many
separators there are in each. -/
theorem values_eq_iff_of_ofSegments_eq {segments : List Segment} (hne : segments ≠ [])
    {values others : List String}
    (hvalues : values.length = (segments.filterMap Segment.key?).length)
    (hothers : others.length = (segments.filterMap Segment.key?).length)
    (h : Text.ofSegments (fill segments values) = Text.ofSegments (fill segments others)) :
    values = others ↔
      values.map (fun value => value.toList.count Text.separator) =
        others.map fun other => other.toList.count Text.separator := by
  constructor
  · intro hsame
    rw [hsame]
  · intro hcount
    apply values_eq_of_fill_eq hvalues hothers
    exact Text.eq_of_ofSegments_eq (fill_ne_nil hne _) (map_fill_congr _ hcount) h

/-- What is in the filled segments is a literal or one of the values, if these are enough. -/
theorem mem_fill {segments : List Segment} {values : List String} {part : String}
    (hcount : values.length = (segments.filterMap Segment.key?).length)
    (h : part ∈ fill segments values) : .literal part ∈ segments ∨ part ∈ values := by
  fun_induction fill segments values with
  | case1 => simp at h
  | case2 values text rest ih => grind [Segment.key?]
  | case3 rest key value values ih => grind [Segment.key?]
  | case4 rest key => simp [Segment.key?] at hcount

/-! ## Matching -/

/-- **The tokens of a match are what fills the segments to give the parts of the name.** -/
theorem matchSegments_eq_some_iff {segments : List Segment} {parts tokens : List String} :
    matchSegments segments parts = some tokens ↔
      tokens.length = (segments.filterMap Segment.key?).length ∧
        (∀ token ∈ tokens, isToken token = true) ∧ fill segments tokens = parts := by
  induction segments generalizing parts tokens with
  | nil =>
      cases parts with
      | nil => cases tokens <;> simp [matchSegments, fill]
      | cons part parts => simp [matchSegments, fill]
  | cons segment rest ih =>
      rcases segment with text | key
      · cases parts with
        | nil => simp [matchSegments, fill]
        | cons part parts =>
            by_cases hpart : part = text
            · simp [matchSegments, fill, List.filterMap_cons, Segment.key?, hpart, ih]
            · simp [matchSegments, fill, hpart, Ne.symm hpart]
      · cases parts with
        | nil => cases tokens <;> simp [matchSegments, fill]
        | cons part parts =>
            cases tokens with
            | nil => simp [matchSegments, Segment.key?]
            | cons token tokens =>
                by_cases hpart : isToken part = true
                · simp only [matchSegments, if_pos hpart, Option.map_eq_some_iff, List.cons.injEq,
                    ih, fill, List.filterMap_cons, Segment.key?, List.length_cons,
                    List.mem_cons]
                  grind
                · simp only [matchSegments, if_neg hpart, fill, List.cons.injEq, List.mem_cons]
                  grind

theorem length_filterMap_key? (segments : List Segment) :
    (segments.filterMap Segment.key?).length = (segments.map Segment.literal?).count none := by
  induction segments with
  | nil => rfl
  | cons segment rest ih =>
      cases segment <;> simp [List.filterMap_cons, Segment.key?, Segment.literal?, ih]

theorem variableCount_congr {template other : Template} (h : template.shape = other.shape) :
    template.variableCount = other.variableCount := by
  have hshape : template.segments.map Segment.literal? = other.segments.map Segment.literal? := h
  rw [variableCount, variableCount, keys, keys, length_filterMap_key?, length_filterMap_key?,
    hshape]

theorem tokens?_eq_some_iff {template : Template} (h : template.segments ≠ []) {name : String}
    {tokens : List String} :
    template.tokens? name = some tokens ↔
      tokens.length = template.variableCount ∧ (∀ token ∈ tokens, isToken token = true) ∧
        fill template.segments tokens = Text.segments name := by
  have hempty : template.isEmpty = false := by simpa [isEmpty] using h
  rw [tokens?, hempty]
  exact matchSegments_eq_some_iff

theorem length_of_tokens? {template : Template} {name : String} {tokens : List String}
    (h : template.tokens? name = some tokens) : tokens.length = template.keys.length := by
  by_cases hnil : template.segments = []
  · simp only [tokens?, isEmpty, hnil, List.isEmpty_nil, if_true] at h
    split at h
    · obtain rfl := Option.some.inj h
      simp [keys, hnil]
    · cases h
  · rw [tokens?_eq_some_iff hnil] at h
    exact h.1

/-- **Templates of the same shape have the same tokens in every name.** -/
theorem tokens?_congr {template other : Template} (h : template.shape = other.shape)
    (name : String) : template.tokens? name = other.tokens? name := by
  have hshape : template.segments.map Segment.literal? = other.segments.map Segment.literal? := h
  by_cases hnil : template.segments = []
  · have hother : other.segments = [] := by
      rw [hnil] at hshape
      simpa using hshape.symm
    simp [tokens?, isEmpty, hnil, hother]
  · have hother : other.segments ≠ [] := by
      intro hnil'
      rw [hnil'] at hshape
      exact hnil (by simpa using hshape)
    apply Option.ext
    intro tokens
    rw [tokens?_eq_some_iff hnil, tokens?_eq_some_iff hother, variableCount_congr h,
      fill_congr hshape]

/-! ## Rendering -/

/-- **A name is rendered by asking for the keys, left to right, and filling the segments with the
    answers.** -/
theorem renderBy_eq {m : Type → Type} [Monad m] [LawfulMonad m] (template : Template)
    (lookup : String → m String) :
    template.renderBy lookup =
      (fun values => Text.ofSegments (fill template.segments values)) <$>
        template.keys.mapM lookup := by
  have hsegments : ∀ segments : List Segment, segments.mapM (renderSegment lookup) =
      fill segments <$> (segments.filterMap Segment.key?).mapM lookup := by
    intro segments
    induction segments with
    | nil => simp [fill]
    | cons segment rest ih =>
        cases segment <;>
          simp [List.filterMap_cons, Segment.key?, renderSegment, List.mapM_cons, ih, fill]
  simp [renderBy, keys, hsegments, bind_pure_comp]

section Failure

variable {ε : Type}

/-- A lookup that may fail gives a name if it has a value for every key. -/
theorem renderBy_eq_ok_iff {template : Template} {lookup : String → Except ε String}
    {name : String} :
    template.renderBy lookup = .ok name ↔
      ∃ values : List String, template.keys.map lookup = values.map .ok ∧
        Text.ofSegments (fill template.segments values) = name := by
  rw [renderBy_eq]
  cases hvalues : template.keys.mapM lookup with
  | error error => simp [Functor.map, Except.map, ← mapM_eq_ok_iff, hvalues]
  | ok values => simp [Functor.map, Except.map, ← mapM_eq_ok_iff, hvalues]

/-- A lookup that fails does so at the leftmost key that it has no value for. -/
theorem renderBy_eq_error_iff {template : Template} {lookup : String → Except ε String}
    {error : ε} :
    template.renderBy lookup = .error error ↔
      ∃ before key after, template.keys = before ++ key :: after ∧
        (∀ earlier ∈ before, ∃ value, lookup earlier = .ok value) ∧ lookup key = .error error := by
  rw [renderBy_eq, ← mapM_eq_error_iff]
  cases hvalues : template.keys.mapM lookup <;> simp [Functor.map, Except.map]

end Failure

end Template

end ResourceNames
