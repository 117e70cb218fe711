import ResourceNames.Text.Segments

set_option autoImplicit false

/-! # Segments of joined texts

Cutting undoes joining only where no part holds a separator. Without that condition the segments of
a joined text are the segments of its parts, one part after the other; a part with `n` separators
takes up `n + 1` of them. The first segments of a text, joined, are a text with just these. -/

namespace ResourceNames.Text

theorem segments_ne_nil (text : String) : segments text ≠ [] := by
  simp [segments, List.splitOn_ne_nil]

theorem segments_injective {text other : String} (h : segments text = segments other) :
    text = other := by
  rw [← ofSegments_segments text, h, ofSegments_segments]

/-- A text has one segment more than it has separators. -/
theorem length_segments (text : String) :
    (segments text).length = text.toList.count separator + 1 := by
  simp only [segments, List.length_map]
  induction text.toList with
  | nil => simp
  | cons c rest ih =>
      rw [List.splitOn_cons_eq_if_modifyHead]
      by_cases h : c = separator
      · simp [h, ih]
      · simp [h, ih]

private theorem splitOn_intercalate_flatMap (c : Char) (lists : List (List Char))
    (h : lists ≠ []) : ([c].intercalate lists).splitOn c = lists.flatMap (List.splitOn c) := by
  induction lists with
  | nil => exact absurd rfl h
  | cons first rest ih =>
      cases rest with
      | nil => simp [List.intercalate]
      | cons second others =>
          have hjoin : [c].intercalate (first :: second :: others) =
              first ++ c :: [c].intercalate (second :: others) := by
            simp [List.intercalate, List.intersperse]
          rw [hjoin, List.splitOn_append_cons_self, ih (by simp)]
          rfl

/-- The segments of a joined text are those of its parts. -/
theorem segments_ofSegments_flatMap {parts : List String} (h : parts ≠ []) :
    segments (ofSegments parts) = parts.flatMap segments := by
  have hjoin : (ofSegments parts).toList = [separator].intercalate (parts.map String.toList) := by
    simp [ofSegments, String.toList_intercalate]
  rw [segments, hjoin, splitOn_intercalate_flatMap _ _ (by simpa using h), List.map_flatMap,
    List.flatMap_map]
  rfl

theorem length_le_length_flatMap_segments (parts : List String) :
    parts.length ≤ (parts.flatMap segments).length := by
  induction parts with
  | nil => simp
  | cons first rest ih =>
      have hfirst := length_segments first
      simp only [List.flatMap_cons, List.length_append, List.length_cons]
      omega

/-- As soon as a part has a separator, joined parts have more segments than there are parts. -/
theorem separator_not_mem_of_length_segments {parts : List String} (h : parts ≠ [])
    (hlength : (segments (ofSegments parts)).length = parts.length) :
    ∀ part ∈ parts, separator ∉ part.toList := by
  rw [segments_ofSegments_flatMap h] at hlength
  clear h
  induction parts with
  | nil => simp
  | cons first rest ih =>
      have hfirst := length_segments first
      have hrest := length_le_length_flatMap_segments rest
      simp only [List.flatMap_cons, List.length_append, List.length_cons] at hlength
      have hcount : first.toList.count separator = 0 := by omega
      rw [List.forall_mem_cons]
      exact ⟨List.count_eq_zero.1 hcount, ih (by omega)⟩

theorem separator_not_mem_of_mem_segments {text part : String} (h : part ∈ segments text) :
    separator ∉ part.toList :=
  separator_not_mem_of_length_segments (segments_ne_nil text) (by rw [ofSegments_segments]) part h

/-- Texts that are joined to the same text are the same if each has as many separators as its
counterpart. -/
theorem eq_of_ofSegments_eq {parts others : List String} (hne : parts ≠ [])
    (hcount : parts.map (fun part => part.toList.count separator) =
      others.map (fun other => other.toList.count separator))
    (h : ofSegments parts = ofSegments others) : parts = others := by
  have hothers : others ≠ [] := by
    rintro rfl
    exact hne (by simpa using hcount)
  have hflat : (parts.map segments).flatten = (others.map segments).flatten := by
    rw [← List.flatMap_def, ← List.flatMap_def, ← segments_ofSegments_flatMap hne,
      ← segments_ofSegments_flatMap hothers, h]
  have hlengths : (parts.map segments).map List.length = (others.map segments).map List.length := by
    have hsucc := congrArg (List.map (· + 1)) hcount
    simpa only [List.map_map, Function.comp_def, length_segments] using hsucc
  have hsegments : parts.map segments = others.map segments :=
    List.eq_iff_flatten_eq.2 ⟨hflat, hlengths⟩
  -- The cuts fall at the same places, so that part by part the segments are the same.
  exact (List.map_inj_right fun _ _ => segments_injective).1 hsegments

theorem ofSegments_append {parts others : List String} (hparts : parts ≠ [])
    (hothers : others ≠ []) :
    ofSegments (parts ++ others) = ofSegments parts ++ "/" ++ ofSegments others :=
  String.intercalate_append_of_ne_nil hparts hothers

/-! ## The first segments -/

/-- The text of the first segments of a text. -/
def firstSegments (count : Nat) (text : String) : String :=
  ofSegments ((segments text).take count)

theorem segments_firstSegments {count : Nat} (h : 0 < count) (text : String) :
    segments (firstSegments count text) = (segments text).take count := by
  have hne : (segments text).take count ≠ [] := by
    rw [Ne, List.take_eq_nil_iff, not_or]
    exact ⟨Nat.ne_of_gt h, segments_ne_nil text⟩
  exact segments_ofSegments hne fun part hpart =>
    separator_not_mem_of_mem_segments (List.mem_of_mem_take hpart)

end ResourceNames.Text
