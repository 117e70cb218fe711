set_option autoImplicit false

/-! # Segments

A resource name is a text cut into segments by `/`, and so is a template. Cutting and joining are
inverse to each other: joining the segments of a text gives the text back (`ofSegments_segments`),
and joining texts without `/` loses nothing (`segments_ofSegments`). -/

namespace ResourceNames.Text

/-- Stands between two segments. -/
def separator : Char := '/'

/-- The segment that leaves a variable unspecified. -/
def wildcard : String := "-"

/-- The segments of a text, left to right. Two separators in a row enclose an empty segment, and a
    text without a separator is its only segment, the empty text included. -/
def segments (text : String) : List String :=
  (text.toList.splitOn separator).map String.ofList

/-- The text with the given segments. -/
def ofSegments (parts : List String) : String :=
  (String.singleton separator).intercalate parts

@[simp] theorem ofSegments_segments (text : String) : ofSegments (segments text) = text := by
  apply String.toList_inj.1
  simp only [ofSegments, segments, String.toList_intercalate, String.toList_singleton,
    List.map_map]
  have hid : (String.toList ∘ String.ofList) = id := by funext l; simp
  rw [hid, List.map_id]
  exact List.intercalate_splitOn separator

theorem segments_ofSegments {parts : List String} (hne : parts ≠ [])
    (h : ∀ part ∈ parts, separator ∉ part.toList) : segments (ofSegments parts) = parts := by
  have hlists : ∀ l ∈ parts.map String.toList, separator ∉ l := by
    intro l hl
    obtain ⟨part, hpart, rfl⟩ := List.mem_map.1 hl
    exact h part hpart
  have hcut := List.splitOn_intercalate separator hlists (by simpa using hne)
  simp only [ofSegments, segments, String.toList_intercalate, String.toList_singleton, hcut,
    List.map_map]
  have hid : (String.ofList ∘ String.toList) = id := by funext s; simp
  rw [hid, List.map_id]

end ResourceNames.Text
