import ResourceNames.Proofs.Template.Ancestry
import ResourceNames.Proofs.Template.Grammar
import ResourceNames.Proofs.Template.Inverse
import ResourceNames.Template.Encoding

set_option autoImplicit false

/-! # Templates can be told from their texts

A parent is written out from its segments, and never read. Still it is the template that its text is
read as, since the segments of a template that was read can be told from their texts, and dropping
the resource leaves a template of the same kind. Only the parent of a template at root level has a
text that is not read at all. -/

namespace ResourceNames

/-! ## Segments that are written out -/

namespace Segment

/-- Well formed segments are written differently. -/
theorem eq_of_text_eq {segment other : Segment} (h : segment.IsValid) (hother : other.IsValid)
    (htext : segment.text = other.text) : segment = other := by
  have hread : parse "" 0 other.text = .ok segment := parse_eq_ok_iff.2 ⟨htext, h⟩
  rw [parse_eq_ok_iff.2 ⟨rfl, hother⟩] at hread
  exact (Except.ok.inj hread).symm

theorem eq_of_map_text_eq {segments others : List Segment}
    (h : ∀ segment ∈ segments, segment.IsValid) (hothers : ∀ segment ∈ others, segment.IsValid)
    (htexts : segments.map text = others.map text) : segments = others := by
  induction segments generalizing others with
  | nil => exact (List.map_eq_nil_iff.1 htexts.symm).symm
  | cons segment rest ih =>
      obtain ⟨other, otherRest, rfl, htext, hrest⟩ := List.map_eq_cons_iff.1 htexts.symm
      rw [List.forall_mem_cons] at h hothers
      rw [eq_of_text_eq h.1 hothers.1 htext.symm, ih h.2 hothers.2 hrest.symm]

end Segment

theorem IsKey.separator_not_mem {key : String} (h : IsKey key) :
    Text.separator ∉ key.toList := by
  obtain ⟨first, rest, hkey, hfirst, hrest⟩ := h
  rw [hkey, List.mem_cons, not_or]
  refine ⟨?_, fun hmem => absurd (hrest _ hmem) (by decide)⟩
  rintro rfl
  exact absurd hfirst (by decide)

namespace ValidSegments

variable {segments : List Segment}

theorem separator_not_mem_text (h : ValidSegments segments) :
    ∀ part ∈ segments.map Segment.text, Text.separator ∉ part.toList := by
  intro part hpart
  obtain ⟨segment, hsegment, rfl⟩ := List.mem_map.1 hpart
  rcases segment with word | key
  · exact h.separator_not_mem_literal hsegment
  · have hkey : IsKey key := Segment.isValid_variable_iff.1 (h.wellFormed _ hsegment)
    have hbraces : Text.separator ≠ '{' ∧ Text.separator ≠ '}' := by decide
    rw [Segment.toList_text_variable, List.mem_cons, List.mem_append, List.mem_singleton]
    rintro (hopen | hmem | hclose)
    · exact hbraces.1 hopen
    · exact hkey.separator_not_mem hmem
    · exact hbraces.2 hclose

/-- Cutting a text that was written out gives the texts of the segments. -/
theorem segments_ofSegments_text (h : ValidSegments segments) (hne : segments ≠ []) :
    Text.segments (Text.ofSegments (segments.map Segment.text)) = segments.map Segment.text :=
  Text.segments_ofSegments (by rwa [ne_eq, List.map_eq_nil_iff]) h.separator_not_mem_text

end ValidSegments

namespace Template

variable {template : Template}

/-! ## Templates that are what is written -/

/-- A template of valid segments whose text is written out from them. -/
structure IsCanonical (template : Template) : Prop where
  valid : ValidSegments template.segments
  text_eq : template.text = Text.ofSegments (template.segments.map Segment.text)

theorem isCanonical_empty : empty.IsCanonical :=
  ⟨.nil, rfl⟩

theorem isCanonical_ofSegments {segments : List Segment} (h : ValidSegments segments) :
    (ofSegments segments).IsCanonical :=
  ⟨h, rfl⟩

theorem isCanonical_of_parse {pattern : String} (h : parse pattern = .ok template) :
    template.IsCanonical where
  valid := validSegments_of_parse h
  text_eq := by rw [map_text_of_parse h, Text.ofSegments_segments, (parse_eq_ok h).1]

namespace IsCanonical

theorem eq_ofSegments (h : template.IsCanonical) : template = ofSegments template.segments := by
  rw [ofSegments, ← h.text_eq]

theorem dropResource (h : template.IsCanonical) : template.dropResource.IsCanonical :=
  isCanonical_ofSegments (h.valid.take _)

theorem parent (h : template.IsCanonical) : template.parent.IsCanonical := by
  rw [Template.parent]
  split_ifs
  · exact isCanonical_empty
  · exact h.dropResource

theorem singletonParent? {parent : Template} (h : template.IsCanonical)
    (hparent : template.singletonParent? = some parent) : parent.IsCanonical := by
  obtain ⟨-, rfl⟩ := singletonParent?_eq_some_iff.1 hparent
  exact h.dropResource

/-- Reading what was written out gives the segments back. -/
theorem parse_text (h : template.IsCanonical) (hne : template.segments ≠ []) :
    parse template.text = .ok template := by
  have hcut : Text.segments template.text = template.segments.map Segment.text := by
    rw [h.text_eq]
    exact h.valid.segments_ofSegments_text hne
  -- The text follows the grammar, and what it is read as is written in the same way.
  obtain ⟨found, hfound⟩ := exists_parse_iff.2 (hcut ▸ h.valid.followsGrammar)
  have hsame : found.segments = template.segments :=
    Segment.eq_of_map_text_eq (validSegments_of_parse hfound).wellFormed h.valid.wellFormed
      ((map_text_of_parse hfound).trans hcut)
  rw [hfound, (isCanonical_of_parse hfound).eq_ofSegments, hsame, ← h.eq_ofSegments]

theorem eq_empty (h : template.IsCanonical) (hnil : template.segments = []) :
    template = empty := by
  rw [h.eq_ofSegments, hnil]
  rfl

end IsCanonical

/-- Whatever parents are taken, one after the other, the template is what is written. -/
theorem Arises.isCanonical (h : template.Arises) : template.IsCanonical := by
  induction h with
  | parsed h => exact isCanonical_of_parse h
  | parent _ ih => exact ih.parent
  | singletonParent _ hparent ih => exact ih.singletonParent? hparent

/-! ## Which segments a parent has -/

theorem isEmpty_eq_false_iff : template.isEmpty = false ↔ template.segments ≠ [] :=
  List.isEmpty_eq_false_iff

theorem isEmpty_parent_iff : template.parent.isEmpty = true ↔ template.length ≤ 3 := by
  rw [parent]
  split_ifs with hroot
  · exact iff_of_true rfl hroot
  · refine iff_of_false ?_ hroot
    rw [Bool.not_eq_true, isEmpty_eq_false_iff]
    exact dropResource_segments_ne_nil (by omega)

/-- A parent that is not at root level is the template without its resource. -/
theorem eq_dropResource_of_parent {parent : Template}
    (hparent : template.parent.isEmpty = false ∧ template.parent = parent ∨
      template.singletonParent? = some parent) :
    3 ≤ template.length ∧ template.dropResource = parent := by
  rcases hparent with ⟨hroot, rfl⟩ | hparent
  · have hlength : ¬ template.length ≤ 3 := by
      rw [← isEmpty_parent_iff, hroot]
      exact Bool.false_ne_true
    exact ⟨by omega, (parent_eq_dropResource (by omega)).symm⟩
  · exact singletonParent?_eq_some_iff.1 hparent

theorem length_dropResource_lt (hne : template.segments ≠ []) :
    template.dropResource.length < template.length := by
  have hpos : 0 < template.length := List.length_pos_iff.2 hne
  rw [length_dropResource hne, parentLength]
  omega

/-- An even number of segments is left, and so the last of them is a variable. -/
theorem IsCanonical.getLast?_dropResource (h : template.IsCanonical)
    (hlength : 3 ≤ template.length) :
    ∃ key, template.dropResource.segments.getLast? = some (.variable key) := by
  have heven : template.dropResource.segments.length % 2 = 0 := by
    rw [← length, length_dropResource (segments_ne_nil_of_length hlength (by decide)), parentLength,
      Nat.mul_mod_right]
  cases hlast : template.dropResource.segments.getLast? with
  | none => exact absurd (List.getLast?_eq_none_iff.1 hlast) (dropResource_segments_ne_nil hlength)
  | some last =>
      obtain ⟨-, hturn⟩ := h.dropResource.valid.isVariable_of_getLast? hlast
      rcases last with word | key
      · rw [Segment.isVariable_literal, decide_eq_true heven] at hturn
        cases hturn
      · exact ⟨key, rfl⟩

/-- **Parents are templates.** Whatever parents are taken of a template that was read, literals and
variables take turns, no key occurs twice, and the text is the one of the segments, from which the
template can be read again, from a text and from a datum alike. Only the empty template can not. A
parent that is not at root level is the template without its resource: an even number of its first
segments, not all of them, with a variable as the last. -/
theorem canonical_of_arises (h : template.Arises) (α : Type) :
    (∀ place segment, template.segments[place]? = some segment →
      (segment.isVariable = true ↔ place % 2 = 1)) ∧
    template.keys.Nodup ∧
    template.text = Text.ofSegments (template.segments.map Segment.text) ∧
    (template.isEmpty = false →
      parse template.text = .ok template ∧
        decode (template.encode : Datum α) = .ok template) ∧
    (template.isEmpty = true →
      template = empty ∧ (template.encode : Datum α) = .string "" ∧
        decode (template.encode : Datum α) = .error (.template .empty)) ∧
    (template.parent.isEmpty = true ↔ template.length ≤ 3) ∧
    (template.singletonParent? = none ↔ template.length ≤ 2) ∧
    ∀ parent, template.parent.isEmpty = false ∧ template.parent = parent ∨
        template.singletonParent? = some parent →
      parent = ofSegments (template.segments.take (2 * ((template.length - 1) / 2))) ∧
        parent.length = 2 * ((template.length - 1) / 2) ∧
        0 < parent.length ∧ parent.length < template.length ∧
        (∃ key, parent.segments.getLast? = some (.variable key)) ∧
        parent.keys <+: template.keys := by
  have hcanonical := h.isCanonical
  refine ⟨hcanonical.valid.alternates, hcanonical.valid.keys_nodup,
    hcanonical.text_eq, ?_, ?_, isEmpty_parent_iff, ?_, ?_⟩
  · intro hempty
    have hparse := hcanonical.parse_text (isEmpty_eq_false_iff.1 hempty)
    refine ⟨hparse, ?_⟩
    rw [encode, decode, hparse]
    rfl
  · intro hempty
    obtain rfl := hcanonical.eq_empty (List.isEmpty_iff.1 hempty)
    exact ⟨rfl, rfl, rfl⟩
  · rw [singletonParent?_eq_none_iff]
    omega
  · intro parent hparent
    obtain ⟨hlength, rfl⟩ := eq_dropResource_of_parent hparent
    have hne := segments_ne_nil_of_length hlength (by decide)
    have hwritten := hcanonical.dropResource.eq_ofSegments
    rw [dropResource_segments] at hwritten
    exact ⟨hwritten, length_dropResource hne,
      List.length_pos_iff.2 (dropResource_segments_ne_nil hlength), length_dropResource_lt hne,
      hcanonical.getLast?_dropResource hlength, keys_prefix_of_take template.dropResource_segments⟩

/-- The shelf of the book of a page is read from its datum, and is at root level. -/
theorem canonical_of_arises_shelf :
    decode (Library.pageTemplate.parent.parent.encode : Datum Bool) =
        .ok Library.pageTemplate.parent.parent ∧
      Library.pageTemplate.parent.parent.parent.isEmpty = true ∧
      decode (Library.pageTemplate.parent.parent.parent.encode : Datum Bool) =
        .error (.template .empty) := by
  have hshelf : Library.pageTemplate.parent.parent.Arises :=
    .parent (.parent Library.arises_pageTemplate)
  obtain ⟨-, -, -, hread, -, hroot, -, -⟩ := canonical_of_arises hshelf Bool
  obtain ⟨-, -, -, -, hempty, -, -, -⟩ := canonical_of_arises (.parent hshelf) Bool
  have hisRoot := hroot.2 (by decide)
  exact ⟨(hread rfl).2, hisRoot, (hempty hisRoot).2.2⟩

end Template

end ResourceNames
