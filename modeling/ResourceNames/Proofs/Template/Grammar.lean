import Mathlib.Tactic.ByContra
import ResourceNames.Proofs.Template.Segment

set_option autoImplicit false

/-! # The grammar of templates, by itself

What a template is can be said without reading it: which texts may stand at which places, and that
no key stands at two of them. Likewise each fault of a segment can be said of its text, its place
and the texts before it. Reading a text gives a template if and only if it follows the grammar, and
otherwise the fault of the leftmost segment that has one. -/

namespace ResourceNames

/-! ## One segment after others -/

/-- What is wrong with the segment at a place, counted from 0. The first fault is one of its own,
    the others are of its place among the segments before it. -/
inductive Offence (pattern : String) (parts : List String) (place : Nat) : TemplateError → Prop
  | malformed {part : String} {error : TemplateError} (hpart : parts[place]? = some part)
      (h : Segment.Malformed pattern (place + 1) part error) : Offence pattern parts place error
  | leadingVariable {key : String} (hpart : parts[place]? = some (Segment.variable key).text)
      (hkey : IsKey key) (hfirst : place = 0) :
      Offence pattern parts place (.leadingVariable pattern)
  | misplacedVariable {key : String} (hpart : parts[place]? = some (Segment.variable key).text)
      (hkey : IsKey key) (hfirst : place ≠ 0) (hturn : place % 2 = 0) :
      Offence pattern parts place (.notAlternating pattern (place + 1))
  | misplacedLiteral {word : String} (hpart : parts[place]? = some word) (hword : IsWord word)
      (hturn : place % 2 = 1) : Offence pattern parts place (.notAlternating pattern (place + 1))
  | repeated {key : String} {earlier : Nat}
      (hpart : parts[place]? = some (Segment.variable key).text) (hkey : IsKey key)
      (hturn : place % 2 = 1) (hearlier : earlier < place)
      (hsame : parts[earlier]? = some (Segment.variable key).text) :
      Offence pattern parts place (.duplicateVariable pattern key)

theorem Offence.exists_part {pattern : String} {parts : List String} {place : Nat}
    {error : TemplateError} (h : Offence pattern parts place error) :
    ∃ part, parts[place]? = some part := by
  rcases h with ⟨hpart, -⟩ | ⟨hpart, -, -⟩ | ⟨hpart, -, -, -⟩ | ⟨hpart, -, -⟩ | ⟨hpart, -, -, -, -⟩
  all_goals exact ⟨_, hpart⟩

/-- Only a variable is written as a variable. -/
theorem ValidSegments.getElem?_of_text {segments : List Segment} (h : ValidSegments segments)
    {place : Nat} {key : String}
    (hplace : (segments.map Segment.text)[place]? = some (Segment.variable key).text) :
    segments[place]? = some (.variable key) := by
  rw [List.getElem?_map, Option.map_eq_some_iff] at hplace
  obtain ⟨segment, hsegment, htext⟩ := hplace
  have hvalid := h.wellFormed segment (List.mem_of_getElem? hsegment)
  rw [hsegment, Segment.eq_variable_of_text_eq hvalid htext]

namespace Template

variable {pattern text : String} {before : List Segment} {segment : Segment}
  {error : TemplateError}

/-- Reads one more segment after those before it. -/
def readNext (pattern : String) (before : List Segment) (text : String) :
    Except TemplateError Segment := do
  let segment ← Segment.parse pattern (before.length + 1) text
  checkNext pattern before segment
  return segment

theorem parseSegments_cons_eq (pattern text : String) (before : List Segment) (rest : List String) :
    parseSegments pattern before (text :: rest) =
      (readNext pattern before text).bind fun segment =>
        parseSegments pattern (before ++ [segment]) rest := by
  rw [parseSegments, readNext]
  cases Segment.parse pattern (before.length + 1) text with
  | error error => rfl
  | ok segment =>
      cases hnext : checkNext pattern before segment <;>
        simp [hnext, bind, Except.bind, pure, Except.pure]

theorem readNext_eq_ok (h : ValidSegments before)
    (hread : readNext pattern before text = .ok segment) :
    segment.text = text ∧ ValidSegments (before ++ [segment]) := by
  rw [readNext] at hread
  obtain ⟨found, hsegment, hread⟩ := bind_eq_ok_iff.1 hread
  obtain ⟨⟨⟩, hnext, hread⟩ := bind_eq_ok_iff.1 hread
  obtain rfl := Except.ok.inj hread
  obtain ⟨htext, hvalid⟩ := Segment.parse_eq_ok_iff.1 hsegment
  exact ⟨htext, h.concat hvalid hnext⟩

section Fault

variable {parts rest : List String}

theorem offence_of_checkNext (h : ValidSegments before) (hsegment : segment.IsValid)
    (hparts : parts = before.map Segment.text ++ segment.text :: rest)
    (herror : checkNext pattern before segment = .error error) :
    Offence pattern parts before.length error := by
  have hplace : parts[before.length]? = some segment.text := by simp [hparts]
  rcases segment with word | key
  · rw [h.checkNext_literal] at herror
    split_ifs at herror with hturn
    rw [← Except.error.inj herror]
    exact .misplacedLiteral hplace (Segment.isValid_literal_iff.1 hsegment) (by omega)
  · have hkey : IsKey key := Segment.isValid_variable_iff.1 hsegment
    rw [h.checkNext_variable] at herror
    split_ifs at herror with hturn hnil hmem
    · rw [← Except.error.inj herror]
      exact .leadingVariable hplace hkey (by rw [hnil, List.length_nil])
    · rw [← Except.error.inj herror]
      exact .misplacedVariable hplace hkey (mt List.length_eq_zero_iff.1 hnil) hturn
    · rw [← Except.error.inj herror]
      obtain ⟨place, hfound⟩ := List.mem_iff_getElem?.1 hmem
      obtain ⟨hlt, -⟩ := List.getElem?_eq_some_iff.1 hfound
      refine .repeated hplace hkey (by omega) hlt ?_
      rw [hparts, List.getElem?_append_left (by rwa [List.length_map]), List.getElem?_map, hfound]
      rfl

theorem readNext_of_checkNext (hsegment : segment.IsValid)
    (hnext : checkNext pattern before segment = .error error) :
    readNext pattern before segment.text = .error error := by
  rw [readNext, Segment.parse_eq_ok_iff.2 ⟨rfl, hsegment⟩]
  simp [hnext, bind, Except.bind]

/-- Reading the next segment fails with the fault of the segment at that place. -/
theorem readNext_eq_error_iff (h : ValidSegments before)
    (hparts : parts = before.map Segment.text ++ text :: rest) :
    readNext pattern before text = .error error ↔ Offence pattern parts before.length error := by
  have hplace : parts[before.length]? = some text := by simp [hparts]
  constructor
  · intro hread
    rw [readNext] at hread
    cases hsegment : Segment.parse pattern (before.length + 1) text with
    | error other =>
        obtain rfl : other = error := by simpa [hsegment, bind, Except.bind] using hread
        exact .malformed hplace (Segment.parse_eq_error_iff.1 hsegment)
    | ok segment =>
        obtain ⟨rfl, hvalid⟩ := Segment.parse_eq_ok_iff.1 hsegment
        apply offence_of_checkNext h hvalid hparts
        cases hnext : checkNext pattern before segment with
        | error other => simpa [hsegment, hnext, bind, Except.bind] using hread
        | ok _ => simp [hsegment, hnext, bind, Except.bind, pure, Except.pure] at hread
  · intro hoffence
    rcases hoffence with ⟨hpart, hmalformed⟩ | ⟨hpart, hkey, hfirst⟩ | ⟨hpart, hkey, hfirst, hturn⟩ |
      ⟨hpart, hword, hturn⟩ | ⟨hpart, hkey, hturn, hearlier, hsame⟩
    all_goals obtain rfl := Option.some.inj (hplace.symm.trans hpart)
    · rw [readNext, Segment.parse_eq_error_iff.2 hmalformed]
      rfl
    · apply readNext_of_checkNext (Segment.isValid_variable_iff.2 hkey)
      rw [h.checkNext_variable, if_pos (by omega), if_pos (List.length_eq_zero_iff.1 hfirst)]
    · apply readNext_of_checkNext (Segment.isValid_variable_iff.2 hkey)
      rw [h.checkNext_variable, if_pos hturn, if_neg (mt List.length_eq_zero_iff.2 hfirst)]
    · have hvalid := Segment.isValid_literal_iff.2 hword
      refine readNext_of_checkNext hvalid ?_
      rw [h.checkNext_literal, if_neg (by omega)]
    · have hvalid := Segment.isValid_variable_iff.2 hkey
      rw [hparts, List.getElem?_append_left (by rwa [List.length_map])] at hsame
      apply readNext_of_checkNext hvalid
      have hmem := List.mem_of_getElem? (h.getElem?_of_text hsame)
      rw [h.checkNext_variable, if_neg (by omega), if_pos hmem]

/-! ## All segments -/

theorem readNext_eq_ok_or_offence (h : ValidSegments before)
    (hparts : parts = before.map Segment.text ++ text :: rest) :
    (∃ segment, readNext pattern before text = .ok segment ∧
        ∀ error, ¬ Offence pattern parts before.length error) ∨
      ∃ error, readNext pattern before text = .error error ∧
        Offence pattern parts before.length error := by
  cases hread : readNext pattern before text with
  | ok segment =>
      refine .inl ⟨segment, rfl, fun error hoffence => ?_⟩
      rw [(readNext_eq_error_iff h hparts).2 hoffence] at hread
      cases hread
  | error error => exact .inr ⟨error, rfl, (readNext_eq_error_iff h hparts).1 hread⟩

/-- The segments after those before are read up to the leftmost one with a fault. -/
theorem parseSegments_eq_error_iff (h : ValidSegments before)
    (hparts : parts = before.map Segment.text ++ rest) :
    parseSegments pattern before rest = .error error ↔
      ∃ place, before.length ≤ place ∧ Offence pattern parts place error ∧
        ∀ earlier, before.length ≤ earlier → earlier < place →
          ∀ other, ¬ Offence pattern parts earlier other := by
  induction rest generalizing before with
  | nil =>
      constructor
      · intro herror
        cases herror
      · rintro ⟨place, hplace, hoffence, -⟩
        obtain ⟨part, hpart⟩ := hoffence.exists_part
        obtain ⟨hlt, -⟩ := List.getElem?_eq_some_iff.1 hpart
        rw [hparts, List.append_nil, List.length_map] at hlt
        omega
  | cons text rest ih =>
      rw [parseSegments_cons_eq]
      rcases readNext_eq_ok_or_offence h hparts with
        ⟨segment, hread, hnone⟩ | ⟨found, hread, hfound⟩
      · obtain ⟨htext, hvalid⟩ := readNext_eq_ok h hread
        have hparts' : parts = (before ++ [segment]).map Segment.text ++ rest := by
          rw [hparts, List.map_append, List.append_assoc, ← htext]
          rfl
        rw [hread, Except.bind, ih hvalid hparts', List.length_append, List.length_singleton]
        -- The segment that was read has no fault, so that the search may start behind it.
        constructor
        · rintro ⟨place, hplace, hoffence, hearlier⟩
          refine ⟨place, by omega, hoffence, ?_⟩
          intro earlier hle hlt
          by_cases hsame : earlier = before.length
          · rw [hsame]
            exact hnone
          · exact hearlier earlier (by omega) hlt
        · rintro ⟨place, hplace, hoffence, hearlier⟩
          have hne : place ≠ before.length := by
            rintro rfl
            exact hnone error hoffence
          exact ⟨place, by omega, hoffence, fun earlier hle => hearlier earlier (by omega)⟩
      · rw [hread, Except.bind]
        constructor
        · intro herror
          rw [← Except.error.inj herror]
          exact ⟨before.length, Nat.le_refl _, hfound, fun earlier hle hlt => absurd hlt (by omega)⟩
        · rintro ⟨place, hplace, hoffence, hearlier⟩
          have hsame : place = before.length := by
            by_contra hne
            exact hearlier before.length (Nat.le_refl _) (by omega) found hfound
          rw [hsame, ← readNext_eq_error_iff h hparts, hread] at hoffence
          rw [Except.error.inj hoffence]

theorem map_text_of_parseSegments {segments : List Segment} (h : ValidSegments before)
    (hread : parseSegments pattern before rest = .ok segments) :
    segments.map Segment.text = before.map Segment.text ++ rest := by
  induction rest generalizing before with
  | nil =>
      rw [← Except.ok.inj hread, List.append_nil]
  | cons text rest ih =>
      obtain ⟨segment, hsegment, hnext, hrest⟩ := parseSegments_cons hread
      obtain ⟨rfl, hvalid⟩ := Segment.parse_eq_ok_iff.1 hsegment
      rw [ih (h.concat hvalid hnext) hrest, List.map_append, List.append_assoc]
      rfl

end Fault

end Template

/-- The texts of the segments of a template. Places are counted from 0. -/
structure FollowsGrammar (parts : List String) : Prop where
  words : ∀ (place : Nat) (part : String), parts[place]? = some part → place % 2 = 0 → IsWord part
  keys : ∀ (place : Nat) (part : String), parts[place]? = some part → place % 2 = 1 →
    ∃ key, IsKey key ∧ part = (Segment.variable key).text
  distinct : ∀ (place other : Nat) (key : String), parts[place]? = some (Segment.variable key).text →
    parts[other]? = some (Segment.variable key).text → place = other

namespace FollowsGrammar

variable {parts : List String}

theorem not_offence (h : FollowsGrammar parts) (pattern : String) (place : Nat)
    (error : TemplateError) : ¬ Offence pattern parts place error := by
  rintro (⟨hpart, hmalformed⟩ | ⟨hpart, hkey, hfirst⟩ | ⟨hpart, hkey, hfirst, hturn⟩ |
    ⟨hpart, hword, hturn⟩ | ⟨hpart, hkey, hturn, hearlier, hsame⟩)
  · rcases Nat.mod_two_eq_zero_or_one place with hturn | hturn
    · have hword := h.words _ _ hpart hturn
      exact Segment.not_malformed_of_isValid (Segment.isValid_literal_iff.2 hword) _ hmalformed
    · obtain ⟨key, hkey, rfl⟩ := h.keys _ _ hpart hturn
      exact Segment.not_malformed_of_isValid (Segment.isValid_variable_iff.2 hkey) _ hmalformed
  · exact (h.words _ _ hpart (by omega)).ne_text_variable _ rfl
  · exact (h.words _ _ hpart hturn).ne_text_variable _ rfl
  · obtain ⟨key, -, rfl⟩ := h.keys _ _ hpart hturn
    exact hword.ne_text_variable key rfl
  · exact absurd (h.distinct _ _ _ hsame hpart) (by omega)

end FollowsGrammar

namespace ValidSegments

variable {segments : List Segment}

theorem place_eq_of_variable (h : ValidSegments segments) {place other : Nat} {key : String}
    (hplace : segments[place]? = some (.variable key))
    (hother : segments[other]? = some (.variable key)) : place = other := by
  obtain ⟨hlt, hfound⟩ := List.getElem?_eq_some_iff.1 hplace
  obtain ⟨hltOther, hfoundOther⟩ := List.getElem?_eq_some_iff.1 hother
  have hdistinct := List.pairwise_iff_getElem.1 (List.pairwise_filterMap.1 h.keys_nodup)
  rcases Nat.lt_trichotomy place other with hless | hsame | hgreater
  · exact absurd rfl (hdistinct _ _ hlt hltOther hless key (by rw [hfound]; rfl) key
      (by rw [hfoundOther]; rfl))
  · exact hsame
  · exact absurd rfl (hdistinct _ _ hltOther hlt hgreater key (by rw [hfoundOther]; rfl) key
      (by rw [hfound]; rfl))

theorem followsGrammar (h : ValidSegments segments) :
    FollowsGrammar (segments.map Segment.text) := by
  have hplace : ∀ {place : Nat} {part : String}, (segments.map Segment.text)[place]? = some part →
      ∃ segment, segments[place]? = some segment ∧ segment.IsValid ∧ segment.text = part := by
    intro place part hpart
    rw [List.getElem?_map, Option.map_eq_some_iff] at hpart
    obtain ⟨segment, hsegment, htext⟩ := hpart
    exact ⟨segment, hsegment, h.wellFormed segment (List.mem_of_getElem? hsegment), htext⟩
  constructor
  · intro place part hpart hturn
    obtain ⟨segment, hsegment, hvalid, rfl⟩ := hplace hpart
    have halternates := h.alternates place segment hsegment
    rcases segment with word | key
    · exact Segment.isValid_literal_iff.1 hvalid
    · exact absurd (halternates.1 rfl) (by omega)
  · intro place part hpart hturn
    obtain ⟨segment, hsegment, hvalid, rfl⟩ := hplace hpart
    have halternates := h.alternates place segment hsegment
    rcases segment with word | key
    · exact absurd (halternates.2 hturn) (by simp)
    · exact ⟨key, Segment.isValid_variable_iff.1 hvalid, rfl⟩
  · intro place other key hpart hotherPart
    exact h.place_eq_of_variable (h.getElem?_of_text hpart) (h.getElem?_of_text hotherPart)

end ValidSegments

/-! ## Whole templates -/

namespace Template

variable {pattern : String} {template : Template}

theorem map_text_of_parse (h : parse pattern = .ok template) :
    template.segments.map Segment.text = Text.segments pattern :=
  map_text_of_parseSegments .nil (parse_eq_ok h).2

theorem parse_eq_error_iff {error : TemplateError} :
    parse pattern = .error error ↔
      pattern = "" ∧ error = .empty ∨
      pattern ≠ "" ∧ ∃ place, Offence pattern (Text.segments pattern) place error ∧
        ∀ earlier < place, ∀ other, ¬ Offence pattern (Text.segments pattern) earlier other := by
  by_cases hempty : pattern = ""
  · simp [parse, hempty, eq_comm]
  · have hrun : parseSegments pattern [] (Text.segments pattern) = .error error ↔ _ :=
      parseSegments_eq_error_iff .nil rfl
    have hparse : parse pattern = .error error ↔
        parseSegments pattern [] (Text.segments pattern) = .error error := by
      rw [parse, if_neg hempty]
      cases parseSegments pattern [] (Text.segments pattern) <;> simp [Except.map]
    rw [hparse, hrun]
    simp [hempty]

theorem exists_parse_iff :
    (∃ template, parse pattern = .ok template) ↔ FollowsGrammar (Text.segments pattern) := by
  constructor
  · rintro ⟨template, htemplate⟩
    rw [← map_text_of_parse htemplate]
    exact (validSegments_of_parse htemplate).followsGrammar
  · intro hgrammar
    cases hparse : parse pattern with
    | ok template => exact ⟨template, rfl⟩
    | error error =>
        rcases parse_eq_error_iff.1 hparse with ⟨rfl, -⟩ | ⟨-, place, hoffence, -⟩
        · exact absurd rfl (hgrammar.words 0 "" rfl rfl).ne_empty
        · exact absurd hoffence (hgrammar.not_offence pattern place error)

/-- **Reading accepts exactly the texts that follow the grammar.** The segments of a template are
then those of its text, with a variable at every second place, so that the text can be told from
the segments. A text that does not follow the grammar is refused for being empty, or for the fault
of its leftmost segment that has one. -/
theorem parse_grammar (pattern : String) :
    ((∃ template, parse pattern = .ok template) ↔ FollowsGrammar (Text.segments pattern)) ∧
    (∀ template, parse pattern = .ok template →
      template.text = pattern ∧
      template.segments.map Segment.text = Text.segments pattern ∧
      (∀ place segment, template.segments[place]? = some segment →
        (segment.isVariable = true ↔ place % 2 = 1)) ∧
      Text.ofSegments (template.segments.map Segment.text) = pattern ∧
      ∀ other otherTemplate, parse other = .ok otherTemplate →
        otherTemplate.segments = template.segments → other = pattern) ∧
    ∀ error, parse pattern = .error error ↔
      pattern = "" ∧ error = .empty ∨
      pattern ≠ "" ∧ ∃ place, Offence pattern (Text.segments pattern) place error ∧
        ∀ earlier < place, ∀ other, ¬ Offence pattern (Text.segments pattern) earlier other := by
  refine ⟨exists_parse_iff, ?_, fun error => parse_eq_error_iff⟩
  intro template htemplate
  have hsegments := map_text_of_parse htemplate
  refine ⟨(parse_eq_ok htemplate).1, hsegments, (validSegments_of_parse htemplate).alternates,
    by rw [hsegments, Text.ofSegments_segments], ?_⟩
  intro other otherTemplate hother hsame
  apply Text.segments_injective
  rw [← map_text_of_parse hother, hsame, hsegments]

end Template

end ResourceNames
