import Mathlib.Data.Nat.Find
import ResourceNames.PatternSet.Basic
import ResourceNames.Proofs.Template.Parent

set_option autoImplicit false

/-! # Compiled pattern sets

The patterns of a compiled set are parsed templates in strictly ascending order of their indices.
Walking through such a list to the first pattern with some property finds the one with the lowest
index. -/

namespace ResourceNames

/-- Whether a pattern is at root level is told by the shape of its parent. -/
theorem Pattern.isRoot_eq (pattern : Pattern) : pattern.isRoot = pattern.parent.shape.isEmpty := by
  rw [isRoot, Template.isEmpty, Template.shape, List.isEmpty_map]

theorem Pattern.isRoot_eq_false_iff {pattern : Pattern} :
    pattern.isRoot = false ↔ pattern.parent.segments ≠ [] := by
  rw [isRoot, Template.isEmpty, List.isEmpty_eq_false_iff]

namespace PatternSet

/-- What compiling guarantees of a set. -/
structure IsValid (set : PatternSet) : Prop where
  nonempty : set.toList ≠ []
  ascending : set.toList.Pairwise fun pattern other => pattern.index < other.index
  parsed : ∀ pattern ∈ set.toList, ∃ text, Template.parse text = .ok pattern.template

theorem compilePattern_eq_ok_iff {index : Nat} {text : String} {pattern : Pattern} :
    compilePattern index text = .ok pattern ↔
      ∃ template, Template.parse text = .ok template ∧ pattern = ⟨index, template⟩ := by
  rw [compilePattern]
  cases Template.parse text <;> simp [eq_comm]

theorem compileFrom_cons {index : Nat} {text : String} {rest : List String}
    {patterns : List Pattern} (h : compileFrom index (text :: rest) = .ok patterns) :
    ∃ template others, Template.parse text = .ok template ∧
      compileFrom (index + 1) rest = .ok others ∧ patterns = ⟨index, template⟩ :: others := by
  rw [compileFrom] at h
  obtain ⟨first, hfirst, h⟩ := bind_eq_ok_iff.1 h
  obtain ⟨others, hothers, h⟩ := bind_eq_ok_iff.1 h
  obtain ⟨template, htemplate, rfl⟩ := compilePattern_eq_ok_iff.1 hfirst
  exact ⟨template, others, htemplate, hothers, (Except.ok.inj h).symm⟩

theorem map_index_of_compileFrom {index : Nat} {texts : List String} {patterns : List Pattern}
    (h : compileFrom index texts = .ok patterns) :
    patterns.map Pattern.index = List.range' index texts.length := by
  induction texts generalizing index patterns with
  | nil =>
      simp only [compileFrom, Except.ok.injEq] at h
      simp [← h]
  | cons text rest ih =>
      obtain ⟨template, others, -, hothers, rfl⟩ := compileFrom_cons h
      simp [ih hothers, List.range'_succ]

theorem parsed_of_compileFrom {index : Nat} {texts : List String} {patterns : List Pattern}
    (h : compileFrom index texts = .ok patterns) :
    ∀ pattern ∈ patterns, ∃ text, Template.parse text = .ok pattern.template := by
  induction texts generalizing index patterns with
  | nil =>
      simp only [compileFrom, Except.ok.injEq] at h
      simp [← h]
  | cons text rest ih =>
      obtain ⟨template, others, htemplate, hothers, rfl⟩ := compileFrom_cons h
      intro pattern hpattern
      rcases List.mem_cons.1 hpattern with rfl | hmem
      · exact ⟨text, htemplate⟩
      · exact ih hothers pattern hmem

theorem map_text_of_compileFrom {index : Nat} {texts : List String} {patterns : List Pattern}
    (h : compileFrom index texts = .ok patterns) :
    patterns.map (fun pattern => pattern.template.text) = texts := by
  induction texts generalizing index patterns with
  | nil =>
      simp only [compileFrom, Except.ok.injEq] at h
      simp [← h]
  | cons text rest ih =>
      obtain ⟨template, others, htemplate, hothers, rfl⟩ := compileFrom_cons h
      rw [List.map_cons, ih hothers, (Template.parse_eq_ok htemplate).1]

/-- Patterns can be read if each of them can, wherever their numbers start. -/
theorem exists_compileFrom_iff {index : Nat} {texts : List String} :
    (∃ patterns, compileFrom index texts = .ok patterns) ↔
      ∀ text ∈ texts, ∃ template, Template.parse text = .ok template := by
  induction texts generalizing index with
  | nil => simp [compileFrom]
  | cons text rest ih =>
      rw [List.forall_mem_cons]
      constructor
      · rintro ⟨patterns, hpatterns⟩
        obtain ⟨template, others, htemplate, hothers, -⟩ := compileFrom_cons hpatterns
        exact ⟨⟨template, htemplate⟩, ih.1 ⟨others, hothers⟩⟩
      · rintro ⟨⟨template, htemplate⟩, hrest⟩
        obtain ⟨others, hothers⟩ : ∃ others, compileFrom (index + 1) rest = .ok others :=
          ih.2 hrest
        refine ⟨⟨index, template⟩ :: others, ?_⟩
        rw [compileFrom, compilePattern, htemplate, hothers]
        rfl

theorem compile_eq_ok {declared extra : List String} {set : PatternSet}
    (h : compile declared extra = .ok set) :
    declared ≠ [] ∧ declared.length ≤ firstExtraIndex ∧
      ∃ first second, compileFrom 0 declared = .ok first ∧
        compileFrom firstExtraIndex extra = .ok second ∧ set.toList = first ++ second := by
  rw [compile] at h
  split_ifs at h with hempty hmany
  refine ⟨by simpa using hempty, by omega, ?_⟩
  obtain ⟨first, hfirst, h⟩ := bind_eq_ok_iff.1 h
  obtain ⟨second, hsecond, h⟩ := bind_eq_ok_iff.1 h
  obtain rfl := Except.ok.inj h
  exact ⟨first, second, hfirst, hsecond, rfl⟩

/-- **Patterns form a set if some are declared, not too many, and all can be read.** -/
theorem exists_compile_iff {declared extra : List String} :
    (∃ set, compile declared extra = .ok set) ↔
      declared ≠ [] ∧ declared.length ≤ firstExtraIndex ∧
        ∀ text ∈ declared ++ extra, ∃ template, Template.parse text = .ok template := by
  constructor
  · rintro ⟨set, hset⟩
    obtain ⟨hne, hcount, first, second, hfirst, hsecond, -⟩ := compile_eq_ok hset
    refine ⟨hne, hcount, ?_⟩
    rw [List.forall_mem_append]
    exact ⟨exists_compileFrom_iff.1 ⟨first, hfirst⟩, exists_compileFrom_iff.1 ⟨second, hsecond⟩⟩
  · rintro ⟨hne, hcount, htemplates⟩
    rw [List.forall_mem_append] at htemplates
    obtain ⟨first, hfirst⟩ := exists_compileFrom_iff.2 htemplates.1
    obtain ⟨second, hsecond⟩ := exists_compileFrom_iff.2 htemplates.2
    refine ⟨⟨(first ++ second).toArray⟩, ?_⟩
    rw [compile, if_neg (by simpa using hne), if_neg (Nat.not_lt.2 hcount), hfirst, hsecond]
    rfl

/-- **A compiled set is valid.** -/
theorem isValid_of_compile {declared extra : List String} {set : PatternSet}
    (h : compile declared extra = .ok set) : set.IsValid := by
  obtain ⟨hne, hcount, first, second, hfirst, hsecond, hset⟩ := compile_eq_ok h
  have hindices : set.toList.map Pattern.index =
      List.range' 0 declared.length ++ List.range' firstExtraIndex extra.length := by
    rw [hset, List.map_append, map_index_of_compileFrom hfirst, map_index_of_compileFrom hsecond]
  constructor
  · intro hnil
    rw [hnil, List.map_nil] at hindices
    have hlength := congrArg List.length hindices
    simp only [List.length_nil, List.length_append, List.length_range'] at hlength
    exact hne (List.length_eq_zero_iff.1 (by omega))
  · have hsorted : (set.toList.map Pattern.index).Pairwise (· < ·) ↔
        set.toList.Pairwise fun pattern other => pattern.index < other.index := List.pairwise_map
    rw [← hsorted, hindices, List.pairwise_append]
    refine ⟨List.pairwise_lt_range', List.pairwise_lt_range', ?_⟩
    intro index hindex other hother
    rw [List.mem_range'_1] at hindex hother
    omega
  · intro pattern hpattern
    rw [hset] at hpattern
    rcases List.mem_append.1 hpattern with hmem | hmem
    · exact parsed_of_compileFrom hfirst pattern hmem
    · exact parsed_of_compileFrom hsecond pattern hmem

/-- Among the patterns with some property there is one with the lowest index. -/
theorem exists_first {set : PatternSet} (holds : Pattern → Prop)
    (h : ∃ pattern ∈ set.toList, holds pattern) :
    ∃ first ∈ set.toList, holds first ∧
      ∀ other ∈ set.toList, holds other → first.index ≤ other.index := by
  classical
  have hindex : ∃ index, ∃ pattern ∈ set.toList, holds pattern ∧ pattern.index = index := by
    obtain ⟨pattern, hpattern, hholds⟩ := h
    exact ⟨_, pattern, hpattern, hholds, rfl⟩
  obtain ⟨first, hfirst, hholds, hsame⟩ := Nat.find_spec hindex
  refine ⟨first, hfirst, hholds, ?_⟩
  intro other hother hotherHolds
  rw [hsame]
  exact Nat.find_min' hindex ⟨other, hother, hotherHolds, rfl⟩

namespace IsValid

variable {set : PatternSet}

theorem validSegments (h : set.IsValid) {pattern : Pattern} (hmem : pattern ∈ set.toList) :
    ValidSegments pattern.template.segments := by
  obtain ⟨text, hparse⟩ := h.parsed pattern hmem
  exact Template.validSegments_of_parse hparse

theorem segments_ne_nil (h : set.IsValid) {pattern : Pattern} (hmem : pattern ∈ set.toList) :
    pattern.template.segments ≠ [] := by
  obtain ⟨text, hparse⟩ := h.parsed pattern hmem
  exact Template.segments_ne_nil_of_parse hparse

/-- The first pattern that has something to give has the lowest index of those that do. -/
theorem findSome?_eq_some_iff (h : set.IsValid) {β : Type} (give : Pattern → Option β) (b : β) :
    set.toList.findSome? give = some b ↔
      ∃ pattern ∈ set.toList, give pattern = some b ∧
        ∀ other ∈ set.toList, (give other).isSome → pattern.index ≤ other.index := by
  have hascending := h.ascending
  generalize set.toList = patterns at hascending ⊢
  induction patterns with
  | nil => simp
  | cons first rest ih =>
      rw [List.pairwise_cons] at hascending
      obtain ⟨hfirst, hrest⟩ := hascending
      rw [List.findSome?_cons]
      -- The indices ascend, so that whatever the first pattern gives comes before all else.
      cases hgive : give first with
      | some value =>
          constructor
          · rintro hb
            refine ⟨first, List.mem_cons_self, hgive.trans hb, ?_⟩
            intro other hother _
            rcases List.mem_cons.1 hother with rfl | hmem
            · exact Nat.le_refl _
            · exact Nat.le_of_lt (hfirst other hmem)
          · rintro ⟨pattern, hpattern, hb, hleast⟩
            rcases List.mem_cons.1 hpattern with rfl | hmem
            · exact hgive.symm.trans hb
            · have hle := hleast first List.mem_cons_self (by simp [hgive])
              exact absurd (hfirst pattern hmem) (by omega)
      | none =>
          refine (ih hrest).trans ?_
          constructor
          · rintro ⟨pattern, hpattern, hb, hleast⟩
            refine ⟨pattern, List.mem_cons_of_mem _ hpattern, hb, ?_⟩
            intro other hother hsome
            rcases List.mem_cons.1 hother with rfl | hmem
            · simp [hgive] at hsome
            · exact hleast other hmem hsome
          · rintro ⟨pattern, hpattern, hb, hleast⟩
            rcases List.mem_cons.1 hpattern with rfl | hmem
            · simp [hgive] at hb
            · exact ⟨pattern, hmem, hb,
                fun other hother => hleast other (List.mem_cons_of_mem _ hother)⟩

theorem findSome?_map_eq_some_iff (h : set.IsValid) {β : Type} (give : Pattern → Option β)
    (pattern : Pattern) (b : β) :
    (set.toList.findSome? fun other => (give other).map (other, ·)) = some (pattern, b) ↔
      pattern ∈ set.toList ∧ give pattern = some b ∧
        ∀ other ∈ set.toList, (give other).isSome → pattern.index ≤ other.index := by
  rw [h.findSome?_eq_some_iff]
  simp only [Option.isSome_map]
  constructor
  · rintro ⟨found, hfound, hgive, hleast⟩
    simp only [Option.map_eq_some_iff, Prod.mk.injEq] at hgive
    obtain ⟨_, hb, rfl, rfl⟩ := hgive
    exact ⟨hfound, hb, hleast⟩
  · rintro ⟨hpattern, hb, hleast⟩
    exact ⟨pattern, hpattern, by rw [hb, Option.map_some], hleast⟩

/-- **A name is matched by the pattern with the lowest index of those that it matches.** -/
theorem matchName?_eq_some_iff (h : set.IsValid) {name : String} {pattern : Pattern}
    {tokens : List String} :
    set.matchName? name = some (pattern, tokens) ↔
      pattern ∈ set.toList ∧ pattern.template.tokens? name = some tokens ∧
        ∀ other ∈ set.toList, (other.template.tokens? name).isSome →
          pattern.index ≤ other.index :=
  h.findSome?_map_eq_some_iff _ pattern tokens

theorem matchParent?_eq_some_iff (h : set.IsValid) {parent : String} {pattern : Pattern}
    {tokens : List String} :
    set.matchParent? parent = some (pattern, tokens) ↔
      pattern ∈ set.toList ∧ pattern.parent.tokens? parent = some tokens ∧
        ∀ other ∈ set.toList, (other.parent.tokens? parent).isSome →
          pattern.index ≤ other.index :=
  h.findSome?_map_eq_some_iff _ pattern tokens

/-- Patterns of a set with the same index are the same. -/
theorem eq_of_index_eq (h : set.IsValid) {pattern other : Pattern}
    (hpattern : pattern ∈ set.toList) (hother : other ∈ set.toList)
    (hindex : pattern.index = other.index) : pattern = other := by
  obtain ⟨place, hplace, rfl⟩ := List.mem_iff_getElem.1 hpattern
  obtain ⟨otherPlace, hotherPlace, rfl⟩ := List.mem_iff_getElem.1 hother
  have hascending := List.pairwise_iff_getElem.1 h.ascending
  rcases Nat.lt_trichotomy place otherPlace with hlt | rfl | hgt
  · exact absurd (hascending _ _ hplace hotherPlace hlt) (by omega)
  · rfl
  · exact absurd (hascending _ _ hotherPlace hplace hgt) (by omega)

theorem find?_index (h : set.IsValid) {pattern : Pattern} (hmem : pattern ∈ set.toList) :
    (set.toList.find? fun other => (other.index : Int) == (pattern.index : Int)) =
      some pattern := by
  cases hfind : set.toList.find? fun other => (other.index : Int) == (pattern.index : Int) with
  | none =>
      rw [List.find?_eq_none] at hfind
      exact absurd (hfind pattern hmem) (by simp)
  | some found =>
      have hindex : (found.index : Int) = (pattern.index : Int) := by
        simpa using List.find?_some hfind
      rw [h.eq_of_index_eq (List.mem_of_find?_eq_some hfind) hmem (by exact_mod_cast hindex)]

/-- A name that matches one of several templates, one for each pattern, is matched by the first of
    those of the same shape. -/
theorem exists_first_of_shape (h : set.IsValid) {of : Pattern → Template}
    (hof : ∀ pattern ∈ set.toList, ValidSegments (of pattern).segments) {pattern : Pattern}
    (hmem : pattern ∈ set.toList) (hne : (of pattern).segments ≠ []) {name : String}
    {tokens : List String} (htokens : (of pattern).tokens? name = some tokens) :
    ∃ found ∈ set.toList,
      (set.toList.findSome? fun other => ((of other).tokens? name).map (other, ·)) =
        some (found, tokens) ∧
      (of found).shape = (of pattern).shape ∧
      ∀ other ∈ set.toList, (of other).shape = (of pattern).shape →
        found.index ≤ other.index := by
  cases hmatch : set.toList.findSome? fun other => ((of other).tokens? name).map (other, ·) with
  | none =>
      rw [List.findSome?_eq_none_iff] at hmatch
      have hnone := hmatch pattern hmem
      simp [htokens] at hnone
  | some result =>
      obtain ⟨found, others⟩ := result
      obtain ⟨hfound, hothers, hleast⟩ := (h.findSome?_map_eq_some_iff _ found others).1 hmatch
      have hfoundNe : (of found).segments ≠ [] := by
        -- The empty template would match the empty name alone, which the template does not match.
        intro hnil
        rw [Template.eq_empty_of_tokens? hnil hothers,
          Template.tokens?_empty (hof pattern hmem) hne] at htokens
        cases htokens
      have hshape : (of found).shape = (of pattern).shape :=
        Template.shape_eq_of_tokens? (hof found hfound) hfoundNe (hof pattern hmem) hne hothers
          htokens
      obtain rfl : others = tokens := by
        rw [Template.tokens?_congr hshape, htokens] at hothers
        exact (Option.some.inj hothers).symm
      refine ⟨found, hfound, rfl, hshape, ?_⟩
      intro other hother hotherShape
      apply hleast other hother
      rw [Template.tokens?_congr hotherShape, htokens]
      rfl

end IsValid

end PatternSet

end ResourceNames
