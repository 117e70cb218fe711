import ResourceNames.Proofs.PatternSet

set_option autoImplicit false

/-! # Looking up patterns by index

Patterns are looked up by halving. That finds every pattern of a set, since the indices ascend: what
lies on the side that is given up has a lower index, or a higher one, than the pattern looked for.
In a set without extra patterns the indices count the places of the texts that were declared. -/

namespace ResourceNames.PatternSet

/-- What is found between two positions stands there, and has the index. -/
theorem searchIndex_sound {patterns : Array Pattern} {index low high : Nat} {pattern : Pattern}
    (h : searchIndex patterns index low high = some pattern) :
    pattern ∈ patterns.toList ∧ pattern.index = index := by
  fun_induction searchIndex patterns index low high with
  | case1 => cases h
  | case2 low high hlt middle found hfound hindex =>
      obtain rfl := Option.some.inj h
      exact ⟨Array.mem_toList_iff.2 (Array.mem_of_getElem? hfound), hindex⟩
  | case3 low high hlt middle found hfound hindex hless ih => exact ih h
  | case4 low high hlt middle found hfound hindex hless ih => exact ih h
  | case5 => cases h

section Ascending

variable {patterns : Array Pattern}

theorem index_lt_of_place_lt
    (hascending : patterns.toList.Pairwise fun first second => first.index < second.index)
    {place other : Nat} {first second : Pattern} (hfirst : patterns[place]? = some first)
    (hsecond : patterns[other]? = some second) (hlt : place < other) :
    first.index < second.index := by
  rw [← Array.getElem?_toList, List.getElem?_eq_some_iff] at hfirst hsecond
  obtain ⟨hfirstLt, rfl⟩ := hfirst
  obtain ⟨hsecondLt, rfl⟩ := hsecond
  exact List.pairwise_iff_getElem.1 hascending _ _ hfirstLt hsecondLt hlt

/-- A pattern between two positions is found by its index. -/
theorem searchIndex_complete
    (hascending : patterns.toList.Pairwise fun first second => first.index < second.index)
    {index low high place : Nat} {pattern : Pattern} (hsize : high ≤ patterns.size)
    (hlow : low ≤ place) (hhigh : place < high) (hplace : patterns[place]? = some pattern)
    (hindex : pattern.index = index) : searchIndex patterns index low high = some pattern := by
  fun_induction searchIndex patterns index low high with
  | case1 low high hlt middle hnone =>
      have hmiddle : middle = (low + high) / 2 := rfl
      rw [Array.getElem?_eq_none_iff] at hnone
      omega
  | case2 low high hlt middle found hfound hsame =>
      rcases Nat.lt_trichotomy middle place with hless | rfl | hgreater
      · have := index_lt_of_place_lt hascending hfound hplace hless
        omega
      · rw [← hfound, hplace]
      · have := index_lt_of_place_lt hascending hplace hfound hgreater
        omega
  | case3 low high hlt middle found hfound hdiffers hbelow ih =>
      -- The pattern lies behind the middle, for no index up to there is high enough.
      rcases Nat.lt_trichotomy middle place with hless | rfl | hgreater
      · exact ih hsize hless hhigh
      · rw [hplace, Option.some.injEq] at hfound
        exact absurd (hfound ▸ hindex) hdiffers
      · have := index_lt_of_place_lt hascending hplace hfound hgreater
        omega
  | case4 low high hlt middle found hfound hdiffers hbelow ih =>
      have hmiddle : middle = (low + high) / 2 := rfl
      rcases Nat.lt_trichotomy middle place with hless | rfl | hgreater
      · have := index_lt_of_place_lt hascending hfound hplace hless
        omega
      · rw [hplace, Option.some.injEq] at hfound
        exact absurd (hfound ▸ hindex) hdiffers
      · exact ih (by omega) hlow hgreater
  | case5 low high hge => omega

end Ascending

namespace IsValid

variable {set : PatternSet}

/-- **Looking up an index gives the pattern of the set that has it.** -/
theorem get?_eq_some_iff (h : set.IsValid) {index : Nat} {pattern : Pattern} :
    set.get? index = some pattern ↔ pattern ∈ set.toList ∧ pattern.index = index := by
  constructor
  · exact searchIndex_sound
  · rintro ⟨hpattern, hindex⟩
    obtain ⟨place, hplace⟩ := List.mem_iff_getElem?.1 hpattern
    rw [toList, Array.getElem?_toList] at hplace
    obtain ⟨hlt, -⟩ := Array.getElem?_eq_some_iff.1 hplace
    exact searchIndex_complete h.ascending (Nat.le_refl _) (Nat.zero_le place) hlt hplace hindex

/-- Where the indices count the places, a place is looked up by its number. -/
theorem get?_eq_getElem? (h : set.IsValid) {count : Nat} (hindices : set.indices = List.range count)
    (index : Nat) : set.get? index = set.toList[index]? := by
  have hplaces : ∀ {place : Nat} {pattern : Pattern},
      set.toList[place]? = some pattern → pattern.index = place := by
    intro place pattern hplace
    have hindex : set.indices[place]? = some pattern.index := by
      rw [indices, List.getElem?_map, hplace, Option.map_some]
    rw [hindices, List.getElem?_eq_some_iff] at hindex
    obtain ⟨_, hindex⟩ := hindex
    rw [← hindex, List.getElem_range]
  apply Option.ext
  intro pattern
  rw [h.get?_eq_some_iff]
  constructor
  · rintro ⟨hmem, rfl⟩
    obtain ⟨place, hplace⟩ := List.mem_iff_getElem?.1 hmem
    rwa [hplaces hplace]
  · intro hplace
    exact ⟨List.mem_of_getElem? hplace, hplaces hplace⟩

end IsValid

/-! ## Sets without extra patterns -/

/-- A set whose patterns are the given texts, numbered from 0 on. -/
structure Lists (set : PatternSet) (texts : List String) : Prop where
  indices_eq : set.indices = List.range texts.length
  text_get? : ∀ index, (set.get? index).map (fun pattern => pattern.template.text) = texts[index]?
  parse_text : ∀ index pattern, set.get? index = some pattern →
    pattern.index = index ∧ Template.parse pattern.template.text = .ok pattern.template

/-- **A set that is compiled without extra patterns has the declared ones at their places.** -/
theorem lists_of_compile {declared : List String} {set : PatternSet}
    (h : compile declared [] = .ok set) : set.Lists declared := by
  have hvalid := isValid_of_compile h
  obtain ⟨-, -, first, second, hfirst, hsecond, hset⟩ := compile_eq_ok h
  obtain rfl : second = [] := (Except.ok.inj hsecond).symm
  rw [List.append_nil] at hset
  have hindices : set.indices = List.range declared.length := by
    rw [indices, hset, map_index_of_compileFrom hfirst, List.range_eq_range']
  refine ⟨hindices, ?_, ?_⟩
  · intro index
    rw [hvalid.get?_eq_getElem? hindices, hset, ← List.getElem?_map,
      map_text_of_compileFrom hfirst]
  · intro index pattern hpattern
    obtain ⟨hmem, hindex⟩ := hvalid.get?_eq_some_iff.1 hpattern
    obtain ⟨text, htext⟩ := hvalid.parsed pattern hmem
    refine ⟨hindex, ?_⟩
    rwa [(Template.parse_eq_ok htext).1]

end ResourceNames.PatternSet
