import ResourceNames.Proofs.PatternSet.Disjoint
import ResourceNames.Proofs.PatternSet.Lookup

set_option autoImplicit false

/-! # Sets that patterns are added to

Patterns may be added behind those that are declared, and behind the extra ones. No pattern changes
its index by that. What a name matched it still matches, unless it matched an extra pattern and one
that is newly declared comes before it; but then the tokens are the same. -/

namespace ResourceNames.PatternSet

/-! ## Where the patterns are added -/

theorem compileFrom_append {index : Nat} {texts more : List String} {patterns : List Pattern}
    (h : compileFrom index (texts ++ more) = .ok patterns) :
    ∃ first second, compileFrom index texts = .ok first ∧
      compileFrom (index + texts.length) more = .ok second ∧ patterns = first ++ second := by
  induction texts generalizing index patterns with
  | nil => exact ⟨[], patterns, rfl, h, rfl⟩
  | cons text rest ih =>
      obtain ⟨template, others, htemplate, hothers, rfl⟩ := compileFrom_cons h
      obtain ⟨first, second, hfirst, hsecond, rfl⟩ := ih hothers
      refine ⟨⟨index, template⟩ :: first, second, ?_, ?_, rfl⟩
      · rw [compileFrom, compilePattern, htemplate, hfirst]
        rfl
      · rwa [List.length_cons, Nat.add_comm rest.length, ← Nat.add_assoc]

theorem index_of_compileFrom {index : Nat} {texts : List String} {patterns : List Pattern}
    (h : compileFrom index texts = .ok patterns) {pattern : Pattern} (hmem : pattern ∈ patterns) :
    index ≤ pattern.index ∧ pattern.index < index + texts.length := by
  rw [← List.mem_range'_1, ← map_index_of_compileFrom h]
  exact List.mem_map_of_mem hmem

/-- The patterns of one set among those of another, which has some more between the declared and the
    extra ones, with indices from `count` up to `limit`, and some more at the end. -/
structure Extension (set bigger : PatternSet) (count limit : Nat) where
  declared : List Pattern
  added : List Pattern
  extra : List Pattern
  last : List Pattern
  toList_eq : set.toList = declared ++ extra
  bigger_toList_eq : bigger.toList = declared ++ (added ++ (extra ++ last))
  isValid : bigger.IsValid
  index_of_extra : ∀ pattern ∈ extra, firstExtraIndex ≤ pattern.index
  index_of_added : ∀ pattern ∈ added, count ≤ pattern.index ∧ pattern.index < limit

theorem extension_of_compile {declared more extra others : List String} {set bigger : PatternSet}
    (h : compile declared extra = .ok set)
    (hbigger : compile (declared ++ more) (extra ++ others) = .ok bigger) :
    Nonempty (Extension set bigger declared.length (declared ++ more).length) := by
  obtain ⟨-, -, first, second, hfirst, hsecond, hset⟩ := compile_eq_ok h
  obtain ⟨-, -, both, extras, hboth, hextras, hsetBigger⟩ := compile_eq_ok hbigger
  obtain ⟨first', added, hfirst', hadded, rfl⟩ := compileFrom_append hboth
  obtain ⟨second', last, hsecond', -, rfl⟩ := compileFrom_append hextras
  obtain rfl := Except.ok.inj (hfirst.symm.trans hfirst')
  obtain rfl := Except.ok.inj (hsecond.symm.trans hsecond')
  refine ⟨first, added, second, last, hset, by rw [hsetBigger, List.append_assoc],
    isValid_of_compile hbigger, fun pattern hmem => (index_of_compileFrom hsecond hmem).1, ?_⟩
  intro pattern hmem
  have hindex := index_of_compileFrom hadded hmem
  rw [List.length_append]
  omega

namespace Extension

variable {set bigger : PatternSet} {count limit : Nat}

theorem mem_bigger (extension : Extension set bigger count limit) {pattern : Pattern}
    (h : pattern ∈ set.toList) : pattern ∈ bigger.toList := by
  rw [extension.toList_eq, List.mem_append] at h
  rw [extension.bigger_toList_eq]
  rcases h with hdeclared | hextra
  · exact List.mem_append_left _ hdeclared
  · exact List.mem_append_right _ (List.mem_append_right _ (List.mem_append_left _ hextra))

theorem added_eq_nil (extension : Extension set bigger count limit) (h : limit ≤ count) :
    extension.added = [] := by
  rw [List.eq_nil_iff_forall_not_mem]
  intro pattern hmem
  have hindex := extension.index_of_added pattern hmem
  omega

/-- What is found first in a set is found first after patterns were added behind it. -/
theorem findSome?_bigger (extension : Extension set bigger count limit) (h : limit ≤ count)
    {β : Type} {give : Pattern → Option β} {b : β} (hfind : set.toList.findSome? give = some b) :
    bigger.toList.findSome? give = some b := by
  rw [extension.toList_eq] at hfind
  rw [extension.bigger_toList_eq, extension.added_eq_nil h, List.nil_append, ← List.append_assoc,
    List.findSome?_append, hfind, Option.some_or]

end Extension

/-! ## What is found -/

/-- What becomes of a match when patterns with indices from `count` up to `limit` are declared. -/
structure KeepsMatch (count limit : Nat) (found : Pattern × List String)
    (after : Option (Pattern × List String)) : Prop where
  declared : found.1.index < firstExtraIndex → after = some found
  extra : ∃ pattern, after = some (pattern, found.2) ∧
    (pattern = found.1 ∨ count ≤ pattern.index ∧ pattern.index < limit)
  unchanged : limit ≤ count → after = some found

theorem exists_of_findSome?_map {patterns : List Pattern} {give : Pattern → Option (List String)}
    {found : Pattern × List String}
    (h : (patterns.findSome? fun pattern => (give pattern).map (pattern, ·)) = some found) :
    found.1 ∈ patterns ∧ give found.1 = some found.2 := by
  obtain ⟨pattern, hmem, hgive⟩ := List.exists_of_findSome?_eq_some h
  obtain ⟨tokens, htokens, rfl⟩ := Option.map_eq_some_iff.1 hgive
  exact ⟨hmem, htokens⟩

/-- Patterns that compete give the same tokens, so that only the pattern may change, and only where
    a new one comes before it. -/
theorem Extension.keepsMatch {set bigger : PatternSet} {count limit : Nat}
    (extension : Extension set bigger count limit) {of : Pattern → Template}
    (hof : ∀ pattern ∈ bigger.toList, (of pattern).Arises) {name : String}
    {found : Pattern × List String}
    (hfind : (set.toList.findSome? fun pattern => ((of pattern).tokens? name).map (pattern, ·)) =
      some found) :
    KeepsMatch count limit found
      (bigger.toList.findSome? fun pattern => ((of pattern).tokens? name).map (pattern, ·)) := by
  have hunchanged : limit ≤ count → _ = some found := fun h => extension.findSome?_bigger h hfind
  obtain ⟨hfound, htokens⟩ := exists_of_findSome?_map hfind
  have hfoundBigger := extension.mem_bigger hfound
  rw [extension.toList_eq, List.findSome?_append] at hfind
  cases hdeclared : extension.declared.findSome? fun pattern =>
      ((of pattern).tokens? name).map (pattern, ·) with
  | some first =>
      obtain rfl : first = found := by simpa [hdeclared] using hfind
      have hafter : (bigger.toList.findSome? fun pattern =>
          ((of pattern).tokens? name).map (pattern, ·)) = some first := by
        rw [extension.bigger_toList_eq, List.findSome?_append, hdeclared]
        rfl
      exact ⟨fun _ => hafter, ⟨first.1, hafter, .inl rfl⟩, fun _ => hafter⟩
  | none =>
      rw [hdeclared, Option.none_or] at hfind
      have hextra := extension.index_of_extra _ (exists_of_findSome?_map hfind).1
      refine ⟨fun hless => absurd hless (by omega), ?_, hunchanged⟩
      rw [extension.bigger_toList_eq, List.findSome?_append, hdeclared, Option.none_or,
        List.findSome?_append, List.findSome?_append, hfind]
      cases hadded : extension.added.findSome? fun pattern =>
          ((of pattern).tokens? name).map (pattern, ·) with
      | none => exact ⟨found.1, rfl, .inl rfl⟩
      | some new =>
          obtain ⟨hnew, hnewTokens⟩ := exists_of_findSome?_map hadded
          have hnewBigger : new.1 ∈ bigger.toList := by
            rw [extension.bigger_toList_eq]
            exact List.mem_append_right _ (List.mem_append_left _ hnew)
          have hsame : new.2 = found.2 :=
            (hof _ hfoundBigger).tokens_eq (hof _ hnewBigger) htokens hnewTokens
          exact ⟨new.1, by rw [← hsame]; rfl, .inr (extension.index_of_added _ hnew)⟩

end ResourceNames.PatternSet
