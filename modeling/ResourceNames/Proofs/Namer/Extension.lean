import ResourceNames.Proofs.Namer.Format
import ResourceNames.Proofs.PatternSet.Extension

set_option autoImplicit false

/-! # Namers that patterns are added to

The index of a pattern and the name of a record may be kept anywhere, and patterns added later. The
index still stands for the pattern, so that formatting with it answers as before, and the name is
still matched, with the same tokens. -/

namespace ResourceNames

namespace Namer

variable {ι : Type} {schema : Schema ι} {type : ι} {namer other : Namer schema type}

/-! ## Namers with the same bindings -/

theorem fill_congr (h : namer.bindings = other.bindings) (record : Record ι)
    (template : Template) : namer.fill record template = other.fill record template := by
  have hvalue : ∀ key, namer.value record key = other.value record key := by
    intro key
    rw [value, value, h]
    rfl
  simp only [fill, hvalue]

theorem fillFirst_congr (h : namer.bindings = other.bindings) (record : Record ι)
    (last : Option KeyError) (templates : List Template) :
    namer.fillFirst record last templates = other.fillFirst record last templates := by
  induction templates generalizing last with
  | nil => rfl
  | cons template rest ih => simp only [fillFirst, fill_congr h, ih]

theorem attempt_congr (h : namer.bindings = other.bindings) (kind : NameKind) (record : Record ι) :
    namer.attempt kind record = other.attempt kind record := by
  funext pattern
  simp only [attempt, fill_congr h]

/-- A pattern that two namers have in common gives the same answer in both. -/
theorem formatKind_index_congr (h : namer.bindings = other.bindings)
    (hset : namer.patterns.IsValid) (hotherSet : other.patterns.IsValid) {pattern : Pattern}
    (hpattern : pattern ∈ namer.patterns.toList) (hother : pattern ∈ other.patterns.toList)
    (kind : NameKind) (record : Record ι) :
    namer.formatKind kind record (.ofInt pattern.index) =
      other.formatKind kind record (.ofInt pattern.index) := by
  rw [formatKind_index hset hpattern, formatKind_index hotherSet hother, fillFirst_congr h]
  rfl

/-! ## More patterns -/

/-- **Adding patterns renumbers none and redirects no name.** Let more patterns be declared, and
more extra ones be added. Every index of the old set stands for the same pattern in the new one. A
name, or the name of a parent, that matched before has the same tokens, and the same pattern too,
unless that is an extra one and the new one is newly declared. A namer answers as before for every
index of the old set, and if no patterns are newly declared, the names that it gives when it may use
all patterns are the same too. -/
theorem stable_of_extension {declared more extra others : List String} {set bigger : PatternSet}
    (h : PatternSet.compile declared extra = .ok set)
    (hbigger : PatternSet.compile (declared ++ more) (extra ++ others) = .ok bigger) :
    (∀ index ∈ set.indices, ∃ pattern,
      set.get? index = some pattern ∧ bigger.get? index = some pattern) ∧
    (∀ name found, set.matchName? name = some found →
      PatternSet.KeepsMatch declared.length (declared ++ more).length found
        (bigger.matchName? name)) ∧
    (∀ parent found, set.matchParent? parent = some found →
      PatternSet.KeepsMatch declared.length (declared ++ more).length found
        (bigger.matchParent? parent)) ∧
    ∀ (ι : Type) [DecidableEq ι] (schema : Schema ι) (type : ι)
      (namer grown : Namer schema type) (strict strictGrown : Bool),
      compile schema type declared ⟨extra, strict⟩ = .ok namer →
      compile schema type (declared ++ more) ⟨extra ++ others, strictGrown⟩ = .ok grown →
      ∀ kind record,
        (∀ index ∈ set.indices,
          grown.formatKind kind record (.ofInt index) =
            namer.formatKind kind record (.ofInt index)) ∧
        (more = [] → ∀ name, namer.formatKind kind record (.ofInt (-1)) = .ok name →
          grown.formatKind kind record (.ofInt (-1)) = .ok name) := by
  obtain ⟨extension⟩ := PatternSet.extension_of_compile h hbigger
  have hset := PatternSet.isValid_of_compile h
  have hsetBigger := extension.isValid
  refine ⟨?_, ?_, ?_, ?_⟩
  · intro index hindex
    obtain ⟨pattern, hpattern, hsame⟩ := List.mem_map.1 hindex
    exact ⟨pattern, hset.get?_eq_some_iff.2 ⟨hpattern, hsame⟩,
      hsetBigger.get?_eq_some_iff.2 ⟨extension.mem_bigger hpattern, hsame⟩⟩
  · intro name found hfound
    exact extension.keepsMatch (fun _ hmem => hsetBigger.arises hmem) hfound
  · intro parent found hfound
    exact extension.keepsMatch (fun _ hmem => hsetBigger.arises_parent hmem) hfound
  · intro ι _ schema type namer grown strict strictGrown hnamer hgrown kind record
    obtain ⟨hpatterns, hbindings⟩ := compile_eq_ok hnamer
    obtain ⟨hpatternsGrown, hbindingsGrown⟩ := compile_eq_ok hgrown
    obtain rfl : set = namer.patterns := Except.ok.inj (h.symm.trans hpatterns)
    obtain rfl : bigger = grown.patterns := Except.ok.inj (hbigger.symm.trans hpatternsGrown)
    have hsame : grown.bindings = namer.bindings :=
      Except.ok.inj (hbindingsGrown.symm.trans hbindings)
    constructor
    · intro index hindex
      obtain ⟨pattern, hpattern, rfl⟩ := List.mem_map.1 hindex
      exact formatKind_index_congr hsame hsetBigger hset (extension.mem_bigger hpattern) hpattern
        kind record
    · rintro rfl name hname
      rw [formatKind_all_ok_iff] at hname ⊢
      rw [attempt_congr hsame]
      exact extension.findSome?_bigger (by simp) hname

end Namer

namespace Library

/-- Books that are called by their names, and by their shelves as an afterthought. -/
def earlyNamer : Namer schema .book where
  patterns := ⟨#[bookPattern, ⟨100, shelfPattern.template⟩]⟩
  bindings := bookNamer.bindings

/-- The same, once shelves with the number of their floor for a name are declared. -/
def lateNamer : Namer schema .book where
  patterns := ⟨#[bookPattern,
    ⟨1, "shelves/\x7bfloor\x7d/books/\x7bbook\x7d",
      [.literal "shelves", .variable "floor", .literal "books", .variable "book"]⟩,
    ⟨100, shelfPattern.template⟩, ⟨101, floorPattern.template⟩]⟩
  bindings := bookNamer.bindings

theorem compile_earlyNamer :
    Namer.compile schema .book [bookPattern.template.text]
      ⟨[shelfPattern.template.text], true⟩ = .ok earlyNamer := by
  decide +kernel

theorem compile_lateNamer :
    Namer.compile schema .book
      ([bookPattern.template.text] ++ ["shelves/\x7bfloor\x7d/books/\x7bbook\x7d"])
      ⟨[shelfPattern.template.text] ++ [floorPattern.template.text], true⟩ = .ok lateNamer := by
  decide +kernel

end Library

/-- The name of a book on a shelf is matched by the newly declared pattern, with the same tokens, and
the index of the extra pattern goes on to give that name. -/
theorem Namer.stable_of_extension_shelves :
    Library.earlyNamer.patterns.matchName? "shelves/1/books/b" =
      some (⟨100, Library.shelfPattern.template⟩, ["1", "b"]) ∧
    (Library.lateNamer.patterns.matchName? "shelves/1/books/b").map (·.1.index) = some 1 ∧
    PatternSet.KeepsMatch 1 2 (⟨100, Library.shelfPattern.template⟩, ["1", "b"])
      (Library.lateNamer.patterns.matchName? "shelves/1/books/b") ∧
    ∀ record, Library.lateNamer.formatKind .own record (.ofInt 100) =
      Library.earlyNamer.formatKind .own record (.ofInt 100) := by
  have hmatch : Library.earlyNamer.patterns.matchName? "shelves/1/books/b" =
      some (⟨100, Library.shelfPattern.template⟩, ["1", "b"]) := by decide +kernel
  obtain ⟨-, hname, -, hnamer⟩ := stable_of_extension
    (compile_eq_ok Library.compile_earlyNamer).1 (compile_eq_ok Library.compile_lateNamer).1
  refine ⟨hmatch, by decide +kernel, hname _ _ hmatch, fun record => ?_⟩
  have hformat := hnamer Library.Kind Library.schema .book _ _ true true Library.compile_earlyNamer
    Library.compile_lateNamer .own record
  exact hformat.1 100 (by decide)

end ResourceNames
