import ResourceNames.Proofs.Namer.Format
import ResourceNames.Proofs.PatternSet.Compilation

set_option autoImplicit false

/-! # Patterns by number

A namer looks for the pattern that a number selects by going through all patterns, a set by halving.
Both come to the same pattern or to none, so that formatting with a number is formatting with the
pattern that the set has under this number. -/

namespace ResourceNames

namespace PatternSet

/-- The pattern that a number selects, if it selects one; -1 is not treated apart here. -/
def getInt? (set : PatternSet) (number : Int) : Option Pattern :=
  if number < 0 then none else set.get? number.toNat

variable {set : PatternSet}

theorem getInt?_eq_none_iff {number : Int} :
    set.getInt? number = none ↔ number < 0 ∨ set.get? number.toNat = none := by
  rw [getInt?]
  by_cases hneg : number < 0 <;> simp [hneg]

theorem IsValid.getInt?_eq_some_iff (h : set.IsValid) {number : Int} {pattern : Pattern} :
    set.getInt? number = some pattern ↔
      pattern ∈ set.toList ∧ (pattern.index : Int) = number := by
  rw [getInt?]
  by_cases hneg : number < 0
  · rw [if_pos hneg]
    refine ⟨nofun, ?_⟩
    rintro ⟨-, hindex⟩
    omega
  · rw [if_neg hneg, h.get?_eq_some_iff]
    refine and_congr_right fun _ => ?_
    omega

end PatternSet

namespace Namer

variable {ι : Type} {schema : Schema ι} {type : ι} {namer : Namer schema type}

/-- What formatting answers if it tries a single template. -/
def tryTemplate (namer : Namer schema type) (kind : NameKind) (record : Record ι)
    (template : Template) : Except NamerError String :=
  (namer.fill record template).mapError fun cause =>
    .noPatternFound kind namer.typeName (some cause)

/-- What formatting answers if it tries a single pattern: its own template for the name of a record,
    and the template of its parent for that of the parent, unless the pattern is at root level. -/
def tryPattern (namer : Namer schema type) (kind : NameKind) (record : Record ι)
    (pattern : Pattern) : Except NamerError String :=
  match kind with
  | .own => namer.tryTemplate .own record pattern.template
  | .parent =>
    if pattern.isRoot then .error (.noPatternFound .parent namer.typeName none)
    else namer.tryTemplate .parent record pattern.parent

theorem tryTemplate_ne_invalidIndex (kind : NameKind) (record : Record ι) (template : Template)
    (index : Int) : namer.tryTemplate kind record template ≠ .error (.invalidIndex index) := by
  rw [tryTemplate]
  cases hfill : namer.fill record template <;> simp [Except.mapError]

theorem tryPattern_ne_invalidIndex (kind : NameKind) (record : Record ι) (pattern : Pattern)
    (index : Int) : namer.tryPattern kind record pattern ≠ .error (.invalidIndex index) := by
  cases kind with
  | own => exact tryTemplate_ne_invalidIndex .own record pattern.template index
  | parent =>
      by_cases hroot : pattern.isRoot = true
      · simp [tryPattern, hroot]
      · simpa [tryPattern, hroot] using
          tryTemplate_ne_invalidIndex .parent record pattern.parent index

/-- Among one template there is just this one to try. -/
theorem fillFirst_singleton (kind : NameKind) (record : Record ι) (template : Template) :
    (namer.fillFirst record none [template]).mapError (.noPatternFound kind namer.typeName) =
      namer.tryTemplate kind record template := by
  rw [tryTemplate, fillFirst]
  cases hfill : namer.fill record template <;> rfl

/-- The template that a pattern has for a kind of name, if it has one, is the one that is tried. -/
theorem fillFirst_templateFor (kind : NameKind) (record : Record ι) (pattern : Pattern) :
    (namer.fillFirst record none (templateFor kind pattern).toList).mapError
        (.noPatternFound kind namer.typeName) =
      namer.tryPattern kind record pattern := by
  cases kind with
  | own => exact fillFirst_singleton .own record pattern.template
  | parent =>
      by_cases hroot : pattern.isRoot = true
      · simp [tryPattern, templateFor, hroot, fillFirst, Except.mapError]
      · simpa [tryPattern, templateFor, hroot] using
          fillFirst_singleton .parent record pattern.parent

/-- Formatting with a number tries the pattern that is looked up, and no other. -/
theorem formatKind_ofInt (hset : namer.patterns.IsValid) (kind : NameKind) (record : Record ι)
    {number : Int} (hnumber : number ≠ -1) :
    namer.formatKind kind record (.ofInt number) =
      match namer.patterns.getInt? number with
      | some pattern => namer.tryPattern kind record pattern
      | none => .error (.invalidIndex number) := by
  cases hget : namer.patterns.getInt? number with
  | some pattern =>
      obtain ⟨hmem, rfl⟩ := hset.getInt?_eq_some_iff.1 hget
      exact (formatKind_index hset hmem).trans (fillFirst_templateFor kind record pattern)
  | none =>
      apply formatKind_unknown hnumber
      intro pattern hmem hindex
      have hsome := hset.getInt?_eq_some_iff.2 ⟨hmem, hindex⟩
      rw [hget] at hsome
      cases hsome

theorem formatKind_eq_invalidIndex_iff (hset : namer.patterns.IsValid) (kind : NameKind)
    (record : Record ι) {number : Int} (hnumber : number ≠ -1) {index : Int} :
    namer.formatKind kind record (.ofInt number) = .error (.invalidIndex index) ↔
      index = number ∧ (number < 0 ∨ namer.patterns.get? number.toNat = none) := by
  rw [formatKind_ofInt hset kind record hnumber, ← PatternSet.getInt?_eq_none_iff]
  cases namer.patterns.getInt? number with
  | none => simp [eq_comm]
  | some pattern => simp [tryPattern_ne_invalidIndex]

end Namer

/-- **Compiled sets are indexed.** Texts form a set exactly if 1 to 100 of them are declared and all
follow the grammar, and else the first fault is reported. In a set the declared patterns have the
numbers from 0 on and the extra ones those from 100 on, in ascending order. A namer with such a set
that formats with a number other than -1 refuses the number if the set has no pattern for it, and
else tries just this pattern. -/
theorem PatternSet.compile_indexed (declared extra : List String) :
    firstExtraIndex = 100 ∧
    ((∃ set, compile declared extra = .ok set) ↔
      declared ≠ [] ∧ declared.length ≤ firstExtraIndex ∧
        ∀ text ∈ declared ++ extra, FollowsGrammar (Text.segments text)) ∧
    (∀ error, compile declared extra = .error error ↔ Unfit declared extra error) ∧
    ∀ set, compile declared extra = .ok set →
      set.indices.Pairwise (· < ·) ∧
      (∀ index text, declared[index]? = some text →
        ∃ template, Template.parse text = .ok template ∧
          set.get? index = some ⟨index, template⟩) ∧
      (∀ place text, extra[place]? = some text →
        ∃ template, Template.parse text = .ok template ∧
          set.get? (firstExtraIndex + place) = some ⟨firstExtraIndex + place, template⟩) ∧
      (∀ index, declared.length ≤ index →
        index < firstExtraIndex ∨ firstExtraIndex + extra.length ≤ index →
          set.get? index = none) ∧
      ∀ (ι : Type) (schema : Schema ι) (type : ι) (namer : Namer schema type),
        namer.patterns = set → ∀ (kind : NameKind) (record : Record ι) (number : Int),
          number ≠ -1 →
          (∀ index, namer.formatKind kind record (.ofInt number) = .error (.invalidIndex index) ↔
            index = number ∧ (number < 0 ∨ set.get? number.toNat = none)) ∧
          ∀ pattern, 0 ≤ number → set.get? number.toNat = some pattern →
            namer.formatKind kind record (.ofInt number) =
              namer.tryPattern kind record pattern := by
  refine ⟨rfl, exists_compile_iff_grammar, fun error => compile_eq_error_iff, ?_⟩
  intro set hset
  have hvalid := isValid_of_compile hset
  refine ⟨List.pairwise_map.2 hvalid.ascending, ?_, ?_, ?_, ?_⟩
  · intro index text htext
    exact get?_of_mem_numbered hset (mem_numbered_iff.2 (.inl htext))
  · intro place text htext
    refine get?_of_mem_numbered hset (mem_numbered_iff.2 (.inr ⟨Nat.le_add_right _ _, ?_⟩))
    rwa [Nat.add_sub_cancel_left]
  · intro index hdeclared hextra
    exact get?_eq_none_of_gap hset hdeclared hextra
  · rintro ι schema type namer rfl kind record number hnumber
    refine ⟨fun index => Namer.formatKind_eq_invalidIndex_iff hvalid kind record hnumber, ?_⟩
    intro pattern hnonneg hpattern
    have hget : namer.patterns.getInt? number = some pattern := by
      rw [getInt?, if_neg (by omega), hpattern]
    rw [Namer.formatKind_ofInt hvalid kind record hnumber, hget]

namespace Library

/-- The pattern of the books on a shelf as the first extra one. -/
def extraPattern : Pattern := ⟨100, shelfPattern.template⟩

def extraSet : PatternSet := ⟨#[bookPattern, extraPattern]⟩

theorem compile_extraSet :
    PatternSet.compile ["books/\x7bbook\x7d"] ["shelves/\x7bshelf\x7d/books/\x7bbook\x7d"] =
      .ok extraSet := by
  decide +kernel

/-- The namer of books that may stand on a shelf. -/
def extraNamer : Namer schema .book where
  patterns := extraSet
  bindings := bookNamer.bindings

end Library

/-- Next to the last declared pattern there is a gap up to the first extra one. Formatting refuses
    the numbers in the gap, and with 100 tries the extra pattern, for the name of a book and for that
    of its parent. -/
theorem PatternSet.compile_indexed_gap :
    compile ["books/\x7bbook\x7d"] ["shelves/\x7bshelf\x7d/books/\x7bbook\x7d"] =
        .ok Library.extraSet ∧
      Library.extraSet.indices.Pairwise (· < ·) ∧ Library.extraSet.get? 1 = none ∧
      (∃ template, Template.parse "shelves/\x7bshelf\x7d/books/\x7bbook\x7d" = .ok template ∧
        Library.extraSet.get? 100 = some ⟨100, template⟩) ∧
      Library.extraNamer.formatKind .own (Library.shelved "a" "b") (.ofInt 1) =
        .error (.invalidIndex 1) ∧
      Library.extraNamer.formatKind .own (Library.shelved "a" "b") (.ofInt 100) =
        .ok "shelves/a/books/b" ∧
      Library.extraNamer.formatKind .parent (Library.shelved "a" "b") (.ofInt 100) =
        .ok "shelves/a" ∧
      Library.extraNamer.formatKind .parent (Library.shelved "a" "b") (.ofInt 0) =
        .error (.noPatternFound .parent "Book" none) := by
  obtain ⟨-, -, -, hset⟩ :=
    compile_indexed ["books/\x7bbook\x7d"] ["shelves/\x7bshelf\x7d/books/\x7bbook\x7d"]
  obtain ⟨hascending, -, hextra, hgap, hnamer⟩ := hset _ Library.compile_extraSet
  have hformat := hnamer Library.Kind Library.schema .book Library.extraNamer rfl
  have hnone := hgap 1 (Nat.le_refl 1) (.inl (by decide))
  have hfirst : Library.extraSet.get? 0 = some Library.bookPattern := by decide +kernel
  have hlast : Library.extraSet.get? 100 = some Library.extraPattern := by decide +kernel
  refine ⟨Library.compile_extraSet, hascending, hnone, hextra 0 _ rfl, ?_, ?_, ?_, ?_⟩
  · exact ((hformat .own (Library.shelved "a" "b") 1 (by decide)).1 1).2 ⟨rfl, .inr hnone⟩
  · rw [(hformat .own (Library.shelved "a" "b") 100 (by decide)).2 _ (by decide) hlast]
    decide +kernel
  · rw [(hformat .parent (Library.shelved "a" "b") 100 (by decide)).2 _ (by decide) hlast]
    decide +kernel
  · rw [(hformat .parent (Library.shelved "a" "b") 0 (by decide)).2 _ (by decide) hfirst]
    decide +kernel

end ResourceNames
