import ResourceNames.Proofs.Namer.Failure
import ResourceNames.Proofs.Namer.Normal
import ResourceNames.Proofs.Namer.Strict

set_option autoImplicit false

/-! # What strictness refuses

A strict namer is the lenient one for the same patterns, unless some key of these is not bound. It
would be of no use to make it then: a pattern with such a key never gives a name and is never the
answer to one, not even where the token of the key is a wildcard. A pattern whose keys are all bound
is of use, since some record has a name by it. -/

namespace ResourceNames

/-- The text of the number one stands for a value of every type, and for none that is absent. -/
theorem ScalarType.parse_one (leaf : ScalarType) :
    ∃ scalar, leaf.parse "1" = .ok scalar ∧ ¬ scalar.IsAbsent := by
  have hpresent : ∃ scalar, leaf.parse "1" = .ok scalar ∧ scalar.isZero = false := by
    cases leaf with
    | integer type =>
        obtain ⟨signed, size⟩ := type
        cases signed <;> cases size <;> exact ⟨_, rfl, rfl⟩
    | float format => cases format <;> exact ⟨_, rfl, by decide +kernel⟩
    | string => exact ⟨.string "1", rfl, rfl⟩
  simpa only [← Scalar.isZero_iff, Bool.not_eq_true] using hpresent

namespace Namer

variable {ι : Type} {schema : Schema ι} {type : ι} {namer : Namer schema type}
  {record : Record ι} {pattern : Pattern} {key : String}

/-! ## The key that is missing -/

/-- The pattern has the lowest index of those with a key that is not bound, and the key is its
leftmost such key. -/
structure FirstUnbound (namer : Namer schema type) (pattern : Pattern) (key : String) : Prop where
  mem : pattern ∈ namer.patterns.toList
  lowest : ∀ other ∈ namer.patterns.toList, ¬ namer.Binds other.template.keys →
    pattern.index ≤ other.index
  unbound : namer.bindings.get? key = none
  leftmost : ∃ before after, pattern.template.keys = before ++ key :: after ∧ namer.Binds before

theorem firstUnbound_of_missingKey? (hset : namer.patterns.IsValid) {template : Template}
    (h : missingKey? namer.patterns namer.bindings = some (template, key)) :
    ∃ pattern, pattern.template = template ∧ namer.FirstUnbound pattern key := by
  obtain ⟨pattern, hpattern, hmissing, hlowest⟩ := (hset.findSome?_eq_some_iff _ _).1 h
  obtain ⟨found, hfind, hfound⟩ := Option.map_eq_some_iff.1 hmissing
  obtain ⟨htemplate, rfl⟩ := Prod.mk.inj hfound
  obtain ⟨hunbound, before, after, hkeys, hbefore⟩ := List.find?_eq_some_iff_append.1 hfind
  refine ⟨pattern, htemplate, hpattern, ?_, ?_, before, after, hkeys, ?_⟩
  · intro other hother hbinds
    apply hlowest other hother
    rw [Option.isSome_map, Option.isSome_iff_ne_none]
    exact fun hnone => hbinds (find?_unbound_eq_none_iff.1 hnone)
  · simpa [Bindings.contains] using hunbound
  · rw [← find?_unbound_eq_none_iff, List.find?_eq_none]
    intro earlier hearlier
    simpa using hbefore earlier hearlier

theorem FirstUnbound.not_binds (h : namer.FirstUnbound pattern key) :
    ¬ namer.Binds pattern.template.keys := by
  intro hbinds
  obtain ⟨before, after, hkeys, -⟩ := h.leftmost
  obtain ⟨binding, hbinding⟩ := hbinds key (by simp [hkeys])
  rw [h.unbound] at hbinding
  cases hbinding

/-! ## Making namers -/

section
variable [DecidableEq ι] {patterns extra : List String}

/-- The patterns are looked at first. -/
theorem compile_of_patterns_error {error : PatternSetError}
    (h : PatternSet.compile patterns extra = .error error) (strict : Bool) :
    compile schema type patterns ⟨extra, strict⟩ = .error (.patterns error) := by
  rw [compile, h]
  rfl

/-- The table of the type is looked at next. -/
theorem compile_of_bindings_error {set : PatternSet} {error : BindingError}
    (hset : PatternSet.compile patterns extra = .ok set)
    (h : schema.bindings type = .error error) (strict : Bool) :
    compile schema type patterns ⟨extra, strict⟩ = .error (.binding error) := by
  rw [compile, hset, h]
  rfl

/-- A strict namer is the lenient one, unless that lacks a key. -/
theorem compile_strict : compile schema type patterns ⟨extra, true⟩ =
    compile schema type patterns ⟨extra, false⟩ >>= fun namer =>
      match missingKey? namer.patterns namer.bindings with
      | some (template, key) =>
        .error (.missingBinding key template.text (schema.record type).name)
      | none => .ok namer := by
  simp only [compile]
  cases PatternSet.compile patterns extra with
  | error error => rfl
  | ok set => cases schema.bindings type <;> rfl

/-- A lenient namer is not refused for a key. -/
theorem compile_lenient_ne_missingBinding (key text owner : String) :
    compile schema type patterns ⟨extra, false⟩ ≠ .error (.missingBinding key text owner) := by
  intro h
  cases hset : PatternSet.compile patterns extra with
  | error error =>
      rw [compile_of_patterns_error hset] at h
      cases h
  | ok set =>
      cases hbindings : schema.bindings type with
      | error error =>
          rw [compile_of_bindings_error hset hbindings] at h
          cases h
      | ok bindings =>
          rw [compile, hset, hbindings] at h
          cases h

/-- Where strictness makes a difference, it is that the first key that is missing is told. -/
theorem compile_strict_cases (schema : Schema ι) (type : ι) (patterns extra : List String) :
    (compile schema type patterns ⟨extra, true⟩ = compile schema type patterns ⟨extra, false⟩ ∧
      ∀ namer, compile schema type patterns ⟨extra, false⟩ = .ok namer →
        ∀ pattern ∈ namer.patterns.toList, namer.Binds pattern.template.keys) ∨
    ∃ namer pattern key, compile schema type patterns ⟨extra, false⟩ = .ok namer ∧
      namer.FirstUnbound pattern key ∧
      compile schema type patterns ⟨extra, true⟩ =
        .error (.missingBinding key pattern.template.text (schema.record type).name) := by
  rw [compile_strict]
  cases hlenient : compile schema type patterns ⟨extra, false⟩ with
  | error error => exact .inl ⟨rfl, nofun⟩
  | ok namer =>
      cases hmissing : missingKey? namer.patterns namer.bindings with
      | none =>
          refine .inl ⟨by simp only [bind, Except.bind, hmissing], ?_⟩
          rintro _ ⟨⟩
          exact missingKey?_eq_none_iff.1 hmissing
      | some found =>
          obtain ⟨template, key⟩ := found
          obtain ⟨pattern, rfl, hfirst⟩ :=
            firstUnbound_of_missingKey? (patterns_isValid hlenient) hmissing
          exact .inr ⟨namer, pattern, key, rfl, hfirst, by simp only [bind, Except.bind, hmissing]⟩

end

/-! ## Patterns of no use -/

/-- A pattern with a key that is not bound gives no name. -/
theorem format_ne_ok_of_not_binds (hset : namer.patterns.IsValid)
    (hpattern : pattern ∈ namer.patterns.toList) (h : ¬ namer.Binds pattern.template.keys)
    (name : String) : namer.format record (.ofInt pattern.index) ≠ .ok name := by
  intro hformat
  rw [format_index_eq_ok_iff hset hpattern] at hformat
  refine h fun key hkey => ?_
  obtain ⟨binding, -, hbinding, -⟩ := fill_ok_iff_fits.1 ⟨name, hformat⟩ key hkey
  exact ⟨binding, hbinding⟩

/-- It is not the answer to any name either. -/
theorem parse_ne_ok_of_not_binds (hset : namer.patterns.IsValid)
    (hpattern : pattern ∈ namer.patterns.toList) (h : ¬ namer.Binds pattern.template.keys)
    (name : String) : (namer.parse name record).2 ≠ .ok pattern.index := by
  intro hparse
  rw [parse] at hparse
  cases hmatch : namer.patterns.matchName? name with
  | none =>
      rw [hmatch] at hparse
      cases hparse
  | some found =>
      obtain ⟨found, tokens⟩ := found
      rw [hmatch] at hparse
      obtain ⟨hfound, htokens, -⟩ := hset.matchName?_eq_some_iff.1 hmatch
      obtain ⟨hindex, hassign⟩ := assignMatch_eq_ok_iff.1 hparse
      obtain rfl := hset.eq_of_index_eq hfound hpattern hindex
      -- Wildcards are no exception: that a key is bound is seen before its token.
      refine h fun key hkey => ?_
      obtain ⟨pair, hpair, rfl⟩ :=
        exists_pair_of_mem_keys (Template.length_of_tokens? htokens) hkey
      exact bound_of_assign hassign hpair

/-! ## Patterns of use -/

/-- Keys that are bound can all be assigned the number one. -/
theorem assign_ones (hschema : schema.IsDerived) (hleads : namer.bindings.LeadFrom schema type)
    (hrecord : schema.Typed type record) {keys : List String} (hbinds : namer.Binds keys) :
    (namer.assign (keys.map (·, "1")) record).2 = .ok () := by
  cases hresult : (namer.assign (keys.map (·, "1")) record).2 with
  | ok _ => rfl
  | error error =>
      obtain ⟨earlier, key, token, later, hpairs, -, hrefused⟩ :=
        exists_refused hschema hleads hrecord hresult
      have hmem : (key, token) ∈ keys.map (·, "1") := by simp [hpairs]
      obtain ⟨found, hkey, hpair⟩ := List.mem_map.1 hmem
      obtain ⟨rfl, rfl⟩ := Prod.mk.inj hpair
      generalize (namer.assign _ record).1 = after at hrefused
      cases hrefused with
      | unbound hnone =>
          obtain ⟨binding, hbinding⟩ := hbinds found hkey
          rw [hnone] at hbinding
          cases hbinding
      | @malformed _ _ _ leaf _ _ _ _ hparse _ =>
          obtain ⟨scalar, hone, -⟩ := leaf.parse_one
          rw [hone] at hparse
          cases hparse

/-- Keys that are bound fit some record. -/
theorem exists_fits (hschema : schema.IsDerived) (hleads : namer.bindings.LeadFrom schema type)
    {keys : List String} (hbinds : namer.Binds keys) :
    ∃ record, schema.Typed type record ∧ ∀ key ∈ keys, namer.Fits record key := by
  have hinitial := hschema.newRecord_typed type
  have heffect := effect_of_assign hschema hleads hinitial
    (assign_ones hschema hleads hinitial hbinds)
  have hones : ∀ pair ∈ keys.map (·, "1"), pair.2 = "1" := by simp
  refine ⟨_, heffect.typed, fun key hkey => ?_⟩
  obtain ⟨binding, hbinding, last, hlast, -, -, -, write, ⟨other, leaf, -, -, hparse⟩, hread⟩ :=
    heffect.holds (fun pair hpair => by rw [hones pair hpair]; decide)
      (List.mem_map_of_mem (f := (·, "1")) hkey)
  obtain ⟨scalar, hone, hpresent⟩ := leaf.parse_one
  rw [hones last hlast, hone] at hparse
  obtain rfl := Except.ok.inj hparse
  exact ⟨binding, write.2, hbinding, hread, hpresent⟩

/-! ## Strict or lenient -/

/-- **Strictness refuses patterns that can never work, and no others.** A strict namer is refused
for a key if and only if the lenient one is made and has a pattern with a key that is not bound; the
first such pattern and its leftmost such key are told. Otherwise both are the same namer, or are
refused for the same reason: the patterns first, then the table of the type. In a lenient namer no
record has a name by a pattern with a key that is not bound, and no name is parsed with it; by any
other pattern some record has a name, if reading and writing agree with the table as they do for a
derived type. -/
theorem strict_refuses_unbound [DecidableEq ι] (schema : Schema ι) (type : ι)
    (patterns extra : List String) :
    ((∃ key text owner, compile schema type patterns ⟨extra, true⟩ =
        .error (.missingBinding key text owner)) ↔
      ∃ namer, compile schema type patterns ⟨extra, false⟩ = .ok namer ∧
        ∃ pattern ∈ namer.patterns.toList, ¬ namer.Binds pattern.template.keys) ∧
    (∀ key text owner, compile schema type patterns ⟨extra, true⟩ =
        .error (.missingBinding key text owner) →
      ∃ namer pattern, compile schema type patterns ⟨extra, false⟩ = .ok namer ∧
        namer.FirstUnbound pattern key ∧ text = pattern.template.text ∧
        owner = (schema.record type).name) ∧
    ((∀ key text owner, compile schema type patterns ⟨extra, true⟩ ≠
        .error (.missingBinding key text owner)) →
      compile schema type patterns ⟨extra, true⟩ = compile schema type patterns ⟨extra, false⟩) ∧
    (∀ error, PatternSet.compile patterns extra = .error error →
      ∀ strict, compile schema type patterns ⟨extra, strict⟩ = .error (.patterns error)) ∧
    (∀ set error, PatternSet.compile patterns extra = .ok set →
      schema.bindings type = .error error →
      ∀ strict, compile schema type patterns ⟨extra, strict⟩ = .error (.binding error)) ∧
    ∀ namer, compile schema type patterns ⟨extra, false⟩ = .ok namer →
      ∀ pattern ∈ namer.patterns.toList,
        (¬ namer.Binds pattern.template.keys →
          (∀ record name, namer.format record (.ofInt pattern.index) ≠ .ok name) ∧
          ∀ record name, (namer.parse name record).2 ≠ .ok pattern.index) ∧
        (namer.Binds pattern.template.keys → schema.IsDerived →
          ∃ record, schema.Typed type record ∧
            ∃ name, namer.format record (.ofInt pattern.index) = .ok name) := by
  have hcases := compile_strict_cases schema type patterns extra
  have hlenient : ∀ {key text owner}, compile schema type patterns ⟨extra, false⟩ ≠
      .error (.missingBinding key text owner) := compile_lenient_ne_missingBinding _ _ _
  refine ⟨⟨?_, ?_⟩, ?_, ?_, ?_, ?_, ?_⟩
  · rintro ⟨key, text, owner, h⟩
    rcases hcases with ⟨hsame, -⟩ | ⟨namer, pattern, found, hnamer, hfirst, -⟩
    · exact absurd (hsame.symm.trans h) hlenient
    · exact ⟨namer, hnamer, pattern, hfirst.mem, hfirst.not_binds⟩
  · rintro ⟨namer, hnamer, pattern, hpattern, hbinds⟩
    rcases hcases with ⟨-, hall⟩ | ⟨other, first, key, -, -, hrefused⟩
    · exact absurd (hall namer hnamer pattern hpattern) hbinds
    · exact ⟨key, first.template.text, (schema.record type).name, hrefused⟩
  · intro key text owner h
    rcases hcases with ⟨hsame, -⟩ | ⟨namer, pattern, found, hnamer, hfirst, hrefused⟩
    · exact absurd (hsame.symm.trans h) hlenient
    · obtain ⟨rfl, rfl, rfl⟩ :=
        ConfigurationError.missingBinding.inj (Except.error.inj (hrefused.symm.trans h))
      exact ⟨namer, pattern, hnamer, hfirst, rfl, rfl⟩
  · intro hnone
    rcases hcases with ⟨hsame, -⟩ | ⟨namer, pattern, key, -, -, hrefused⟩
    · exact hsame
    · exact absurd hrefused (hnone key _ _)
  · exact fun error herror => compile_of_patterns_error herror
  · exact fun set error hset herror => compile_of_bindings_error hset herror
  · intro namer hnamer pattern hpattern
    have hset := patterns_isValid hnamer
    constructor
    · intro hbinds
      exact ⟨fun record => format_ne_ok_of_not_binds hset hpattern hbinds,
        fun record => parse_ne_ok_of_not_binds hset hpattern hbinds⟩
    · intro hbinds hschema
      obtain ⟨record, hrecord, hfits⟩ :=
        exists_fits hschema (bindings_leadFrom hschema hnamer) hbinds
      obtain ⟨name, hname⟩ := fill_ok_iff_fits.2 hfits
      exact ⟨record, hrecord, name, (format_index_eq_ok_iff hset hpattern).2 hname⟩

end Namer

namespace Library

/-- The pattern of a book that belongs to a library, of which books know nothing. -/
def libraryPattern : Pattern :=
  ⟨1, "libraries/\x7blibrary\x7d/books/\x7bbook\x7d",
    [.literal "libraries", .variable "library", .literal "books", .variable "book"]⟩

/-- A namer that has to be lenient. -/
def libraryNamer : Namer schema .book where
  patterns := ⟨#[bookPattern, libraryPattern]⟩
  bindings := bookNamer.bindings

theorem compile_libraryNamer :
    Namer.compile schema .book
        ["books/\x7bbook\x7d", "libraries/\x7blibrary\x7d/books/\x7bbook\x7d"] ⟨[], false⟩ =
      .ok libraryNamer := by
  decide +kernel

end Library

/-- Strictly the library is refused, for no name is parsed with its pattern, not even with a
wildcard for the library. -/
theorem Namer.strict_refuses_unbound_library :
    (∃ key text owner, compile Library.schema .book
        ["books/\x7bbook\x7d", "libraries/\x7blibrary\x7d/books/\x7bbook\x7d"] ⟨[], true⟩ =
      .error (.missingBinding key text owner)) ∧
    (Library.libraryNamer.parse "libraries/-/books/b" (Library.schema.newRecord .book)).2 ≠
      .ok 1 := by
  have hmem : Library.libraryPattern ∈ Library.libraryNamer.patterns.toList := by decide
  have hbinds : ¬ Library.libraryNamer.Binds Library.libraryPattern.template.keys := by
    intro hbinds
    obtain ⟨binding, hbinding⟩ := hbinds "library" (by decide)
    have hnone : Library.libraryNamer.bindings.get? "library" = none := by decide
    rw [hnone] at hbinding
    cases hbinding
  obtain ⟨hrefused, -, -, -, -, huse⟩ := strict_refuses_unbound Library.schema .book
    ["books/\x7bbook\x7d", "libraries/\x7blibrary\x7d/books/\x7bbook\x7d"] []
  obtain ⟨hunused, -⟩ := huse _ Library.compile_libraryNamer Library.libraryPattern hmem
  exact ⟨hrefused.2 ⟨_, Library.compile_libraryNamer, Library.libraryPattern, hmem, hbinds⟩,
    (hunused hbinds).2 (Library.schema.newRecord .book) "libraries/-/books/b"⟩

end ResourceNames
