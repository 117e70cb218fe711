import ResourceNames.Proofs.Namer.Format

set_option autoImplicit false

/-! # Names that two records share

Values are put into a name as they are, separators included. So two records that differ in their
values may have the same name, and nothing but the number of separators in the values can tell
whether they do. -/

namespace ResourceNames.Namer

variable {ι : Type} {schema : Schema ι} {type : ι} {namer : Namer schema type}

/-- How many separators there are in the text of the value for a key. -/
def separatorCount (namer : Namer schema type) (record : Record ι) (key : String) :
    Except KeyError Nat :=
  (namer.value record key).map fun scalar => scalar.text.toList.count Text.separator

/-- What is told of the values for the keys is told of the values that a template is filled with. -/
theorem forall_keys_iff {first second : Record ι} {keys : List String} {values others : List Scalar}
    (hvalues : keys.map (namer.value first) = values.map .ok)
    (hothers : keys.map (namer.value second) = others.map .ok) {β : Type} (tell : Scalar → β) :
    (∀ key ∈ keys, (namer.value first key).map tell = (namer.value second key).map tell) ↔
      values.map tell = others.map tell := by
  rw [← List.map_inj_left, (map_value_eq_ok_iff tell).2 ⟨values, hvalues, rfl⟩,
    (map_value_eq_ok_iff tell).2 ⟨others, hothers, rfl⟩]
  exact List.map_inj_right fun _ _ => Except.ok.inj

/-- **Records that share a name agree on the keys if and only if they agree on how many separators
there are in the value of each.** -/
theorem text_eq_iff_of_format_eq [DecidableEq ι] {patterns : List String} {options : Namer.Options}
    (h : compile schema type patterns options = .ok namer) {pattern : Pattern}
    (hpattern : pattern ∈ namer.patterns.toList) {first second : Record ι} {name : String}
    (hfirst : namer.format first (.ofInt pattern.index) = .ok name)
    (hsecond : namer.format second (.ofInt pattern.index) = .ok name) :
    (∀ key ∈ pattern.template.keys,
      (namer.value first key).map Scalar.text = (namer.value second key).map Scalar.text) ↔
    ∀ key ∈ pattern.template.keys,
      namer.separatorCount first key = namer.separatorCount second key := by
  have hset := patterns_isValid h
  rw [format_index_eq_ok_iff hset hpattern, fill_eq_ok_iff] at hfirst hsecond
  obtain ⟨values, hvalues, hname⟩ := hfirst
  obtain ⟨others, hothers, hname'⟩ := hsecond
  have hlength : ∀ {record : Record ι} {scalars : List Scalar},
      pattern.template.keys.map (namer.value record) = scalars.map .ok →
      (scalars.map Scalar.text).length = pattern.template.keys.length := by
    intro record scalars hscalars
    have hlengths := congrArg List.length hscalars
    simpa only [List.length_map] using hlengths.symm
  have hcounts := Template.values_eq_iff_of_ofSegments_eq (hset.segments_ne_nil hpattern)
    (hlength hvalues) (hlength hothers) (hname.trans hname'.symm)
  simp only [List.map_map] at hcounts
  rw [forall_keys_iff hvalues hothers, hcounts]
  exact (forall_keys_iff hvalues hothers fun scalar =>
    scalar.text.toList.count Text.separator).symm

/-- Two books that share a name, and differ in the names of their shelves. -/
theorem text_ne_of_shelved :
    ¬ ∀ key ∈ Library.shelfPattern.template.keys,
      (Library.bookNamer.value (Library.shelved "a" "b/books/c") key).map Scalar.text =
        (Library.bookNamer.value (Library.shelved "a/books/b" "c") key).map Scalar.text := by
  have hcount : ¬ ∀ key ∈ Library.shelfPattern.template.keys,
      Library.bookNamer.separatorCount (Library.shelved "a" "b/books/c") key =
        Library.bookNamer.separatorCount (Library.shelved "a/books/b" "c") key := by
    decide +kernel
  have hshelf : Library.shelfPattern ∈ Library.bookNamer.patterns.toList := by decide
  have hfirst : Library.bookNamer.format (Library.shelved "a" "b/books/c")
      (.ofInt Library.shelfPattern.index) = .ok "shelves/a/books/b/books/c" := by decide +kernel
  have hsecond : Library.bookNamer.format (Library.shelved "a/books/b" "c")
      (.ofInt Library.shelfPattern.index) = .ok "shelves/a/books/b/books/c" := by decide +kernel
  exact fun htext => hcount
    ((text_eq_iff_of_format_eq Library.compile_bookNamer hshelf hfirst hsecond).1 htext)

/-- Sharing a name alone is not enough to agree on the keys. -/
theorem not_text_eq_of_format_eq :
    ¬ ∀ (namer : Namer Library.schema .book) (patterns : List String) (options : Namer.Options),
      compile Library.schema .book patterns options = .ok namer →
      ∀ pattern ∈ namer.patterns.toList, ∀ (first second : Record Library.Kind) (name : String),
        Library.schema.Typed .book first → Library.schema.Typed .book second →
        namer.format first (.ofInt pattern.index) = .ok name →
        namer.format second (.ofInt pattern.index) = .ok name →
        ∀ key ∈ pattern.template.keys,
          (namer.value first key).map Scalar.text = (namer.value second key).map Scalar.text := by
  intro h
  have htext := h Library.bookNamer Library.patterns .standard Library.compile_bookNamer
    Library.shelfPattern (by decide) (Library.shelved "a" "b/books/c")
    (Library.shelved "a/books/b" "c") "shelves/a/books/b/books/c" (Library.typed_shelved _ _)
    (Library.typed_shelved _ _) (by decide +kernel) (by decide +kernel) "shelf" (by decide)
  revert htext
  decide +kernel

end ResourceNames.Namer
