import ResourceNames.Declaration.Basic
import ResourceNames.Proofs.Namer.Basic
import ResourceNames.Proofs.PatternSet.Lookup

set_option autoImplicit false

/-! # Declared patterns

The patterns that a struct declares are looked at twice: when the declaration is read, item by item
and counted at the end, and when a namer is made, counted at first and then read one by one. Both
checks accept the same patterns, so that the namer of a declared type never fails on them. It has
them in the order of the declaration, however they are spread over the attributes. -/

namespace ResourceNames

/-! ## What the items say -/

/-- The text of an item with the given word. -/
def AttributeItem.text? (item : AttributeItem) (word : String) : Option String :=
  if item.word = word then item.text.toOption else none

/-- The texts of the items with the given word, in order. -/
def textsOf (word : String) (items : List AttributeItem) : List String :=
  items.filterMap fun item => item.text? word

/-- Whether an item gives a pattern or the resource type. -/
def AttributeItem.IsOfType (item : AttributeItem) : Prop :=
  (item.text? "pattern").isSome ∨ (item.text? "resource").isSome

theorem AttributeItem.text_eq_ok_iff {item : AttributeItem} {text : String} :
    item.text = .ok text ↔ item.value = some (.text text) := by
  rw [AttributeItem.text]
  rcases item.value with _ | _ | _ <;> simp

theorem AttributeItem.text?_eq_some_iff {item : AttributeItem} {word text : String} :
    item.text? word = some text ↔ item.word = word ∧ item.value = some (.text text) := by
  rw [text?, ← text_eq_ok_iff]
  cases item.text <;> simp [Except.toOption]

theorem AttributeItem.text?_eq_none {item : AttributeItem} {word other text : String}
    (h : item.text? word = some text) (hne : word ≠ other) : item.text? other = none := by
  rw [text?, (text?_eq_some_iff.1 h).1, if_neg hne]

theorem AttributeItem.text?_cases (item : AttributeItem) :
    (∃ text, item.text? "pattern" = some text ∧ item.text? "resource" = none) ∨
      (∃ text, item.text? "pattern" = none ∧ item.text? "resource" = some text) ∨
      item.text? "pattern" = none ∧ item.text? "resource" = none := by
  cases hpattern : item.text? "pattern" with
  | some text => exact .inl ⟨text, rfl, text?_eq_none hpattern (by decide)⟩
  | none => cases hresource : item.text? "resource" <;> simp

theorem textsOf_cons (word : String) (item : AttributeItem) (items : List AttributeItem) :
    textsOf word (item :: items) = (item.text? word).toList ++ textsOf word items := by
  cases h : item.text? word <;> simp [textsOf, h]

/-- Items that give patterns and at most one resource type, and none without a pattern. Whether the
    patterns can be read is left open. -/
structure AreOfType (items : List AttributeItem) : Prop where
  isOfType : ∀ item ∈ items, item.IsOfType
  resource_length_le : (textsOf "resource" items).length ≤ 1
  resource_eq_nil : textsOf "pattern" items = [] → textsOf "resource" items = []

/-- The patterns that attributes of a struct declare, in order. -/
def declaredPatterns (tool : String) (attributes : List Attribute) : List String :=
  textsOf "pattern" (itemsFor tool attributes)

/-! ## What is accepted -/

namespace StructSettings

variable {settings result : StructSettings} {items : List AttributeItem}

/-- An item is taken in as a pattern that can be read, or as the first resource type. -/
theorem add_eq_ok_iff {item : AttributeItem} :
    settings.add item = .ok result ↔
      (∃ text template, item.text? "pattern" = some text ∧ Template.parse text = .ok template ∧
        result = { settings with patterns := settings.patterns ++ [text] }) ∨
      (∃ text, item.text? "resource" = some text ∧ settings.resource = none ∧
        result = { settings with resource := some text }) := by
  simp only [AttributeItem.text?_eq_some_iff]
  rw [add]
  split_ifs with hpattern hresource hduplicate
  · simp only [bind_eq_ok_iff, AttributeItem.text_eq_ok_iff]
    constructor
    · rintro ⟨text, hvalue, hread⟩
      split at hread
      · next template htemplate =>
          exact .inl ⟨text, template, ⟨hpattern, hvalue⟩, htemplate, (Except.ok.inj hread).symm⟩
      · cases hread
    · rintro (⟨text, template, ⟨-, hvalue⟩, htemplate, rfl⟩ | ⟨text, ⟨hresource, -⟩, -⟩)
      · exact ⟨text, hvalue, by rw [htemplate]⟩
      · exact absurd (hpattern.symm.trans hresource) (by decide)
  · obtain ⟨resource, hsome⟩ := Option.isSome_iff_exists.1 hduplicate
    simp [hpattern, hsome]
  · rw [Option.not_isSome_iff_eq_none] at hduplicate
    simp only [bind_eq_ok_iff, AttributeItem.text_eq_ok_iff]
    simp [hresource, hduplicate, eq_comm]
  · simp [hpattern, hresource]

/-- **The items are taken in if each is a pattern that can be read or the only resource type.** -/
theorem foldlM_add_eq_ok_iff :
    items.foldlM add settings = .ok result ↔
      (∀ item ∈ items, item.IsOfType) ∧
        (∀ text ∈ textsOf "pattern" items, ∃ template, Template.parse text = .ok template) ∧
        result.resource.toList = settings.resource.toList ++ textsOf "resource" items ∧
        result.patterns = settings.patterns ++ textsOf "pattern" items := by
  induction items generalizing settings with
  | nil =>
      simp only [List.foldlM_nil, pure, Except.pure, Except.ok.injEq]
      obtain ⟨resource, patterns⟩ := settings
      obtain ⟨resource', patterns'⟩ := result
      cases resource <;> cases resource' <;> simp [textsOf, eq_comm]
  | cons item rest ih =>
      simp only [foldlM_cons_eq_ok_iff, ih, add_eq_ok_iff, textsOf_cons, List.forall_mem_cons,
        List.forall_mem_append]
      rcases item.text?_cases with ⟨text, hpattern, hresource⟩ | ⟨text, hpattern, hresource⟩ | hnot
      · have hitem : item.IsOfType := .inl (by simp [hpattern])
        simp [hitem, hpattern, hresource, and_assoc, and_left_comm]
      · have hitem : item.IsOfType := .inr (by simp [hresource])
        -- There is room for one resource type only.
        have hroom : result.resource.toList =
            settings.resource.toList ++ text :: textsOf "resource" rest ↔
              settings.resource = none ∧
                result.resource.toList = text :: textsOf "resource" rest := by
          cases settings.resource with
          | none => simp
          | some _ => cases result.resource <;> simp
        simp [hitem, hpattern, hresource, hroom, and_assoc, and_left_comm]
      · have hitem : ¬ item.IsOfType := by simp [AttributeItem.IsOfType, hnot]
        simp [hitem, hnot]

theorem check_eq_ok_iff :
    settings.check = .ok result ↔
      result = settings ∧ settings.patterns.length ≤ PatternSet.firstExtraIndex ∧
        (settings.patterns = [] → settings.resource = none) := by
  rw [check]
  by_cases hmany : PatternSet.firstExtraIndex < settings.patterns.length
  · simp [hmany, Nat.not_le.2 hmany]
  · by_cases hlone : settings.patterns = [] ∧ settings.resource.isSome
    · simp [hlone, ← Option.not_isSome_iff_eq_none]
    · simp only [hmany, if_false, Bool.and_eq_true, List.isEmpty_iff, hlone, Except.ok.injEq]
      rw [not_and, Option.not_isSome_iff_eq_none] at hlone
      exact ⟨fun h => ⟨h.symm, Nat.not_lt.1 hmany, hlone⟩, fun h => h.1.symm⟩

/-- **What the attributes of a struct say, if they are accepted.** -/
theorem ofAttributes_eq_ok_iff {tool : String} {attributes : List Attribute} :
    ofAttributes tool attributes = .ok settings ↔
      (∀ item ∈ itemsFor tool attributes, item.IsOfType) ∧
        (∀ text ∈ declaredPatterns tool attributes, ∃ template,
          Template.parse text = .ok template) ∧
        (settings.resource.toList = textsOf "resource" (itemsFor tool attributes) ∧
          settings.patterns = declaredPatterns tool attributes) ∧
        settings.patterns.length ≤ PatternSet.firstExtraIndex ∧
        (settings.patterns = [] → settings.resource = none) := by
  simp only [ofAttributes, bind_eq_ok_iff, check_eq_ok_iff, foldlM_add_eq_ok_iff]
  constructor
  · rintro ⟨_, ⟨hitems, htemplates, hresource, hpatterns⟩, rfl, hchecked⟩
    exact ⟨hitems, htemplates, ⟨hresource, hpatterns⟩, hchecked⟩
  · rintro ⟨hitems, htemplates, ⟨hresource, hpatterns⟩, hchecked⟩
    exact ⟨settings, ⟨hitems, htemplates, hresource, hpatterns⟩, rfl, hchecked⟩

/-- **Attributes are accepted if their patterns form a set, or if there are none.** -/
theorem exists_ofAttributes_iff {tool : String} {attributes : List Attribute} :
    (∃ settings, ofAttributes tool attributes = .ok settings) ↔
      AreOfType (itemsFor tool attributes) ∧
        (declaredPatterns tool attributes = [] ∨
          ∃ set, PatternSet.compile (declaredPatterns tool attributes) [] = .ok set) := by
  simp only [ofAttributes_eq_ok_iff, PatternSet.exists_compile_iff, List.append_nil]
  constructor
  · rintro ⟨settings, hitems, htemplates, ⟨hresource, hpatterns⟩, hcount, hlone⟩
    rw [hpatterns] at hcount hlone
    refine ⟨⟨hitems, hresource ▸ Option.length_toList_le, ?_⟩, ?_⟩
    · intro hnil
      rw [← hresource, hlone hnil, Option.toList_none]
    · exact or_iff_not_imp_left.2 fun hne => ⟨hne, hcount, htemplates⟩
  · rintro ⟨hitems, hcompiles⟩
    refine ⟨⟨(textsOf "resource" (itemsFor tool attributes)).head?,
      declaredPatterns tool attributes⟩, hitems.isOfType, ?_, ⟨?_, rfl⟩, ?_, ?_⟩
    · rcases hcompiles with hnil | ⟨-, -, htemplates⟩
      · simp [hnil]
      · exact htemplates
    · exact List.take_one.symm.trans (List.take_of_length_le hitems.resource_length_le)
    · rcases hcompiles with hnil | ⟨-, hcount, -⟩
      · simp [hnil]
      · exact hcount
    · intro hnil
      rw [hitems.resource_eq_nil hnil, List.head?_nil]

end StructSettings

/-! ## What a namer makes of it -/

section

variable {τ ι : Type} [DecidableEq ι] {schema : Schema ι} {type : ι}

theorem Declaration.derive_eq_ok {tool : String} {declaration : Declaration τ}
    {derivation : Derivation τ} (h : declaration.derive tool = .ok derivation) :
    ∃ settings, StructSettings.ofAttributes tool declaration.attributes = .ok settings ∧
      derivation.resource = settings.toResource? declaration.name := by
  rw [derive] at h
  obtain ⟨settings, hsettings, h⟩ := bind_eq_ok_iff.1 h
  obtain ⟨declared, -, h⟩ := bind_eq_ok_iff.1 h
  obtain ⟨fields, -, h⟩ := bind_eq_ok_iff.1 h
  obtain rfl := Except.ok.inj h
  exact ⟨settings, hsettings, rfl⟩

/-- A namer is not refused for patterns that form a set. -/
theorem Namer.compile_ne_error_patterns {patterns : List String} {options : Namer.Options}
    {set : PatternSet} (h : PatternSet.compile patterns options.extraPatterns = .ok set)
    (error : PatternSetError) :
    Namer.compile schema type patterns options ≠ .error (.patterns error) := by
  rw [Namer.compile, h]
  cases schema.bindings type with
  | error cause => simp [Except.mapError, bind, Except.bind]
  | ok bindings =>
      simp only [Except.mapError, bind, Except.bind]
      split <;> simp

/-- **The patterns of a declaration are accepted exactly if a set can be compiled from them, and a
    namer of the declared type has them at their places.** -/
theorem Declaration.patterns_compile (τ ι : Type) [DecidableEq ι] (tool : String) :
    (∀ attributes : List Attribute,
      (∃ settings, StructSettings.ofAttributes tool attributes = .ok settings) ↔
        AreOfType (itemsFor tool attributes) ∧
          (declaredPatterns tool attributes = [] ∨
            ∃ set, PatternSet.compile (declaredPatterns tool attributes) [] = .ok set)) ∧
      ∀ (declaration : Declaration τ) (derivation : Derivation τ),
        declaration.derive tool = .ok derivation →
        declaredPatterns tool declaration.attributes ≠ [] →
        ∃ resource, derivation.resource = some resource ∧
          resource.patterns = declaredPatterns tool declaration.attributes ∧
          ∀ (schema : Schema ι) (type : ι) (options : Namer.Options),
            options.extraPatterns = [] →
            (∀ error, Namer.forResource schema type resource options ≠ .error (.patterns error)) ∧
              ∀ namer, Namer.forResource schema type resource options = .ok namer →
                namer.patterns.Lists resource.patterns := by
  refine ⟨fun attributes => StructSettings.exists_ofAttributes_iff, ?_⟩
  intro declaration derivation hderive hne
  obtain ⟨settings, hsettings, hresource⟩ := Declaration.derive_eq_ok hderive
  obtain ⟨-, -, ⟨-, hpatterns⟩, -⟩ := StructSettings.ofAttributes_eq_ok_iff.1 hsettings
  obtain ⟨-, hnil | ⟨set, hset⟩⟩ := StructSettings.exists_ofAttributes_iff.1 ⟨settings, hsettings⟩
  · exact absurd hnil hne
  refine ⟨⟨settings.resource.getD (plainName declaration.name), settings.patterns⟩, ?_,
    hpatterns, ?_⟩
  · rw [hresource, StructSettings.toResource?, hpatterns, if_neg (by simpa using hne)]
  · intro schema type options hextra
    rw [← hpatterns] at hset
    constructor
    · exact Namer.compile_ne_error_patterns (hextra ▸ hset)
    · intro namer hnamer
      have hcompile := (Namer.compile_eq_ok hnamer).1
      rw [hextra] at hcompile
      exact PatternSet.lists_of_compile hcompile

end

namespace Library

/-- A book that is declared with two of its patterns in one attribute and the third in another, with
    an attribute for something else between them. -/
def bookDeclaration : Declaration (FieldType Kind) where
  kind := .struct
  name := "Book"
  attributes := [
    ⟨"resname", [⟨"pattern", some (.text "books/\x7bbook\x7d")⟩,
      ⟨"pattern", some (.text "shelves/\x7bshelf\x7d/books/\x7bbook\x7d")⟩]⟩,
    ⟨"catalogue", [⟨"pattern", some .number⟩]⟩,
    ⟨"resname", [⟨"resource", some (.text "library.example.com/Book")⟩,
      ⟨"pattern",
        some (.text "floors/\x7bfloor\x7d/shelves/\x7bshelf\x7d/books/\x7bbook\x7d")⟩]⟩]
  fields := [⟨"book", .scalar .string, []⟩,
    ⟨"note", .scalar .string, [⟨"resname", [⟨"skip", none⟩]⟩]⟩,
    ⟨"shelf", .optional (.boxed (.record .shelf)), []⟩]

/-- The resource that it declares. -/
def bookResource : Resource :=
  ⟨"library.example.com/Book", patterns⟩

end Library

theorem Declaration.patterns_compile_book :
    Library.bookDeclaration.derive "resname" =
        .ok ⟨Library.bookFields, some Library.bookResource⟩ ∧
      declaredPatterns "resname" Library.bookDeclaration.attributes ≠ [] ∧
      Namer.Options.standard.extraPatterns = [] ∧
      Namer.forResource Library.schema .book Library.bookResource .standard =
        .ok Library.bookNamer ∧
      Library.bookNamer.patterns.Lists Library.patterns := by
  have hderive : Library.bookDeclaration.derive "resname" =
      .ok ⟨Library.bookFields, some Library.bookResource⟩ := by decide +kernel
  have hne : declaredPatterns "resname" Library.bookDeclaration.attributes ≠ [] := by
    decide +kernel
  obtain ⟨resource, hresource, -, hnamer⟩ :=
    (Declaration.patterns_compile (FieldType Library.Kind) Library.Kind "resname").2 _ _ hderive hne
  obtain rfl := Option.some.inj hresource
  exact ⟨hderive, hne, rfl, Library.compile_bookNamer,
    (hnamer Library.schema .book .standard rfl).2 _ Library.compile_bookNamer⟩

end ResourceNames
