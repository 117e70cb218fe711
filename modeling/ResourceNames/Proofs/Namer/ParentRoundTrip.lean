import ResourceNames.Proofs.Namer.RoundTrip

set_option autoImplicit false

/-! # The name of a parent, there and back

Patterns of one set often have the same parent, so that the name of a parent is parsed with the
first of these patterns, whichever it was formatted with. No pattern at root level is among them,
since its parent is the empty text, which no other parent gives. As the keys are the same, the
record that the name is parsed into has the same parent as the one it was formatted from. -/

namespace ResourceNames.Namer

variable {ι : Type} {schema : Schema ι} {type : ι} {namer : Namer schema type}
  {record target : Record ι} {pattern : Pattern} {template : Template} {name : String}

/-! ## Formatting with one parent -/

theorem formatParent_index_eq_ok_iff (hset : namer.patterns.IsValid)
    (hpattern : pattern ∈ namer.patterns.toList) :
    namer.formatParent record (.ofInt pattern.index) = .ok name ↔
      pattern.isRoot = false ∧ namer.fill record pattern.parent = .ok name := by
  rw [formatParent, formatKind_index_eq_ok_iff hset hpattern, attempt, templateFor]
  cases pattern.isRoot with
  | true => simp
  | false => cases hfill : namer.fill record pattern.parent <;> simp [hfill, Except.toOption]

theorem length_values {keys : List String} {values : List Scalar}
    (h : keys.map (namer.value record) = values.map .ok) : values.length = keys.length := by
  simpa only [List.length_map] using (congrArg List.length h).symm

/-- The values that fill a template, where the strings among them are fit to be segments. -/
theorem segments_of_fill (hfill : namer.fill record template = .ok name)
    (hstrings : ∀ key ∈ template.keys, ∀ binding text,
      namer.bindings.get? key = some binding →
      schema.read binding.path record = .scalar (.string text) →
      Text.separator ∉ text.toList ∧ text ≠ Text.wildcard ∧ isBraced text = false) :
    ∃ values : List Scalar, template.keys.map (namer.value record) = values.map .ok ∧
      (∀ scalar ∈ values, scalar.IsSegment ∧ scalar.isZero = false) ∧
      Text.ofSegments (Template.fill template.segments (values.map Scalar.text)) = name := by
  obtain ⟨values, hvalues, hname⟩ := fill_eq_ok_iff.1 hfill
  refine ⟨values, hvalues, ?_, hname⟩
  intro scalar hscalar
  have hmem : .ok scalar ∈ template.keys.map (namer.value record) := by
    rw [hvalues]
    exact List.mem_map_of_mem hscalar
  obtain ⟨key, hkey, hvalue⟩ := List.mem_map.1 hmem
  exact isSegment_of_value hstrings hkey hvalue

/-! ## Records that agree -/

/-- Two records have the same scalar for a key. -/
def Agree (namer : Namer schema type) (record other : Record ι) (key : String) : Prop :=
  ∃ binding scalar, namer.bindings.get? key = some binding ∧
    schema.read binding.path record = .scalar scalar ∧
    schema.read binding.path other = .scalar scalar

theorem Agree.value_eq {other : Record ι} {key : String} (h : namer.Agree record other key) :
    namer.value other key = namer.value record key := by
  obtain ⟨binding, scalar, hbinding, hrecord, hother⟩ := h
  rw [value, value, hbinding]
  dsimp only
  rw [hrecord, hother]

/-- Templates of one shape with the same keys are filled alike by records that agree on these. -/
theorem fill_of_agree {after : Record ι} {other : Template}
    (hshape : other.shape = template.shape) (hkeys : other.keys = template.keys)
    (hagree : ∀ key ∈ template.keys, namer.Agree record after key)
    (hfill : namer.fill record template = .ok name) : namer.fill after other = .ok name := by
  rw [fill_eq_ok_iff] at hfill ⊢
  obtain ⟨values, hvalues, hname⟩ := hfill
  refine ⟨values, ?_, ?_⟩
  · rw [hkeys, ← hvalues]
    exact List.map_congr_left fun key hkey => (hagree key hkey).value_eq
  · rw [Template.fill_congr hshape, hname]

/-! ## Parsing -/

/-- The address is on the way to the field of one of the keys. -/
def OnWay (namer : Namer schema type) (keys : List String) (address : List Step) : Prop :=
  ∃ key ∈ keys, ∃ binding places leaf, namer.bindings.get? key = some binding ∧
    schema.LeadsTo type binding.path places leaf ∧ Step.positions address <+: places

/-- The texts of the values that a record has for the keys of a template can be assigned to any
record, which then agrees with that one on the keys, and is as it was off the way to them. -/
theorem assignMatch_of_values (hschema : schema.IsDerived)
    (hleads : namer.bindings.LeadFrom schema type) (hrecord : schema.Typed type record)
    (htarget : schema.Typed type target) {values : List Scalar}
    (hvalues : template.keys.map (namer.value record) = values.map .ok)
    (hsegments : ∀ scalar ∈ values, scalar.IsSegment) (index : Nat) :
    ∃ after, namer.assignMatch index template (values.map Scalar.text) target =
        (after, .ok index) ∧
      (∀ key ∈ template.keys, namer.Agree record after key) ∧
      ∀ address value, target.toValue.at? address = some value →
        ¬ namer.OnWay template.keys address → after.toValue.at? address = some value := by
  have hcarries := carries_of_values hvalues hsegments
  have hassign := assign_of_carries hschema hleads hrecord htarget hcarries
  have heffect := effect_of_assign hschema hleads htarget hassign
  rw [assignMatch]
  cases hresult : namer.assign (template.keys.zip (values.map Scalar.text)) target with
  | mk after result =>
      rw [hresult] at hassign heffect
      obtain rfl : result = .ok () := hassign
      refine ⟨after, rfl, ?_, ?_⟩
      · intro key hkey
        have hzip : (template.keys.zip (values.map Scalar.text)).map Prod.fst = template.keys :=
          List.map_fst_zip (by rw [List.length_map, length_values hvalues])
        rw [← hzip, List.mem_map] at hkey
        obtain ⟨pair, hpair, rfl⟩ := hkey
        exact read_of_carries hrecord hcarries heffect hpair
      · intro address value hvalue hoff
        apply heffect.kept address value hvalue
        rintro places ⟨pair, hpair, -, binding, leaf, hbinding, hlead⟩ halong
        exact hoff ⟨pair.1, (List.of_mem_zip hpair).1, binding, places, leaf, hbinding, hlead,
          halong⟩

/-- A text that is the name of a parent is matched by the first pattern that has a parent of the
same shape. -/
theorem matchParent?_of_tokens? (hset : namer.patterns.IsValid)
    (hpattern : pattern ∈ namer.patterns.toList) (hroot : pattern.isRoot = false)
    {tokens : List String} (htokens : pattern.parent.tokens? name = some tokens) :
    ∃ found ∈ namer.patterns.toList, namer.patterns.matchParent? name = some (found, tokens) ∧
      found.parent.shape = pattern.parent.shape ∧
      ∀ other ∈ namer.patterns.toList, other.parent.shape = pattern.parent.shape →
        found.index ≤ other.index :=
  hset.exists_first_of_shape
    (fun _ hmem => Template.validSegments_parent (hset.validSegments hmem)) hpattern
    (Pattern.isRoot_eq_false_iff.1 hroot) htokens

/-! ## The round trip -/

/-- **The name of a parent leads back to it.** The name that a pattern gives for the parent of a
record is not empty, and is matched by the first pattern whose parent has the same shape, as long as
no string in it has a separator, is the wildcard or is in braces. If that parent has the same keys,
the name can be parsed into any record, which agrees with the one that was formatted on the keys of
the parent, has the same name for its own parent, and keeps what is off the way to them. -/
theorem parseParent_formatParent [DecidableEq ι] {patterns : List String}
    {options : Namer.Options} (h : compile schema type patterns options = .ok namer)
    (hpattern : pattern ∈ namer.patterns.toList)
    (hname : namer.formatParent record (.ofInt pattern.index) = .ok name)
    (hstrings : ∀ key ∈ pattern.parent.keys, ∀ binding text,
      namer.bindings.get? key = some binding →
      schema.read binding.path record = .scalar (.string text) →
      Text.separator ∉ text.toList ∧ text ≠ Text.wildcard ∧ isBraced text = false) :
    name ≠ "" ∧
    ∃ found ∈ namer.patterns.toList, ∃ tokens,
      namer.patterns.matchParent? name = some (found, tokens) ∧
      found.isRoot = false ∧
      found.parent.shape = pattern.parent.shape ∧
      (∀ other ∈ namer.patterns.toList, other.parent.shape = pattern.parent.shape →
        found.index ≤ other.index) ∧
      (schema.IsDerived → schema.Typed type record →
        found.parent.keys = pattern.parent.keys →
        ∀ target, schema.Typed type target →
          ∃ after, namer.parseParent name target = (after, .ok found.index) ∧
            (∀ key ∈ pattern.parent.keys, namer.Agree record after key) ∧
            namer.formatParent after (.ofInt found.index) = .ok name ∧
            ∀ address value, target.toValue.at? address = some value →
              ¬ namer.OnWay pattern.parent.keys address →
              after.toValue.at? address = some value) := by
  have hset := patterns_isValid h
  obtain ⟨hroot, hfill⟩ := (formatParent_index_eq_ok_iff hset hpattern).1 hname
  have hvalid : ValidSegments pattern.parent.segments :=
    Template.validSegments_parent (hset.validSegments hpattern)
  have hne : pattern.parent.segments ≠ [] := Pattern.isRoot_eq_false_iff.1 hroot
  obtain ⟨values, hvalues, hsegments, hfilled⟩ := segments_of_fill hfill hstrings
  have htokens := tokens?_of_fill hvalid hne (length_values hvalues) hsegments hfilled
  obtain ⟨found, hfound, hmatch, hshape, hleast⟩ :=
    matchParent?_of_tokens? hset hpattern hroot htokens
  have hfoundRoot : found.isRoot = false := by
    rw [Pattern.isRoot_eq, hshape, ← Pattern.isRoot_eq, hroot]
  refine ⟨Template.ne_empty_of_tokens? hvalid hne htokens, found, hfound, _, hmatch, hfoundRoot,
    hshape, hleast, ?_⟩
  intro hschema hrecord hkeys target htarget
  rw [← hkeys] at hvalues ⊢
  obtain ⟨after, hassign, hagree, hkept⟩ :=
    assignMatch_of_values hschema (bindings_leadFrom hschema h) hrecord htarget hvalues
      (fun scalar hscalar => (hsegments scalar hscalar).1) found.index
  refine ⟨after, ?_, hagree, ?_, hkept⟩
  · rw [parseParent, hmatch]
    exact hassign
  · rw [formatParent_index_eq_ok_iff hset hfound]
    rw [hkeys] at hagree
    exact ⟨hfoundRoot, fill_of_agree hshape hkeys hagree hfill⟩

/-- A book that stood nowhere is put on a shelf below ground, and keeps its own name. -/
theorem parseParent_formatParent_shelved :
    ∃ after, Library.bookNamer.parseParent "floors/-1/shelves/a" (Library.schema.newRecord .book) =
        (after, .ok 2) ∧
      (∀ key ∈ ["floor", "shelf"],
        Library.bookNamer.Agree (Library.shelved "a" "b") after key) ∧
      Library.bookNamer.formatParent after (.ofInt 2) = .ok "floors/-1/shelves/a" ∧
      ∀ address value, (Library.schema.newRecord .book).toValue.at? address = some value →
        ¬ Library.bookNamer.OnWay ["floor", "shelf"] address →
        after.toValue.at? address = some value := by
  have hstrings : ∀ key ∈ Library.floorPattern.parent.keys, ∀ binding text,
      Library.bookNamer.bindings.get? key = some binding →
      Library.schema.read binding.path (Library.shelved "a" "b") = .scalar (.string text) →
      Text.separator ∉ text.toList ∧ text ≠ Text.wildcard ∧ isBraced text = false := by
    intro key hkey binding text hbinding hread
    have hkeys : key ∈ ["floor", "shelf"] := hkey
    rcases List.mem_pair.1 hkeys with rfl | rfl
    · cases hbinding
      cases hread
    · cases hbinding
      cases hread
      decide
  have hpattern : Library.floorPattern ∈ Library.bookNamer.patterns.toList := by decide
  have hname : Library.bookNamer.formatParent (Library.shelved "a" "b")
      (.ofInt Library.floorPattern.index) = .ok "floors/-1/shelves/a" := by decide +kernel
  obtain ⟨-, found, -, tokens, hmatch, -, -, -, hback⟩ :=
    parseParent_formatParent Library.compile_bookNamer hpattern hname hstrings
  have hfloor : Library.bookNamer.patterns.matchParent? "floors/-1/shelves/a" =
      some (Library.floorPattern, ["-1", "a"]) := by decide +kernel
  obtain ⟨rfl, rfl⟩ := Prod.mk.inj (Option.some.inj (hmatch.symm.trans hfloor))
  exact hback Library.isDerived_schema (Library.typed_shelved "a" "b") rfl _
    (Library.isDerived_schema.newRecord_typed .book)

end ResourceNames.Namer
