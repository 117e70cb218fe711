import Mathlib.Data.List.Induction
import Mathlib.Data.List.Nodup
import Mathlib.Data.List.Perm.Basic
import ResourceNames.Proofs.Declaration.Patterns
import ResourceNames.Proofs.Template.Segment

set_option autoImplicit false

/-! # Marks of a field

The attributes of a field are read item by item, and an item of keys part by part. What they say is
one list of marks, in which it cannot be seen where an attribute or an item ends. The first mark that
is at fault is reported; if there is none, the keys are those of the marks, each at its first place,
and the field is skipped if some mark says so. -/

namespace ResourceNames

/-! ## Distinct members -/

section

variable {α : Type} [DecidableEq α]

theorem eraseDups_concat (items : List α) (item : α) :
    (items ++ [item]).eraseDups =
      if item ∈ items then items.eraseDups else items.eraseDups ++ [item] := by
  rw [List.eraseDups_append]
  by_cases h : item ∈ items <;> simp [List.removeAll, h, List.eraseDups_cons]

theorem nodup_eraseDups (items : List α) : items.eraseDups.Nodup := by
  induction items using List.reverseRecOn with
  | nil => simp
  | append_singleton items item ih =>
      rw [eraseDups_concat]
      split
      · exact ih
      · next hnot =>
          rw [List.nodup_append]
          refine ⟨ih, List.nodup_singleton item, fun other hother last hlast => ?_⟩
          rintro rfl
          rw [List.mem_singleton] at hlast
          exact hnot (hlast ▸ List.mem_eraseDups.1 hother)

theorem eraseDups_perm {items others : List α} (h : items.Perm others) :
    items.eraseDups.Perm others.eraseDups :=
  (List.perm_ext_iff_of_nodup (nodup_eraseDups _) (nodup_eraseDups _)).2 fun item => by
    rw [List.mem_eraseDups, List.mem_eraseDups, h.mem_iff]

end

/-! ## What the items say -/

/-- One thing that an item says of its field. -/
inductive FieldMark
  | key (part : String)
  | skip
  /-- Nothing that a field can be told. -/
  | other (item : AttributeItem)
deriving DecidableEq

namespace FieldMark

/-- The key that a mark gives. -/
def part? : FieldMark → Option String
  | .key part => some part
  | _ => none

/-- What is wrong with a mark. -/
def fault? : FieldMark → Option DeclarationError
  | .key part => if isVariableKey part then none else some (.invalidKey part)
  | .skip => none
  | .other item =>
    match FieldSettings.empty.add item with
    | .ok _ => none
    | .error error => some error

end FieldMark

/-- The item that marks a field as skipped. -/
def AttributeItem.skip : AttributeItem :=
  ⟨"skip", none⟩

/-- The marks that an item amounts to. -/
def AttributeItem.fieldMarks (item : AttributeItem) : List FieldMark :=
  match item.text? "key" with
  | some text => (keyParts text).map .key
  | none => if item = .skip then [.skip] else [.other item]

/-- The marks of all items. -/
def marksOf (items : List AttributeItem) : List FieldMark :=
  items.flatMap AttributeItem.fieldMarks

/-- The keys that marks give, in order. -/
def partsOf (marks : List FieldMark) : List String :=
  marks.filterMap FieldMark.part?

theorem marksOf_cons (item : AttributeItem) (items : List AttributeItem) :
    marksOf (item :: items) = item.fieldMarks ++ marksOf items :=
  List.flatMap_cons

theorem partsOf_append (marks others : List FieldMark) :
    partsOf (marks ++ others) = partsOf marks ++ partsOf others :=
  List.filterMap_append

theorem keyParts_ne_nil (text : String) : keyParts text ≠ [] := by
  simp [keyParts]

namespace AttributeItem

variable {item : AttributeItem}

theorem eq_of_text?_eq_some {word text : String} (h : item.text? word = some text) :
    item = ⟨word, some (.text text)⟩ := by
  obtain ⟨rfl, hvalue⟩ := text?_eq_some_iff.1 h
  cases item
  cases hvalue
  rfl

theorem fieldMarks_of_text {text : String} (h : item.text? "key" = some text) :
    item.fieldMarks = (keyParts text).map .key := by
  rw [fieldMarks, h]

theorem fieldMarks_skip : skip.fieldMarks = [.skip] := by
  decide

theorem fieldMarks_other (htext : item.text? "key" = none) (hskip : item ≠ skip) :
    item.fieldMarks = [.other item] := by
  rw [fieldMarks, htext]
  exact if_neg hskip

/-- What an item is: keys, the mark of a skipped field, or neither. -/
theorem field_cases (item : AttributeItem) :
    (∃ text, item.text? "key" = some text) ∨ item = skip ∨
      (item.text? "key" = none ∧ item ≠ skip) := by
  cases htext : item.text? "key" with
  | some text => exact .inl ⟨text, rfl⟩
  | none => by_cases hskip : item = skip <;> simp [hskip]

end AttributeItem

namespace FieldSettings

variable {settings result : FieldSettings}

/-- What a mark adds. -/
def note (settings : FieldSettings) : FieldMark → FieldSettings
  | .key part =>
    { settings with keys := if part ∈ settings.keys then settings.keys else settings.keys ++ [part] }
  | .skip => { settings with skipped := true }
  | .other _ => settings

/-- Takes in marks, unless one of them is at fault. -/
def readMarks (settings : FieldSettings) (marks : List FieldMark) :
    Except DeclarationError FieldSettings :=
  match marks.findSome? FieldMark.fault? with
  | some fault => .error fault
  | none => .ok (marks.foldl note settings)

theorem readMarks_of_fault {mark : FieldMark} {fault : DeclarationError}
    (h : mark.fault? = some fault) (settings : FieldSettings) (rest : List FieldMark) :
    settings.readMarks (mark :: rest) = .error fault := by
  simp only [readMarks, List.findSome?_cons, h]

theorem readMarks_of_sound {mark : FieldMark} (h : mark.fault? = none) (settings : FieldSettings)
    (rest : List FieldMark) :
    settings.readMarks (mark :: rest) = (settings.note mark).readMarks rest := by
  simp only [readMarks, List.findSome?_cons, h, List.foldl_cons]

theorem readMarks_append (settings : FieldSettings) (marks others : List FieldMark) :
    settings.readMarks (marks ++ others) =
      settings.readMarks marks >>= fun next => next.readMarks others := by
  simp only [readMarks, List.findSome?_append, List.foldl_append]
  cases marks.findSome? FieldMark.fault? <;> rfl

theorem addKeys_eq_readMarks (settings : FieldSettings) (parts : List String) :
    (do
      let keys ← addKeys settings.keys parts
      .ok { settings with keys := keys }) = settings.readMarks (parts.map .key) := by
  induction parts generalizing settings with
  | nil => rfl
  | cons part rest ih =>
      rw [addKeys, List.map_cons]
      by_cases hkey : isVariableKey part = true
      · have hsound : (FieldMark.key part).fault? = none := if_pos hkey
        rw [if_pos hkey, readMarks_of_sound hsound]
        exact ih (settings.note (.key part))
      · have hfault : (FieldMark.key part).fault? = some (.invalidKey part) := if_neg hkey
        rw [if_neg hkey, readMarks_of_fault hfault]
        rfl

/-- What is neither keys nor the mark of a skipped field is refused, whatever came before it. -/
theorem add_other {item : AttributeItem} (htext : item.text? "key" = none)
    (hskip : item ≠ .skip) (settings : FieldSettings) :
    ∃ fault, (FieldMark.other item).fault? = some fault ∧ settings.add item = .error fault := by
  have hrefused : ∃ fault, ∀ settings : FieldSettings, settings.add item = .error fault := by
    simp only [add]
    by_cases hkey : item.word = "key"
    · rw [AttributeItem.text?, if_pos hkey] at htext
      cases hvalue : item.text with
      | ok text => simp [hvalue, Except.toOption] at htext
      | error fault => exact ⟨fault, fun settings => by rw [if_pos hkey]; rfl⟩
    · by_cases hword : item.word = "skip"
      · have hvalue : item.value.isSome = true := by
          refine Option.isSome_iff_ne_none.2 fun hnone => hskip ?_
          cases item
          simp_all [AttributeItem.skip]
        exact ⟨.unexpectedValue, fun settings => by simp [hword, hvalue]⟩
      · exact ⟨.unknownFieldAttribute, fun settings => by simp [hkey, hword]⟩
  obtain ⟨fault, hfault⟩ := hrefused
  exact ⟨fault, by rw [FieldMark.fault?, hfault], hfault settings⟩

/-- **Taking in an item is taking in its marks.** -/
theorem add_eq_readMarks (settings : FieldSettings) (item : AttributeItem) :
    settings.add item = settings.readMarks item.fieldMarks := by
  rcases item.field_cases with ⟨text, htext⟩ | rfl | ⟨htext, hskip⟩
  · obtain rfl := AttributeItem.eq_of_text?_eq_some htext
    rw [AttributeItem.fieldMarks_of_text htext, ← addKeys_eq_readMarks]
    rfl
  · rfl
  · obtain ⟨fault, hmark, hadd⟩ := add_other htext hskip settings
    rw [hadd, AttributeItem.fieldMarks_other htext hskip, readMarks_of_fault hmark]

theorem foldlM_add_eq_readMarks (settings : FieldSettings) (items : List AttributeItem) :
    items.foldlM add settings = settings.readMarks (marksOf items) := by
  induction items generalizing settings with
  | nil => rfl
  | cons item rest ih =>
      rw [List.foldlM_cons, marksOf_cons, readMarks_append, add_eq_readMarks]
      simp only [ih]

/-- What marks say of a field, if none is at fault: each key once, at its first place. -/
theorem foldl_note (marks : List FieldMark) :
    marks.foldl note empty = ⟨(partsOf marks).eraseDups, decide (.skip ∈ marks)⟩ := by
  induction marks using List.reverseRecOn with
  | nil => rfl
  | append_singleton marks mark ih =>
      rw [List.foldl_append, ih, partsOf_append]
      cases mark with
      | key part =>
          have hparts : partsOf [.key part] = [part] := rfl
          simp [note, hparts, eraseDups_concat, List.mem_eraseDups]
      | skip =>
          have hparts : partsOf [.skip] = [] := rfl
          simp [note, hparts]
      | other item =>
          have hparts : partsOf [.other item] = [] := rfl
          simp [note, hparts]

end FieldSettings

/-! ## What is accepted -/

/-- Whether an item gives keys, all of them well formed, or marks the field as skipped. -/
def AttributeItem.IsOfField (item : AttributeItem) : Prop :=
  item = .skip ∨ ∃ text, item = ⟨"key", some (.text text)⟩ ∧ ∀ part ∈ keyParts text, IsKey part

/-- Items that give keys or mark the field as skipped, and not both. -/
structure AreOfField (items : List AttributeItem) : Prop where
  isOfField : ∀ item ∈ items, item.IsOfField
  textsOf_eq_nil : .skip ∈ items → textsOf "key" items = []

/-- The keys that attributes of a field declare, in order: of the parts of all texts, each at its
    first place. -/
def declaredKeys (tool : String) (attributes : List Attribute) : List String :=
  ((textsOf "key" (itemsFor tool attributes)).flatMap keyParts).eraseDups

/-- Whether attributes of a field mark it as skipped. -/
def declaredSkipped (tool : String) (attributes : List Attribute) : Bool :=
  .skip ∈ itemsFor tool attributes

section

variable {items : List AttributeItem}

theorem AttributeItem.fault?_eq_none_iff {item : AttributeItem} :
    (∀ mark ∈ item.fieldMarks, mark.fault? = none) ↔ item.IsOfField := by
  have hpart : ∀ part, (FieldMark.key part).fault? = none ↔ IsKey part := fun part => by
    rw [← isVariableKey_iff, FieldMark.fault?]
    split <;> simp [*]
  rw [IsOfField]
  rcases item.field_cases with ⟨text, htext⟩ | rfl | ⟨htext, hskip⟩
  · rw [fieldMarks_of_text htext]
    obtain rfl := eq_of_text?_eq_some htext
    simp [hpart, skip]
  · simp [fieldMarks_skip, FieldMark.fault?]
  · obtain ⟨fault, hmark, -⟩ := FieldSettings.add_other htext hskip .empty
    rw [fieldMarks_other htext hskip]
    simp only [List.mem_singleton, forall_eq, hmark, reduceCtorEq, hskip, false_or, false_iff]
    rintro ⟨written, rfl, -⟩
    exact absurd htext (by simp [text?, text, Except.toOption])

theorem fault?_marksOf_iff :
    (∀ mark ∈ marksOf items, mark.fault? = none) ↔ ∀ item ∈ items, item.IsOfField := by
  simp only [← AttributeItem.fault?_eq_none_iff, marksOf, List.mem_flatMap]
  grind

theorem AttributeItem.skip_mem_fieldMarks_iff {item : AttributeItem} :
    .skip ∈ item.fieldMarks ↔ item = .skip := by
  rcases item.field_cases with ⟨text, htext⟩ | rfl | ⟨htext, hskip⟩
  · rw [fieldMarks_of_text htext]
    obtain rfl := eq_of_text?_eq_some htext
    simp [skip]
  · simp [fieldMarks_skip]
  · simp [fieldMarks_other htext hskip, hskip]

theorem skip_mem_marksOf_iff : .skip ∈ marksOf items ↔ .skip ∈ items := by
  simp only [marksOf, List.mem_flatMap, AttributeItem.skip_mem_fieldMarks_iff, exists_eq_right]

theorem AttributeItem.partsOf_fieldMarks (item : AttributeItem) :
    partsOf item.fieldMarks = (item.text? "key").toList.flatMap keyParts := by
  have hkeys : ∀ parts : List String, partsOf (parts.map .key) = parts := fun parts => by
    rw [partsOf, List.filterMap_map]
    exact List.filterMap_some
  rcases item.field_cases with ⟨text, htext⟩ | rfl | ⟨htext, hskip⟩
  · rw [fieldMarks_of_text htext, htext, hkeys]
    simp
  · rfl
  · rw [fieldMarks_other htext hskip, htext]
    rfl

theorem partsOf_marksOf (items : List AttributeItem) :
    partsOf (marksOf items) = (textsOf "key" items).flatMap keyParts := by
  induction items with
  | nil => rfl
  | cons item rest ih =>
      rw [marksOf_cons, partsOf_append, ih, textsOf_cons, List.flatMap_append,
        AttributeItem.partsOf_fieldMarks]

theorem partsOf_marksOf_eq_nil_iff : partsOf (marksOf items) = [] ↔ textsOf "key" items = [] := by
  rw [partsOf_marksOf, List.flatMap_eq_nil_iff]
  simp only [keyParts_ne_nil, imp_false]
  exact List.eq_nil_iff_forall_not_mem.symm

/-- What is accepted can be told of the marks. -/
theorem areOfField_iff :
    AreOfField items ↔ (∀ mark ∈ marksOf items, mark.fault? = none) ∧
      (.skip ∈ marksOf items → partsOf (marksOf items) = []) := by
  rw [fault?_marksOf_iff, skip_mem_marksOf_iff, partsOf_marksOf_eq_nil_iff]
  exact ⟨fun h => ⟨h.isOfField, h.textsOf_eq_nil⟩, fun h => ⟨h.1, h.2⟩⟩

end

namespace FieldSettings

/-- **Reading the attributes of a field.** The first mark at fault is reported, and then that a
skipped field has keys. -/
theorem ofAttributes_eq (tool : String) (attributes : List Attribute) :
    ofAttributes tool attributes =
      (empty.readMarks (marksOf (itemsFor tool attributes)) >>= fun settings =>
        if settings.skipped && !settings.keys.isEmpty then .error .skippedWithKeys
        else .ok settings) := by
  rw [ofAttributes, foldlM_add_eq_readMarks]

/-- **Which attributes of a field are accepted, and what they say.** -/
theorem ofAttributes_eq_ok_iff {tool : String} {attributes : List Attribute}
    {settings : FieldSettings} :
    ofAttributes tool attributes = .ok settings ↔
      AreOfField (itemsFor tool attributes) ∧
        settings = ⟨declaredKeys tool attributes, declaredSkipped tool attributes⟩ := by
  have hnotes : (marksOf (itemsFor tool attributes)).foldl note empty =
      ⟨declaredKeys tool attributes, declaredSkipped tool attributes⟩ := by
    simp only [foldl_note, declaredKeys, partsOf_marksOf, declaredSkipped, skip_mem_marksOf_iff]
  have hkeys : declaredKeys tool attributes = [] ↔
      partsOf (marksOf (itemsFor tool attributes)) = [] := by
    simp only [declaredKeys, ← partsOf_marksOf, List.eq_nil_iff_forall_not_mem, List.mem_eraseDups]
  have hboth : (declaredSkipped tool attributes && !(declaredKeys tool attributes).isEmpty) = true ↔
      ¬(.skip ∈ marksOf (itemsFor tool attributes) →
        partsOf (marksOf (itemsFor tool attributes)) = []) := by
    simp [declaredSkipped, skip_mem_marksOf_iff, hkeys]
  rw [ofAttributes_eq, readMarks, areOfField_iff, ← List.findSome?_eq_none_iff]
  cases (marksOf (itemsFor tool attributes)).findSome? FieldMark.fault? with
  | some fault => simp [bind, Except.bind]
  | none =>
      simp only [hnotes, bind, Except.bind, hboth]
      split
      · next hskipped => simp [hskipped]
      · next hskipped =>
          rw [and_iff_right ⟨trivial, not_not.1 hskipped⟩, Except.ok.injEq, eq_comm]

end FieldSettings

/-! ## Marks in another order -/

theorem findSome?_fault?_filter_skip (marks : List FieldMark) :
    (marks.filter (· ≠ .skip)).findSome? FieldMark.fault? = marks.findSome? FieldMark.fault? := by
  induction marks with
  | nil => rfl
  | cons mark rest ih => cases mark <;> simp [List.findSome?_cons, FieldMark.fault?, ← ih]

theorem partsOf_filter_skip (marks : List FieldMark) :
    partsOf (marks.filter (· ≠ .skip)) = partsOf marks := by
  rw [partsOf, List.filterMap_filter]
  refine List.filterMap_congr fun mark _ => ?_
  cases mark <;> rfl

section

variable {tool : String} {attributes others : List Attribute}

/-- **It does not matter where a field is marked as skipped, nor how its attributes are grouped.**
Attributes with the same marks but for those are read alike, faults included. -/
theorem FieldSettings.ofAttributes_congr
    (hmarks : (marksOf (itemsFor tool others)).filter (· ≠ .skip) =
      (marksOf (itemsFor tool attributes)).filter (· ≠ .skip))
    (hskip : .skip ∈ marksOf (itemsFor tool others) ↔
      .skip ∈ marksOf (itemsFor tool attributes)) :
    ofAttributes tool others = ofAttributes tool attributes := by
  have hread : empty.readMarks (marksOf (itemsFor tool others)) =
      empty.readMarks (marksOf (itemsFor tool attributes)) := by
    simp only [readMarks, foldl_note, hskip]
    rw [← findSome?_fault?_filter_skip, hmarks, findSome?_fault?_filter_skip,
      ← partsOf_filter_skip, hmarks, partsOf_filter_skip]
  rw [ofAttributes_eq, ofAttributes_eq, hread]

theorem areOfField_congr {items others : List AttributeItem}
    (h : (marksOf others).Perm (marksOf items)) : AreOfField others ↔ AreOfField items := by
  have hparts : partsOf (marksOf others) = [] ↔ partsOf (marksOf items) = [] := by
    have hperm : (partsOf (marksOf others)).Perm (partsOf (marksOf items)) := h.filterMap _
    constructor <;> intro hnil
    · exact (hnil ▸ hperm).nil_eq.symm
    · exact List.Perm.eq_nil (hnil ▸ hperm)
  simp only [areOfField_iff, h.mem_iff, hparts]

theorem declaredKeys_perm
    (h : (marksOf (itemsFor tool others)).Perm (marksOf (itemsFor tool attributes))) :
    (declaredKeys tool others).Perm (declaredKeys tool attributes) := by
  rw [declaredKeys, declaredKeys, ← partsOf_marksOf, ← partsOf_marksOf]
  exact eraseDups_perm (h.filterMap _)

theorem declaredSkipped_congr
    (h : (marksOf (itemsFor tool others)).Perm (marksOf (itemsFor tool attributes))) :
    declaredSkipped tool others = declaredSkipped tool attributes := by
  simp only [declaredSkipped, ← skip_mem_marksOf_iff, h.mem_iff]

end

end ResourceNames
