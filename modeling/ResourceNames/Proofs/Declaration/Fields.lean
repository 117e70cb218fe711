import Mathlib.Data.List.Forall2
import ResourceNames.Proofs.Declaration.Marks
import ResourceNames.Record.Access

set_option autoImplicit false

/-! # Declared fields and their table

A declaration that is accepted gives a table of its fields, a list of the fields that are stored, and
accessors for reading and for writing. Each is made by a walk of its own over the declared fields, and
each walk leaves out the skipped ones by itself. That they agree is said here of one list, in which
every field of the table stands with its position among the declared ones. -/

namespace ResourceNames

variable {τ ι : Type}

/-! ## Places of the table -/

namespace RecordField

/-- The fields of the table with their positions, where the first field has position `start`. -/
def placesFrom (start : Nat) (fields : List (RecordField τ)) : List (RecordField τ × Nat) :=
  (fields.zipIdx start).filter fun member => !member.1.skipped

theorem place?_map_add (fields : List (RecordField τ)) (index start : Nat) :
    (place? fields index).map (· + start) = (placesFrom start fields)[index]?.map Prod.snd := by
  induction fields generalizing index start with
  | nil => rfl
  | cons field rest ih =>
      have hrest : ∀ index, ((place? rest index).map (· + 1)).map (· + start) =
          (placesFrom (start + 1) rest)[index]?.map Prod.snd := fun index => by
        rw [← ih index (start + 1), Option.map_map]
        congr 1
        funext position
        simp only [Function.comp_apply]
        omega
      by_cases hskip : field.skipped = true
      · have hplaces : placesFrom start (field :: rest) = placesFrom (start + 1) rest := by
          simp [placesFrom, hskip]
        rw [hplaces, ← hrest, place?.eq_def]
        simp [hskip]
      · have hplaces : placesFrom start (field :: rest) =
            (field, start) :: placesFrom (start + 1) rest := by
          simp [placesFrom, hskip]
        rw [hplaces]
        cases index with
        | zero => simp [place?, hskip]
        | succ index => simp [place?, hskip, ← hrest]

theorem place?_eq (fields : List (RecordField τ)) (index : Nat) :
    place? fields index = (placesFrom 0 fields)[index]?.map Prod.snd := by
  simpa using place?_map_add fields index 0

theorem table_eq (fields : List (RecordField τ)) :
    table fields = (placesFrom 0 fields).map Prod.fst := by
  have hstart : ∀ start, table fields = (placesFrom start fields).map Prod.fst := by
    intro start
    have hfields : fields = (fields.zipIdx start).map Prod.fst := by simp
    rw [placesFrom, table]
    conv_lhs => rw [hfields]
    rw [List.filter_map]
    rfl
  exact hstart 0

end RecordField

/-! ## What is accepted -/

namespace FieldDeclaration

/-- What a field is declared as. -/
def described (tool : String) (field : FieldDeclaration τ) : RecordField τ :=
  ⟨field.name, declaredKeys tool field.attributes, declaredSkipped tool field.attributes, field.type⟩

/-- The entry in the table of a field that is not skipped. -/
def entry (tool : String) (field : FieldDeclaration (FieldType ι)) : FieldEntry ι :=
  ⟨plainName field.name, declaredKeys tool field.attributes, field.type.shape⟩

theorem read_eq_ok_iff {tool : String} {field : FieldDeclaration τ} {result : RecordField τ} :
    field.read tool = .ok result ↔
      AreOfField (itemsFor tool field.attributes) ∧ result = field.described tool := by
  rw [read, bind_eq_ok_iff]
  simp only [FieldSettings.ofAttributes_eq_ok_iff]
  constructor
  · rintro ⟨settings, ⟨hitems, rfl⟩, hresult⟩
    exact ⟨hitems, (Except.ok.inj hresult).symm⟩
  · rintro ⟨hitems, rfl⟩
    exact ⟨_, ⟨hitems, rfl⟩, rfl⟩

theorem mapM_read_eq_ok_iff {tool : String} {fields : List (FieldDeclaration τ)}
    {results : List (RecordField τ)} :
    fields.mapM (read tool) = .ok results ↔
      (∀ field ∈ fields, AreOfField (itemsFor tool field.attributes)) ∧
        results = fields.map (described tool) := by
  rw [mapM_eq_ok_iff]
  induction fields generalizing results with
  | nil => simp [eq_comm]
  | cons field rest ih =>
      cases results with
      | nil => simp
      | cons result results => simp [read_eq_ok_iff, ih, and_assoc, and_left_comm]

end FieldDeclaration

namespace Declaration

/-- The fields of a struct. -/
def members (declaration : Declaration τ) : List (FieldDeclaration τ) :=
  match declaration.kind with
  | .struct => declaration.fields
  | _ => []

/-- The fields that are not skipped, with their positions among all fields. -/
def listed (tool : String) (declaration : Declaration τ) : List (FieldDeclaration τ × Nat) :=
  declaration.members.zipIdx.filter fun member => !declaredSkipped tool member.1.attributes

theorem placesFrom_described (tool : String) (declaration : Declaration τ) :
    RecordField.placesFrom 0 (declaration.members.map (FieldDeclaration.described tool)) =
      (declaration.listed tool).map fun member => (member.1.described tool, member.2) := by
  rw [RecordField.placesFrom, List.zipIdx_map, List.filter_map]
  rfl

theorem recordFields_eq_ok_iff {declaration : Declaration τ}
    {declared : List (FieldDeclaration τ)} :
    declaration.recordFields = .ok declared ↔
      (declaration.kind = .struct ∨ declaration.kind = .unit) ∧ declared = declaration.members := by
  rw [recordFields, members]
  cases declaration.kind <;> simp [eq_comm]

theorem derive_eq_ok_iff {tool : String} {declaration : Declaration τ} {settings : StructSettings}
    (h : StructSettings.ofAttributes tool declaration.attributes = .ok settings)
    {derivation : Derivation τ} :
    declaration.derive tool = .ok derivation ↔
      ((declaration.kind = .struct ∨ declaration.kind = .unit) ∧
        ∀ field ∈ declaration.members, AreOfField (itemsFor tool field.attributes)) ∧
      derivation = ⟨declaration.members.map (FieldDeclaration.described tool),
        settings.toResource? declaration.name⟩ := by
  rw [derive, h]
  simp only [bind_eq_ok_iff, recordFields_eq_ok_iff, FieldDeclaration.mapM_read_eq_ok_iff,
    Except.ok.injEq]
  constructor
  · rintro ⟨_, rfl, _, ⟨hkind, rfl⟩, _, ⟨hfields, rfl⟩, hresult⟩
    exact ⟨⟨hkind, hfields⟩, (Except.ok.inj hresult).symm⟩
  · rintro ⟨⟨hkind, hfields⟩, rfl⟩
    exact ⟨_, rfl, _, ⟨hkind, rfl⟩, _, ⟨hfields, rfl⟩, rfl⟩

end Declaration

/-! ## The record type -/

/-- A record type with the table and the accessors that a declaration gives it: all fields are
    stored, those that are not skipped are listed, and an index reads and writes the field that is
    listed there. -/
structure Declaration.Tabulates (tool : String) (declaration : Declaration (FieldType ι))
    (type : RecordType ι) : Prop where
  stored : type.stored = declaration.members.map FieldDeclaration.type
  table : type.table = (declaration.listed tool).map fun member => member.1.entry tool
  field : ∀ (schema : Schema ι) (record : Record ι), schema.record record.type = type →
    ∀ index, schema.field record index =
      (declaration.listed tool)[index]?.bind fun member => record.fields[member.2]?.map Value.slot
  fieldTarget : ∀ (schema : Schema ι) (record : Record ι), schema.record record.type = type →
    ∀ index, schema.fieldTarget record index =
      (declaration.listed tool)[index]?.bind fun member =>
        record.fields[member.2]?.map fun value => (schema.allocate value).target

theorem Declaration.tabulates_derived (tool : String) (declaration : Declaration (FieldType ι))
    (name : String) (initial : List (Value ι)) :
    declaration.Tabulates tool
      (.derived name (declaration.members.map (FieldDeclaration.described tool)) initial) := by
  have hplace : ∀ index, RecordField.place?
      (declaration.members.map (FieldDeclaration.described tool)) index =
        (declaration.listed tool)[index]?.map Prod.snd := fun index => by
    rw [RecordField.place?_eq, placesFrom_described, List.getElem?_map, Option.map_map]
    rfl
  constructor
  · simp only [RecordType.derived, List.map_map]
    rfl
  · simp only [RecordType.derived, RecordField.table_eq, placesFrom_described, List.map_map]
    rfl
  · intro schema record htype index
    simp only [Schema.field, htype, RecordType.derived, hplace]
    cases (declaration.listed tool)[index]? <;> rfl
  · intro schema record htype index
    simp only [Schema.fieldTarget, htype, RecordType.derived, hplace]
    cases (declaration.listed tool)[index]? <;> rfl

/-! ## Marks in another order -/

/-- The same field but for how its marks are grouped into attributes and items, and where among the
    keys it is marked as skipped. -/
structure FieldDeclaration.Regrouped (tool : String) (field other : FieldDeclaration τ) : Prop where
  name_eq : other.name = field.name
  type_eq : other.type = field.type
  marks_eq : (marksOf (itemsFor tool other.attributes)).filter (· ≠ .skip) =
    (marksOf (itemsFor tool field.attributes)).filter (· ≠ .skip)
  skip_iff : .skip ∈ marksOf (itemsFor tool other.attributes) ↔
    .skip ∈ marksOf (itemsFor tool field.attributes)

/-- The same field but for how its marks are grouped and ordered. -/
structure FieldDeclaration.Rearranged (tool : String) (field other : FieldDeclaration τ) : Prop where
  name_eq : other.name = field.name
  type_eq : other.type = field.type
  marks_perm : (marksOf (itemsFor tool other.attributes)).Perm
    (marksOf (itemsFor tool field.attributes))

/-- The same field but for the order of its keys. -/
structure RecordField.SameButKeyOrder (field other : RecordField τ) : Prop where
  name_eq : other.name = field.name
  keys_perm : other.keys.Perm field.keys
  skipped_eq : other.skipped = field.skipped
  type_eq : other.type = field.type

/-- The same declaration but for its fields, which are related in pairs. -/
structure Declaration.Alike (related : FieldDeclaration τ → FieldDeclaration τ → Prop)
    (declaration other : Declaration τ) : Prop where
  kind_eq : other.kind = declaration.kind
  name_eq : other.name = declaration.name
  attributes_eq : other.attributes = declaration.attributes
  fields : List.Forall₂ related declaration.fields other.fields

section

variable {tool : String} {declaration other : Declaration τ}

theorem Declaration.Alike.members {related : FieldDeclaration τ → FieldDeclaration τ → Prop}
    (h : declaration.Alike related other) :
    List.Forall₂ related declaration.members other.members := by
  rw [Declaration.members, Declaration.members, h.kind_eq]
  cases declaration.kind
  case struct => exact h.fields
  all_goals exact .nil

theorem FieldDeclaration.Regrouped.read_eq {field other : FieldDeclaration τ}
    (h : field.Regrouped tool other) : other.read tool = field.read tool := by
  rw [read, read, FieldSettings.ofAttributes_congr h.marks_eq h.skip_iff, h.name_eq, h.type_eq]

theorem mapM_read_congr {fields others : List (FieldDeclaration τ)}
    (h : List.Forall₂ (FieldDeclaration.Regrouped tool) fields others) :
    others.mapM (FieldDeclaration.read tool) = fields.mapM (FieldDeclaration.read tool) := by
  induction h with
  | nil => rfl
  | cons hfield _ ih => rw [List.mapM_cons, List.mapM_cons, hfield.read_eq, ih]

theorem Declaration.Alike.derive_eq
    (h : declaration.Alike (FieldDeclaration.Regrouped tool) other) :
    other.derive tool = declaration.derive tool := by
  rw [derive, derive, recordFields, recordFields, h.kind_eq, h.name_eq, h.attributes_eq]
  cases declaration.kind
  case struct =>
    have hread := mapM_read_congr h.fields
    simp only [bind, Except.bind, hread]
  all_goals rfl

theorem forall_areOfField_congr {fields others : List (FieldDeclaration τ)}
    (h : List.Forall₂ (FieldDeclaration.Rearranged tool) fields others) :
    (∀ field ∈ others, AreOfField (itemsFor tool field.attributes)) ↔
      ∀ field ∈ fields, AreOfField (itemsFor tool field.attributes) := by
  induction h with
  | nil => simp
  | cons hfield _ ih =>
      rw [List.forall_mem_cons, List.forall_mem_cons, ih, areOfField_congr hfield.marks_perm]

theorem FieldDeclaration.Rearranged.described {field other : FieldDeclaration τ}
    (h : field.Rearranged tool other) :
    (field.described tool).SameButKeyOrder (other.described tool) where
  name_eq := h.name_eq
  keys_perm := declaredKeys_perm h.marks_perm
  skipped_eq := declaredSkipped_congr h.marks_perm
  type_eq := h.type_eq

end

/-! ## What a declaration of a record type amounts to -/

/-- **Which declarations are accepted, and what table they give.** If the attributes of the type are
in order, it takes a struct, with named fields or without any, whose fields are each given keys or
skipped. The table and the accessors are those of the fields that are not skipped. Neither depends
on how the marks of a field are grouped, and their order shows in that of the keys alone. -/
theorem Declaration.derive_fields (tool : String) (declaration : Declaration (FieldType ι))
    (settings : StructSettings)
    (h : StructSettings.ofAttributes tool declaration.attributes = .ok settings) :
    ((∃ derivation, declaration.derive tool = .ok derivation) ↔
      (declaration.kind = .struct ∨ declaration.kind = .unit) ∧
        ∀ field ∈ declaration.members, AreOfField (itemsFor tool field.attributes)) ∧
    (∀ derivation, declaration.derive tool = .ok derivation → ∀ name initial,
      declaration.Tabulates tool (.derived name derivation.fields initial)) ∧
    ∀ other : Declaration (FieldType ι),
      (declaration.Alike (FieldDeclaration.Regrouped tool) other →
        other.derive tool = declaration.derive tool) ∧
      (declaration.Alike (FieldDeclaration.Rearranged tool) other →
        ((∃ derivation, other.derive tool = .ok derivation) ↔
          ∃ derivation, declaration.derive tool = .ok derivation) ∧
        ∀ derivation rearranged, declaration.derive tool = .ok derivation →
          other.derive tool = .ok rearranged →
          rearranged.resource = derivation.resource ∧
            List.Forall₂ RecordField.SameButKeyOrder derivation.fields rearranged.fields) := by
  refine ⟨by simp only [derive_eq_ok_iff h, exists_and_left, exists_eq, and_true], ?_, ?_⟩
  · intro derivation hderive name initial
    obtain ⟨-, rfl⟩ := (derive_eq_ok_iff h).1 hderive
    exact tabulates_derived tool declaration name initial
  · intro other
    refine ⟨Alike.derive_eq, fun halike => ?_⟩
    have hother : StructSettings.ofAttributes tool other.attributes = .ok settings :=
      halike.attributes_eq ▸ h
    constructor
    · simp only [derive_eq_ok_iff h, derive_eq_ok_iff hother, exists_and_left, exists_eq, and_true,
        halike.kind_eq, forall_areOfField_congr halike.members]
    · intro derivation rearranged hderive hrearranged
      obtain ⟨-, rfl⟩ := (derive_eq_ok_iff h).1 hderive
      obtain ⟨-, rfl⟩ := (derive_eq_ok_iff hother).1 hrearranged
      refine ⟨by rw [halike.name_eq], ?_⟩
      rw [List.forall₂_map_left_iff, List.forall₂_map_right_iff]
      exact halike.members.imp fun _ _ => FieldDeclaration.Rearranged.described

namespace Library

/-- A note with a skipped field before the others, and a field with a reserved word for its name and
    the given attributes. -/
def noteDeclaration (attributes : List Attribute) : Declaration (FieldType Kind) where
  kind := .struct
  name := "Note"
  attributes := []
  fields := [⟨"draft", .scalar .string, [⟨"resname", [.skip]⟩]⟩,
    ⟨"r#type", .scalar .string, attributes⟩,
    ⟨"shelf", .optional (.boxed (.record .shelf)), []⟩]

/-- Three keys, one of them given twice, and attributes for something else between them. -/
def noteKeys : List Attribute :=
  [⟨"resname", [⟨"key", some (.text "kind, sort")⟩]⟩, ⟨"catalogue", [⟨"key", some .number⟩]⟩,
    ⟨"resname", [⟨"key", some (.text "sort,form")⟩]⟩]

/-- The same keys, in one attribute and in another order. -/
def noteKeysTogether : List Attribute :=
  [⟨"resname", [⟨"key", some (.text "form, sort")⟩, ⟨"key", some (.text "sort")⟩,
    ⟨"key", some (.text "kind")⟩]⟩]

end Library

theorem Declaration.derive_fields_note :
    StructSettings.ofAttributes "resname" (Library.noteDeclaration Library.noteKeys).attributes =
        .ok .empty ∧
      (∃ derivation, (Library.noteDeclaration Library.noteKeys).derive "resname" = .ok derivation ∧
        ∀ name initial, (Library.noteDeclaration Library.noteKeys).Tabulates "resname"
          (.derived name derivation.fields initial)) ∧
      ((Library.noteDeclaration Library.noteKeys).listed "resname").map
          (fun member => (member.1.entry "resname", member.2)) =
        [(⟨"type", ["kind", "sort", "form"], .scalar .string false⟩, 1),
          (⟨"shelf", [], .record .shelf true⟩, 2)] ∧
      ∃ derivation, (Library.noteDeclaration Library.noteKeysTogether).derive "resname" =
        .ok derivation := by
  have hsettings : StructSettings.ofAttributes "resname"
      (Library.noteDeclaration Library.noteKeys).attributes = .ok .empty := rfl
  have hderive : (Library.noteDeclaration Library.noteKeys).derive "resname" =
      .ok ⟨[⟨"draft", [], true, .scalar .string⟩,
        ⟨"r#type", ["kind", "sort", "form"], false, .scalar .string⟩,
        ⟨"shelf", [], false, .optional (.boxed (.record .shelf))⟩], none⟩ := by
    decide +kernel
  have halike : (Library.noteDeclaration Library.noteKeys).Alike
      (FieldDeclaration.Rearranged "resname")
      (Library.noteDeclaration Library.noteKeysTogether) :=
    ⟨rfl, rfl, rfl, .cons ⟨rfl, rfl, .refl _⟩ (.cons ⟨rfl, rfl, by decide +kernel⟩
      (.cons ⟨rfl, rfl, .refl _⟩ .nil))⟩
  obtain ⟨-, htable, horder⟩ :=
    Declaration.derive_fields "resname" (Library.noteDeclaration Library.noteKeys) .empty hsettings
  exact ⟨hsettings, ⟨_, hderive, htable _ hderive⟩, by decide +kernel,
    ((horder _).2 halike).1.2 ⟨_, hderive⟩⟩

end ResourceNames
