import ResourceNames.Proofs.Record.Typing
import ResourceNames.Record.Access

set_option autoImplicit false

/-! # Paths through well-typed records

In a derived schema an index into the table of a record type reads and writes one stored field, so
that a path has a list of places: the positions of the stored fields it goes through. Reading at a
path is looking up the scalar at its places. -/

namespace ResourceNames

variable {ι : Type}

/-! ## Fields -/

theorem RecordField.place?_injective {τ : Type} (fields : List (RecordField τ))
    {first second position : Nat} (hfirst : place? fields first = some position)
    (hsecond : place? fields second = some position) : first = second := by
  induction fields generalizing first second position with
  | nil => simp [place?] at hfirst
  | cons field rest ih =>
      rw [place?.eq_def] at hfirst hsecond
      dsimp only at hfirst hsecond
      by_cases hskip : field.skipped
      · rw [if_pos hskip, Option.map_eq_some_iff] at hfirst hsecond
        obtain ⟨place, hfirst, rfl⟩ := hfirst
        obtain ⟨place', hsecond, hplace⟩ := hsecond
        rw [Nat.add_right_cancel hplace] at hsecond
        exact ih hfirst hsecond
      · rw [if_neg hskip] at hfirst hsecond
        cases first with
        | zero =>
            cases second with
            | zero => rfl
            | succ second =>
                obtain rfl : 0 = position := by simpa using hfirst
                simp at hsecond
        | succ first =>
            simp only [Option.map_eq_some_iff] at hfirst
            obtain ⟨place, hfirst, rfl⟩ := hfirst
            cases second with
            | zero => simp at hsecond
            | succ second =>
                simp only [Option.map_eq_some_iff] at hsecond
                obtain ⟨place', hsecond, hplace⟩ := hsecond
                rw [Nat.add_right_cancel hplace] at hsecond
                rw [ih hfirst hsecond]

namespace Schema

variable {schema : Schema ι}

/-- An index into the table of a record type leads to the stored field at a position, which is of
the given type. -/
structure HasField (schema : Schema ι) (type : ι) (index position : Nat) (field : FieldType ι) :
    Prop where
  reader : (schema.record type).reader index = some (.place position)
  writer : (schema.record type).writer index = some (.place position)
  stored : (schema.record type).stored[position]? = some field

theorem HasField.unique {type : ι} {index position position' : Nat} {field field' : FieldType ι}
    (h : schema.HasField type index position field)
    (h' : schema.HasField type index position' field') : position = position' ∧ field = field' := by
  have hposition : position = position' := by simpa [h.reader] using h'.reader
  subst hposition
  have hfield : field = field' := by simpa [h.stored] using h'.stored
  exact ⟨rfl, hfield⟩

theorem IsDerived.index_eq (hschema : schema.IsDerived) {type : ι} {index index' position : Nat}
    {field field' : FieldType ι} (h : schema.HasField type index position field)
    (h' : schema.HasField type index' position field') : index = index' := by
  obtain ⟨name, fields, initial, htype⟩ := hschema.derived type
  have hplace := h.reader
  have hplace' := h'.reader
  rw [htype] at hplace hplace'
  simp only [RecordType.derived, Option.map_eq_some_iff, ReadAccess.place.injEq,
    exists_eq_right] at hplace hplace'
  exact RecordField.place?_injective fields hplace hplace'

/-- The entries of the table are those of fields. -/
theorem IsDerived.hasField (hschema : schema.IsDerived) {type : ι} {index : Nat}
    {entry : FieldEntry ι} (h : (schema.record type).table[index]? = some entry) :
    ∃ position field, schema.HasField type index position field ∧ entry.shape = field.shape := by
  obtain ⟨name, fields, initial, htype⟩ := hschema.derived type
  simp only [htype, RecordType.derived, List.getElem?_map, ← RecordField.bind_place?,
    Option.map_eq_some_iff, Option.bind_eq_some_iff] at h
  obtain ⟨field, ⟨position, hplace, hfield⟩, rfl⟩ := h
  refine ⟨position, field.type, ⟨?_, ?_, ?_⟩, rfl⟩
  · simp [htype, RecordType.derived, hplace]
  · simp [htype, RecordType.derived, hplace]
  · simp [htype, RecordType.derived, hfield]

/-- A well-typed record stores a value of its type for every field. -/
theorem HasField.value {type : ι} {index position : Nat} {field : FieldType ι}
    (h : schema.HasField type index position field) {fields : List (Value ι)}
    (hfields : List.Forall₂ (HasType schema) fields (schema.record type).stored) :
    ∃ value, fields[position]? = some value ∧ HasType schema value field := by
  have hstored := h.stored
  rw [List.getElem?_eq_some_iff] at hstored
  obtain ⟨hlt, hstored⟩ := hstored
  have hlt' : position < fields.length := hfields.length_eq ▸ hlt
  refine ⟨fields[position], List.getElem?_eq_getElem hlt', ?_⟩
  rw [← hstored]
  exact hfields.get hlt' hlt

variable {type : ι} {index position : Nat} {fieldType : FieldType ι} {fields : List (Value ι)}
  {value : Value ι}

theorem field_eq (h : schema.HasField type index position fieldType)
    (hvalue : fields[position]? = some value) :
    schema.field ⟨type, fields⟩ index = some value.slot := by
  simp [field, h.reader, hvalue]

theorem fieldTarget_eq (h : schema.HasField type index position fieldType)
    (hvalue : fields[position]? = some value) :
    schema.fieldTarget ⟨type, fields⟩ index = some (schema.allocate value).target := by
  simp [fieldTarget, h.writer, hvalue]

theorem modifyField_eq (h : schema.HasField type index position fieldType)
    (hvalue : fields[position]? = some value) (change : Value ι → Value ι) :
    schema.modifyField change index ⟨type, fields⟩ =
      ⟨type, fields.set position ((schema.allocate value).mapContent change)⟩ := by
  rw [List.getElem?_eq_some_iff] at hvalue
  obtain ⟨hlt, rfl⟩ := hvalue
  simp only [modifyField, h.writer, Record.mk.injEq, true_and]
  rw [List.modify_eq_set_getElem?, List.getElem?_eq_getElem hlt]
  rfl

/-! ## Paths -/

/-- The path leads from records of a type, through the stored fields at the places, to scalars of
the given type. -/
inductive LeadsTo (schema : Schema ι) : ι → List Nat → List Nat → ScalarType → Prop
  | leaf {type : ι} {index position : Nat} {field : FieldType ι} {leaf : ScalarType}
      (hfield : schema.HasField type index position field) (hcontent : field.content = .scalar leaf) :
      LeadsTo schema type [index] [position] leaf
  | step {type inner : ι} {index position : Nat} {field : FieldType ι} {path places : List Nat}
      {leaf : ScalarType} (hfield : schema.HasField type index position field)
      (hcontent : field.content = .record inner) (hrest : LeadsTo schema inner path places leaf) :
      LeadsTo schema type (index :: path) (position :: places) leaf

theorem LeadsTo.ne_nil {path places : List Nat} {leaf : ScalarType}
    (h : schema.LeadsTo type path places leaf) : path ≠ [] := by
  cases h <;> simp

theorem LeadsTo.places_ne_nil {path places : List Nat} {leaf : ScalarType}
    (h : schema.LeadsTo type path places leaf) : places ≠ [] := by
  cases h <;> simp

/-- A path leads to one place. -/
theorem LeadsTo.unique {path places places' : List Nat} {leaf leaf' : ScalarType}
    (h : schema.LeadsTo type path places leaf) (h' : schema.LeadsTo type path places' leaf') :
    places = places' ∧ leaf = leaf' := by
  induction h generalizing places' with
  | leaf hfield hcontent =>
      cases h' with
      | leaf hfield' hcontent' =>
          obtain ⟨rfl, rfl⟩ := hfield.unique hfield'
          rw [hcontent] at hcontent'
          exact ⟨rfl, FieldType.scalar.inj hcontent'⟩
      | step hfield' hcontent' hrest' => exact absurd rfl hrest'.ne_nil
  | step hfield hcontent hrest ih =>
      cases h' with
      | leaf hfield' hcontent' => exact absurd rfl hrest.ne_nil
      | step hfield' hcontent' hrest' =>
          obtain ⟨rfl, rfl⟩ := hfield.unique hfield'
          rw [hcontent] at hcontent'
          cases FieldType.record.inj hcontent'
          obtain ⟨rfl, rfl⟩ := ih hrest'
          exact ⟨rfl, rfl⟩

/-- Scalars have no fields, so that no path to a scalar goes on to another scalar. -/
theorem LeadsTo.eq_of_prefix (hschema : schema.IsDerived) {path path' places places' : List Nat}
    {leaf leaf' : ScalarType} (h : schema.LeadsTo type path places leaf)
    (h' : schema.LeadsTo type path' places' leaf') (halong : places <+: places') :
    path = path' := by
  induction h generalizing path' places' with
  | leaf hfield hcontent =>
      cases h' with
      | leaf hfield' hcontent' =>
          obtain ⟨rfl, -⟩ := List.cons_prefix_cons.1 halong
          rw [hschema.index_eq hfield hfield']
      | step hfield' hcontent' hrest' =>
          -- The field of the first path is a scalar, that of the second one a record.
          obtain ⟨rfl, -⟩ := List.cons_prefix_cons.1 halong
          obtain rfl := hschema.index_eq hfield hfield'
          obtain ⟨-, rfl⟩ := hfield.unique hfield'
          simp [hcontent] at hcontent'
  | step hfield hcontent hrest ih =>
      cases h' with
      | leaf hfield' hcontent' =>
          obtain ⟨rfl, htail⟩ := List.cons_prefix_cons.1 halong
          exact absurd (List.prefix_nil.1 htail) hrest.places_ne_nil
      | step hfield' hcontent' hrest' =>
          obtain ⟨rfl, htail⟩ := List.cons_prefix_cons.1 halong
          obtain rfl := hschema.index_eq hfield hfield'
          obtain ⟨-, rfl⟩ := hfield.unique hfield'
          rw [hcontent] at hcontent'
          cases FieldType.record.inj hcontent'
          rw [ih hrest' htail]

end Schema

/-! ## Reading -/

/-- The scalar at the end of the places, if no pointer on the way lacks contents. -/
def Value.scalarAt? : List Nat → Value ι → Option Scalar
  | [], value =>
    match value.content with
    | .scalar leaf => some leaf
    | _ => none
  | position :: rest, value =>
    match value.content with
    | .record _ fields => fields[position]?.bind (scalarAt? rest)
    | _ => none

namespace Value

theorem scalarAt?_absent (places : List Nat) (content : FieldType ι) :
    (Value.absent content).scalarAt? places = none := by
  cases places <;> rfl

theorem scalarAt?_present (places : List Nat) (content : Value ι) :
    (Value.present content).scalarAt? places = content.scalarAt? places := by
  cases places <;> rfl

theorem scalarAt?_boxed (places : List Nat) (content : Value ι) :
    (Value.boxed content).scalarAt? places = content.scalarAt? places := by
  cases places <;> rfl

theorem scalarAt?_record (position : Nat) (rest : List Nat) (type : ι) (fields : List (Value ι)) :
    (Value.record type fields).scalarAt? (position :: rest) =
      fields[position]?.bind (scalarAt? rest) :=
  rfl

end Value

variable {schema : Schema ι}

theorem HasType.slot_scalar {value : Value ι} {type : FieldType ι} {leaf : ScalarType}
    (h : HasType schema value type) (hcontent : type.content = .scalar leaf) :
    (∃ scalar : Scalar, scalar.type = leaf ∧ value.slot = .scalar scalar ∧
        value.scalarAt? [] = some scalar) ∨
      (value.slot = .nil ∧ value.scalarAt? [] = none) := by
  induction h using HasType.pointers with
  | absent content => exact .inr ⟨rfl, rfl⟩
  | present value content _ ih => exact ih hcontent
  | boxed value content _ ih => exact ih hcontent
  | plain value type h htype =>
      rw [← htype, hcontent] at h
      cases h with
      | scalar scalar => exact .inl ⟨scalar, rfl, rfl, rfl⟩

theorem HasType.slot_record {value : Value ι} {type : FieldType ι} {inner : ι}
    (h : HasType schema value type) (hcontent : type.content = .record inner) :
    (∃ record : Record ι, schema.Typed inner record ∧ value.slot = .record record ∧
        ∀ places, value.scalarAt? places = record.toValue.scalarAt? places) ∨
      (value.slot = .nil ∧ ∀ places, value.scalarAt? places = none) := by
  induction h using HasType.pointers with
  | absent content => exact .inr ⟨rfl, fun places => Value.scalarAt?_absent places content⟩
  | present value content _ ih =>
      simp only [Value.scalarAt?_present]
      exact ih hcontent
  | boxed value content _ ih =>
      simp only [Value.scalarAt?_boxed]
      exact ih hcontent
  | plain value type h htype =>
      rw [← htype, hcontent] at h
      obtain ⟨record, rfl, hrecord⟩ := Schema.typed_of_hasType h
      exact .inl ⟨record, hrecord, rfl, fun _ => rfl⟩

namespace Schema

theorem read_cons {path : List Nat} (hpath : path ≠ []) (index : Nat) (record : Record ι) :
    schema.read (index :: path) record =
      match schema.field record index with
      | some (.record inner) => schema.read path inner
      | some .nil => .nil
      | _ => .unsupported := by
  cases path with
  | nil => exact absurd rfl hpath
  | cons next rest => rfl

/-- What there is to read at a path: the scalar at its places, or nothing. -/
theorem LeadsTo.read {type : ι} {path places : List Nat} {leaf : ScalarType}
    (h : schema.LeadsTo type path places leaf) {record : Record ι}
    (hrecord : schema.Typed type record) :
    (∃ scalar : Scalar, scalar.type = leaf ∧ schema.read path record = .scalar scalar ∧
        record.toValue.scalarAt? places = some scalar) ∨
      (schema.read path record = .nil ∧ record.toValue.scalarAt? places = none) := by
  induction h generalizing record with
  | @leaf type index position field leaf hfield hcontent =>
      obtain ⟨_, fields⟩ := record
      obtain rfl := hrecord.type_eq
      obtain ⟨value, hvalue, htyped⟩ := hfield.value hrecord.fields
      have hread := field_eq hfield hvalue
      simp only [Schema.read, Record.toValue, Value.scalarAt?_record, hread, hvalue,
        Option.getD_some, Option.bind_some]
      exact htyped.slot_scalar hcontent
  | @step type inner index position field path places leaf hfield hcontent hrest ih =>
      obtain ⟨_, fields⟩ := record
      obtain rfl := hrecord.type_eq
      obtain ⟨value, hvalue, htyped⟩ := hfield.value hrecord.fields
      rw [read_cons hrest.ne_nil, field_eq hfield hvalue]
      simp only [Record.toValue, Value.scalarAt?_record, hvalue, Option.bind_some]
      rcases htyped.slot_record hcontent with ⟨record, hinner, hslot, hplaces⟩ | ⟨hslot, hplaces⟩
      · rw [hslot, hplaces]
        exact ih hinner
      · rw [hslot, hplaces]
        exact .inr ⟨rfl, rfl⟩

/-- Reading at a path is looking up the scalar at its places. -/
theorem LeadsTo.read_eq {type : ι} {path places : List Nat} {leaf : ScalarType}
    (h : schema.LeadsTo type path places leaf) {record : Record ι}
    (hrecord : schema.Typed type record) :
    schema.read path record =
      match record.toValue.scalarAt? places with
      | some scalar => .scalar scalar
      | none => .nil := by
  rcases h.read hrecord with ⟨found, -, hread, hplaces⟩ | ⟨hread, hplaces⟩
  · rw [hread, hplaces]
  · rw [hread, hplaces]

theorem LeadsTo.read_eq_scalar_iff {type : ι} {path places : List Nat} {leaf : ScalarType}
    (h : schema.LeadsTo type path places leaf) {record : Record ι}
    (hrecord : schema.Typed type record) (scalar : Scalar) :
    schema.read path record = .scalar scalar ↔
      record.toValue.scalarAt? places = some scalar := by
  rcases h.read hrecord with ⟨found, -, hread, hplaces⟩ | ⟨hread, hplaces⟩
  · simp [hread, hplaces]
  · simp [hread, hplaces]

end Schema

end ResourceNames
