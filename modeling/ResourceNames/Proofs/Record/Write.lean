import ResourceNames.Proofs.Record.Path

set_option autoImplicit false

/-! # Writing along paths

`Written` relates a value before a write to the value after it, with the places of the write but no
path, table or accessor. Every write through a path of a derived schema is one of these
(`LeadsTo.written`), and what a write leaves behind is read off the relation by induction. -/

namespace ResourceNames

variable {ι : Type}

/-- `after` is `before` with `new` in place of `old`, the scalar at the end of the places, and with
contents in every pointer on the way. -/
inductive Value.Written (recordFields : ι → List (Value ι)) (old new : Scalar) :
    List Nat → Value ι → Value ι → Prop
  | scalar : Written recordFields old new [] (.scalar old) (.scalar new)
  | field {type : ι} {fields : List (Value ι)} {position : Nat} {rest : List Nat}
      {before after : Value ι} (hget : fields[position]? = some before)
      (h : Written recordFields old new rest before after) :
      Written recordFields old new (position :: rest) (.record type fields)
        (.record type (fields.set position after))
  /-- A pointer without contents is given those that its field starts with. -/
  | absent {places : List Nat} {content : FieldType ι} {after : Value ι}
      (h : Written recordFields old new places (content.initial recordFields) after) :
      Written recordFields old new places (.absent content) (.present after)
  | present {places : List Nat} {before after : Value ι}
      (h : Written recordFields old new places before after) :
      Written recordFields old new places (.present before) (.present after)
  | boxed {places : List Nat} {before after : Value ι}
      (h : Written recordFields old new places before after) :
      Written recordFields old new places (.boxed before) (.boxed after)

namespace Value.Written

variable {recordFields : ι → List (Value ι)} {old new : Scalar} {places : List Nat}
  {before after : Value ι}

/-- What was written is there. -/
theorem scalarAt?_self (h : Written recordFields old new places before after) :
    after.scalarAt? places = some new := by
  induction h with
  | scalar => rfl
  | @field type fields position rest before after hget h ih =>
      have hlt : position < fields.length := (List.getElem?_eq_some_iff.1 hget).1
      rw [scalarAt?_record, List.getElem?_set_self hlt]
      exact ih
  | absent h ih => rwa [scalarAt?_present]
  | present h ih => rwa [scalarAt?_present]
  | boxed h ih => rwa [scalarAt?_boxed]

/-- A scalar elsewhere is still there. -/
theorem scalarAt?_other (h : Written recordFields old new places before after) {other : List Nat}
    {scalar : Scalar} (hother : ¬ places <+: other) (hscalar : before.scalarAt? other = some scalar) :
    after.scalarAt? other = some scalar := by
  induction h generalizing other with
  | scalar => exact absurd List.nil_prefix hother
  | @field type fields position rest before after hget h ih =>
      cases other with
      | nil => simp [scalarAt?, Value.content] at hscalar
      | cons first others =>
          rw [scalarAt?_record] at hscalar ⊢
          by_cases hfirst : position = first
          · subst hfirst
            have hlt : position < fields.length := (List.getElem?_eq_some_iff.1 hget).1
            rw [hget] at hscalar
            rw [List.getElem?_set_self hlt]
            apply ih _ hscalar
            intro halong
            exact hother (List.cons_prefix_cons.2 ⟨rfl, halong⟩)
          · rwa [List.getElem?_set_ne hfirst]
  | absent h ih => simp [scalarAt?_absent] at hscalar
  | present h ih =>
      rw [scalarAt?_present] at hscalar ⊢
      exact ih hother hscalar
  | boxed h ih =>
      rw [scalarAt?_boxed] at hscalar ⊢
      exact ih hother hscalar

end Value.Written

/-! ## Typing -/

private theorem forall₂_set {α β : Type} {related : α → β → Prop} {left : List α} {right : List β}
    (h : List.Forall₂ related left right) {position : Nat} {old new : α}
    (hget : left[position]? = some old) (hnew : ∀ b, related old b → related new b) :
    List.Forall₂ related (left.set position new) right := by
  induction h generalizing position with
  | nil => exact .nil
  | cons hhead htail ih =>
      cases position with
      | zero =>
          obtain rfl : _ = old := by simpa using hget
          exact .cons (hnew _ hhead) htail
      | succ position => exact .cons hhead (ih hget)

variable {schema : Schema ι} {old new : Scalar}

theorem HasType.written (hschema : schema.IsDerived) (hscalar : new.type = old.type)
    {places : List Nat} {before after : Value ι} {type : FieldType ι}
    (h : Value.Written (fun type => (schema.record type).initial) old new places before after)
    (htype : HasType schema before type) : HasType schema after type := by
  induction h generalizing type with
  | scalar =>
      cases htype
      rw [← hscalar]
      exact .scalar new
  | field hget h ih =>
      cases htype with
      | record hfields => exact .record (forall₂_set hfields hget fun _ hfield => ih hfield)
  | @absent places content after h ih =>
      cases htype
      exact .present (ih (hasType_initial hschema content))
  | present h ih =>
      cases htype with
      | present hcontent => exact .present (ih hcontent)
  | boxed h ih =>
      cases htype with
      | boxed hcontent => exact .boxed (ih hcontent)

/-! ## Writes through paths -/

/-- Behind the pointers of a value, once they have contents, there is a value of the type there, and
a write to that is a write to the value. -/
theorem HasType.written_mapContent (hschema : schema.IsDerived) {value : Value ι}
    {type : FieldType ι} (h : HasType schema value type) :
    ∃ plain : Value ι, HasType schema plain type.content ∧
      (schema.allocate value).target = plain.target ∧
      ∀ (old new : Scalar) (change : Value ι → Value ι) (places : List Nat),
        Value.Written (fun type => (schema.record type).initial) old new places plain
          (change plain) →
        Value.Written (fun type => (schema.record type).initial) old new places value
          ((schema.allocate value).mapContent change) := by
  induction type generalizing value with
  | optional content ih =>
      cases h with
      | absent =>
          -- The contents given are those a field starts with, with contents in its own pointers.
          obtain ⟨plain, hplain, htarget, hwritten⟩ := ih (hasType_initial hschema content)
          unfold Schema.allocate at htarget hwritten
          rw [allocate_initial] at htarget hwritten
          exact ⟨plain, hplain, htarget, fun _ _ change _ h =>
            .absent (hwritten _ _ change _ h)⟩
      | present hcontent =>
          obtain ⟨plain, hplain, htarget, hwritten⟩ := ih hcontent
          exact ⟨plain, hplain, htarget, fun _ _ change _ h =>
            .present (hwritten _ _ change _ h)⟩
  | boxed content ih =>
      cases h with
      | boxed hcontent =>
          obtain ⟨plain, hplain, htarget, hwritten⟩ := ih hcontent
          exact ⟨plain, hplain, htarget, fun _ _ change _ h =>
            .boxed (hwritten _ _ change _ h)⟩
  | scalar leaf =>
      cases h
      exact ⟨_, .scalar _, rfl, fun _ _ _ _ h => h⟩
  | record inner =>
      cases h with
      | record hfields => exact ⟨_, .record hfields, rfl, fun _ _ _ _ h => h⟩
  | container kind =>
      cases h
      exact ⟨_, .container kind, rfl, fun _ _ _ _ h => h⟩
  | unsupported =>
      cases h
      exact ⟨_, .unsupported, rfl, fun _ _ _ _ h => h⟩

theorem ScalarType.type_of_parse {leaf : ScalarType} {segment : String} {scalar : Scalar}
    (h : leaf.parse segment = .ok scalar) : scalar.type = leaf := by
  cases leaf with
  | integer type =>
      rw [parse] at h
      cases hparse : type.parse segment with
      | ok number =>
          rw [hparse] at h
          obtain rfl := Except.ok.inj h
          rfl
      | error error =>
          rw [hparse] at h
          cases h
  | float format =>
      rw [parse] at h
      cases hparse : Binary.parse format segment with
      | ok number =>
          rw [hparse] at h
          obtain rfl := Except.ok.inj h
          rfl
      | error error =>
          rw [hparse] at h
          cases h
  | string =>
      obtain rfl := Except.ok.inj h
      rfl

namespace Schema

theorem reach_cons {path : List Nat} (hpath : path ≠ []) (index : Nat) (record : Record ι) :
    schema.reach (index :: path) record =
      match schema.fieldTarget record index with
      | some (.record inner) => schema.reach path inner
      | _ => .unsupported := by
  cases path with
  | nil => exact absurd rfl hpath
  | cons next rest => rfl

theorem modify_cons {path : List Nat} (hpath : path ≠ []) (change : Scalar → Scalar) (index : Nat)
    (record : Record ι) :
    schema.modify change (index :: path) record =
      schema.modifyField (Value.mapRecord (schema.modify change path)) index record := by
  cases path with
  | nil => exact absurd rfl hpath
  | cons next rest => rfl

/-- A path always reaches a scalar, and changing what is at the path is a write there. -/
theorem LeadsTo.written (hschema : schema.IsDerived) {type : ι} {path places : List Nat}
    {leaf : ScalarType} (h : schema.LeadsTo type path places leaf) {record : Record ι}
    (hrecord : schema.Typed type record) :
    ∃ old : Scalar, old.type = leaf ∧ schema.reach path record = .scalar old ∧
      ∀ change : Scalar → Scalar,
        Value.Written (fun type => (schema.record type).initial) old (change old) places
          record.toValue (schema.modify change path record).toValue := by
  induction h generalizing record with
  | @leaf type index position field leaf hfield hcontent =>
      obtain ⟨_, fields⟩ := record
      obtain rfl := hrecord.type_eq
      obtain ⟨value, hvalue, htyped⟩ := hfield.value hrecord.fields
      obtain ⟨plain, hplain, htarget, hwritten⟩ := htyped.written_mapContent hschema
      rw [hcontent] at hplain
      cases hplain with
      | scalar old =>
          refine ⟨old, rfl, ?_, ?_⟩
          · rw [reach, fieldTarget_eq hfield hvalue, htarget]
            rfl
          · intro change
            rw [modify, modifyField_eq hfield hvalue]
            exact .field hvalue (hwritten _ _ _ _ .scalar)
  | @step type inner index position field path places leaf hfield hcontent hrest ih =>
      obtain ⟨_, fields⟩ := record
      obtain rfl := hrecord.type_eq
      obtain ⟨value, hvalue, htyped⟩ := hfield.value hrecord.fields
      obtain ⟨plain, hplain, htarget, hwritten⟩ := htyped.written_mapContent hschema
      rw [hcontent] at hplain
      obtain ⟨innerRecord, rfl, hinner⟩ := typed_of_hasType hplain
      obtain ⟨old, hold, hreach, hchange⟩ := ih hinner
      refine ⟨old, hold, ?_, ?_⟩
      · rw [reach_cons hrest.ne_nil, fieldTarget_eq hfield hvalue, htarget]
        exact hreach
      · intro change
        rw [modify_cons hrest.ne_nil, modifyField_eq hfield hvalue]
        exact .field hvalue (hwritten _ _ _ _ (hchange change))

/-! ## Assigning -/

section Assign

variable {type : ι} {path places : List Nat} {leaf : ScalarType} {record : Record ι}
  {segment : String}

/-- A segment that is read as a scalar of the type at the end of the path is written there. -/
theorem LeadsTo.assign_ok (hschema : schema.IsDerived) (h : schema.LeadsTo type path places leaf)
    (hrecord : schema.Typed type record) (hparse : leaf.parse segment = .ok new) :
    (schema.assign path segment record).2 = .ok () ∧
      ∃ old : Scalar, old.type = leaf ∧
        Value.Written (fun type => (schema.record type).initial) old new places record.toValue
          (schema.assign path segment record).1.toValue := by
  obtain ⟨old, rfl, hreach, hwritten⟩ := h.written hschema hrecord
  rw [Schema.assign, hreach]
  dsimp only
  rw [hparse]
  exact ⟨rfl, old, rfl, hwritten fun _ => new⟩

/-- For any other segment the pointers on the path are given contents all the same. -/
theorem LeadsTo.assign_error (hschema : schema.IsDerived)
    (h : schema.LeadsTo type path places leaf) (hrecord : schema.Typed type record)
    {error : ScalarError} (hparse : leaf.parse segment = .error error) :
    (schema.assign path segment record).2 = .error (.malformed error) ∧
      ∃ old : Scalar, old.type = leaf ∧
        Value.Written (fun type => (schema.record type).initial) old old places record.toValue
          (schema.assign path segment record).1.toValue := by
  obtain ⟨old, rfl, hreach, hwritten⟩ := h.written hschema hrecord
  rw [Schema.assign, hreach]
  dsimp only
  rw [hparse]
  exact ⟨rfl, old, rfl, hwritten id⟩

theorem LeadsTo.typed_assign (hschema : schema.IsDerived)
    (h : schema.LeadsTo type path places leaf) (hrecord : schema.Typed type record)
    (segment : String) : schema.Typed type (schema.assign path segment record).1 := by
  cases hparse : leaf.parse segment with
  | ok new =>
      obtain ⟨-, old, rfl, hwritten⟩ := h.assign_ok hschema hrecord hparse
      exact hrecord.written hschema (ScalarType.type_of_parse hparse) hwritten
  | error error =>
      obtain ⟨-, old, rfl, hwritten⟩ := h.assign_error hschema hrecord hparse
      exact hrecord.written hschema rfl hwritten

end Assign

end Schema

end ResourceNames
