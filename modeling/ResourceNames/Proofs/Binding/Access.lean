import ResourceNames.Proofs.Binding.Order
import ResourceNames.Proofs.Namer.Basic
import ResourceNames.Proofs.Record.Shape

set_option autoImplicit false

/-! # Bindings and the records they are of

A binding is made from the type of a record alone, and its path is then followed in records of this
type, whatever they hold. Reading comes to a scalar of the kind of the binding, unless something on
the path is absent, which takes an optional field. Writing always comes to such a scalar, and leaves
nothing absent on the path. -/

namespace ResourceNames

variable {ι : Type} {schema : Schema ι}

namespace Schema

/-- A field on the path, the one at its end included, may be absent. -/
inductive HasOptional (schema : Schema ι) : ι → List Nat → Prop
  | here {type : ι} {index position : Nat} {field : FieldType ι} {path : List Nat}
      (hfield : schema.HasField type index position field) (hoptional : field.isOptional = true) :
      HasOptional schema type (index :: path)
  | further {type inner : ι} {index position : Nat} {field : FieldType ι} {path : List Nat}
      (hfield : schema.HasField type index position field)
      (hcontent : field.content = .record inner) (hrest : HasOptional schema inner path) :
      HasOptional schema type (index :: path)

variable {type : ι} {path places : List Nat} {leaf : ScalarType} {record : Record ι}

/-- Only where a field on the path may be absent there is nothing to read. -/
theorem LeadsTo.hasOptional_of_read (h : schema.LeadsTo type path places leaf)
    (hrecord : schema.Typed type record) (hread : schema.read path record = .nil) :
    schema.HasOptional type path := by
  induction h generalizing record with
  | leaf hfield hcontent =>
      obtain ⟨value, htyped, hslot, -⟩ := hfield.access hrecord
      rw [Schema.read, hslot] at hread
      exact .here hfield (htyped.isOptional_of_slot hread)
  | step hfield hcontent hrest ih =>
      obtain ⟨value, htyped, hslot, -⟩ := hfield.access hrecord
      rw [read_cons hrest.ne_nil, hslot] at hread
      -- Either the field itself holds nothing, or it holds a record on the way to what is absent.
      rcases htyped.slot_record hcontent with ⟨inner, hinner, hvalue, -⟩ | ⟨hvalue, -⟩
      · rw [hvalue] at hread
        exact .further hfield hcontent (ih hinner hread)
      · exact .here hfield (htyped.isOptional_of_slot hvalue)

theorem LeadsTo.read_cases (h : schema.LeadsTo type path places leaf)
    (hrecord : schema.Typed type record) :
    (∃ scalar : Scalar, schema.read path record = .scalar scalar ∧ scalar.kind = leaf.kind) ∨
      schema.read path record = .nil ∧ schema.HasOptional type path := by
  rcases h.read hrecord with ⟨scalar, rfl, hread, -⟩ | ⟨hread, -⟩
  · exact .inl ⟨scalar, hread, rfl⟩
  · exact .inr ⟨hread, h.hasOptional_of_read hrecord hread⟩

/-- What was written at the end of a path is read there. -/
theorem LeadsTo.read_of_written (h : schema.LeadsTo type path places leaf) {after : Record ι}
    (hafter : schema.Typed type after) {old new : Scalar}
    (hwritten : Value.Written (fun type => (schema.record type).initial) old new places
      record.toValue after.toValue) :
    schema.read path after = .scalar new :=
  (h.read_eq_scalar_iff hafter new).2 hwritten.scalarAt?_self

theorem LeadsTo.reach_and_modify (hschema : schema.IsDerived)
    (h : schema.LeadsTo type path places leaf) (hrecord : schema.Typed type record) :
    ∃ old : Scalar, schema.reach path record = .scalar old ∧ old.kind = leaf.kind ∧
      ∀ change : Scalar → Scalar, (change old).type = old.type →
        schema.Typed type (schema.modify change path record) ∧
          schema.read path (schema.modify change path record) = .scalar (change old) := by
  obtain ⟨old, rfl, hreach, hwritten⟩ := h.written hschema hrecord
  refine ⟨old, hreach, rfl, fun change hchange => ?_⟩
  have hafter : schema.Typed type (schema.modify change path record) :=
    HasType.written hschema hchange (hwritten change) hrecord
  exact ⟨hafter, h.read_of_written hafter (hwritten change)⟩

/-- A segment that is refused leaves nothing absent either. -/
theorem LeadsTo.read_assign (hschema : schema.IsDerived) (h : schema.LeadsTo type path places leaf)
    (hrecord : schema.Typed type record) (segment : String) :
    ∃ scalar : Scalar, schema.read path (schema.assign path segment record).1 = .scalar scalar ∧
      scalar.kind = leaf.kind := by
  have hafter := h.typed_assign hschema hrecord segment
  cases hparse : leaf.parse segment with
  | ok new =>
      obtain ⟨-, old, -, hwritten⟩ := h.assign_ok hschema hrecord hparse
      refine ⟨new, h.read_of_written hafter hwritten, ?_⟩
      rw [Scalar.kind, ScalarType.type_of_parse hparse]
  | error error =>
      obtain ⟨-, old, rfl, hwritten⟩ := h.assign_error hschema hrecord hparse
      exact ⟨old, h.read_of_written hafter hwritten, rfl⟩

variable [DecidableEq ι]

theorem leadsTo_of_mem_bindings (hschema : schema.IsDerived) {bindings : Bindings}
    (h : schema.bindings type = .ok bindings) {binding : Binding}
    (hmem : binding ∈ bindings.entries) :
    ∃ places leaf, schema.LeadsTo type binding.path places leaf ∧ leaf.kind = binding.kind :=
  leadFrom_bindings hschema h _ _ ((isAscending_bindings h).get?_key hmem)

/-- **Bindings are sound for every record.** Reading at the path of a binding gives a scalar of its
kind, or nothing, and that only if a field on the path may be absent. Writing reaches a scalar of
its kind, whatever is absent on the path, and what was written is read again; a refused assignment
leaves a scalar to read as well. Moreover there is something to read and to write to at exactly the
indices into the table, and the shape in the table tells what. -/
theorem bindings_access (hschema : schema.IsDerived) (type : ι) :
    (∀ bindings, schema.bindings type = .ok bindings → ∀ binding ∈ bindings.entries,
      ∀ record, schema.Typed type record →
        ((∃ scalar : Scalar, schema.read binding.path record = .scalar scalar ∧
            scalar.kind = binding.kind) ∨
          schema.read binding.path record = .nil ∧ schema.HasOptional type binding.path) ∧
        (∃ old : Scalar, schema.reach binding.path record = .scalar old ∧
          old.kind = binding.kind ∧
          ∀ change : Scalar → Scalar, (change old).type = old.type →
            schema.Typed type (schema.modify change binding.path record) ∧
              schema.read binding.path (schema.modify change binding.path record) =
                .scalar (change old)) ∧
        ∀ segment, ∃ scalar : Scalar,
          schema.read binding.path (schema.assign binding.path segment record).1 =
              .scalar scalar ∧
            scalar.kind = binding.kind) ∧
    ∀ record, schema.Typed type record → ∀ index,
      ((schema.field record index).isSome = true ↔ index < (schema.record type).table.length) ∧
      ((schema.fieldTarget record index).isSome = true ↔
        index < (schema.record type).table.length) ∧
      ∀ entry, (schema.record type).table[index]? = some entry →
        (∃ slot, schema.field record index = some slot ∧ entry.shape.Reads schema slot) ∧
          ∃ target, schema.fieldTarget record index = some target ∧
            entry.shape.Reaches schema target := by
  constructor
  · intro bindings hbindings binding hmem record hrecord
    obtain ⟨places, leaf, hlead, hkind⟩ := leadsTo_of_mem_bindings hschema hbindings hmem
    rw [← hkind]
    exact ⟨hlead.read_cases hrecord, hlead.reach_and_modify hschema hrecord,
      hlead.read_assign hschema hrecord⟩
  · intro record hrecord index
    obtain ⟨hfield, htarget⟩ := hschema.isSome_access_iff hrecord index
    exact ⟨hfield, htarget, fun entry hentry => hschema.access_of_entry hrecord hentry⟩

end Schema

/-- A new book is on no shelf, but may be put on one that has a name. -/
theorem Schema.bindings_access_newBook :
    Library.schema.read [1, 0] (Library.schema.newRecord .book) = .nil ∧
      Library.schema.HasOptional .book [1, 0] ∧
      ∃ scalar : Scalar, Library.schema.read [1, 0]
          (Library.schema.assign [1, 0] "a" (Library.schema.newRecord .book)).1 =
            .scalar scalar ∧
        scalar.kind = .string := by
  obtain ⟨hbinding, -⟩ := bindings_access Library.isDerived_schema .book
  have hnew := Library.isDerived_schema.newRecord_typed .book
  obtain ⟨hread, -, hassign⟩ := hbinding _ (Namer.compile_eq_ok Library.compile_bookNamer).2
    ⟨"shelf", [1, 0], .string, false, "id"⟩ (by decide) _ hnew
  have hnil : Library.schema.read [1, 0] (Library.schema.newRecord .book) = .nil := rfl
  rcases hread with ⟨scalar, hscalar, -⟩ | ⟨-, hoptional⟩
  · rw [hnil] at hscalar
    cases hscalar
  · exact ⟨hnil, hoptional, hassign "a"⟩

end ResourceNames
