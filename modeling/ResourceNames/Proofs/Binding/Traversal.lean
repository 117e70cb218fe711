import Mathlib.Data.List.Basic
import Mathlib.Tactic.SplitIfs
import ResourceNames.Binding.Basic

set_option autoImplicit false

/-! # The traversal of a record type

Binding changes one set of bindings while it walks through a record type. Here the walk is told as
two lists: the keys it visits and the offences it meets, both in the order of the walk. Binding
amounts to inserting the visits one after the other, unless there is an offence, of which the first
counts (`visit_eq`). -/

namespace ResourceNames

variable {ι : Type}

/-! ## One record -/

namespace FieldEntry

/-- The visits to the field with the given index, if it is a scalar: one for each key it declares, or
    else one for its name in snake case. -/
def visits (index : Nat) (entry : FieldEntry ι) : List Binding :=
  match entry.shape with
  | .scalar kind pointer =>
    match entry.keys with
    | [] => [⟨Text.snakeCase entry.name, [index], kind, pointer, entry.name⟩]
    | keys => keys.map fun key => ⟨key, [index], kind, pointer, entry.name⟩
  | _ => []

/-- The visits to a scalar are those of the keys that it binds. -/
theorem visits_scalar {entry : FieldEntry ι} {kind : ScalarKind} {pointer : Bool}
    (h : entry.shape = .scalar kind pointer) (index : Nat) :
    entry.visits index =
      entry.boundKeys.map fun key => ⟨key, [index], kind, pointer, entry.name⟩ := by
  cases hkeys : entry.keys <;> simp [visits, boundKeys, h, hkeys]

/-- The offence of a container that declares keys, in a record of the type with the given name. -/
def offence? (type : String) (entry : FieldEntry ι) : Option BindingError :=
  match entry.shape with
  | .container kind =>
    if entry.keys.isEmpty then none else some (.annotatedContainer entry.name type kind)
  | _ => none

end FieldEntry

/-- A field that holds a record, by its index in the table. -/
structure NestedField (ι : Type) where
  index : Nat
  name : String
  type : ι
deriving DecidableEq

/-- The field of an entry that holds a record. -/
def NestedField.ofEntry? (index : Nat) (entry : FieldEntry ι) : Option (NestedField ι) :=
  match entry.shape with
  | .record type _ => some ⟨index, entry.name, type⟩
  | _ => none

namespace RecordType

/-- The visits to the scalars of the record itself. -/
def scalarVisits (record : RecordType ι) : List Binding :=
  record.table.zipIdx.flatMap fun (entry, index) => entry.visits index

/-- The offences of the containers of the record itself. -/
def containerOffences (record : RecordType ι) : List BindingError :=
  record.table.filterMap (FieldEntry.offence? record.name)

/-- The fields that hold records. -/
def nestedFields (record : RecordType ι) : List (NestedField ι) :=
  record.table.zipIdx.filterMap fun (entry, index) => NestedField.ofEntry? index entry

end RecordType

/-- The binding as it is in a record from which a path leads to the record it is in. -/
def Binding.under (path : List Nat) (binding : Binding) : Binding :=
  { binding with path := path ++ binding.path }

theorem Binding.under_under (path rest : List Nat) (binding : Binding) :
    (binding.under rest).under path = binding.under (path ++ rest) := by
  simp [under]

/-! ## A whole record type -/

namespace Schema

variable [DecidableEq ι]

/-- The visits to the scalars of a record type, and then to those of its nested records, where `met`
    are the types on the path to the record, its own included. -/
def traversalPast (schema : Schema ι) (met : List ι) (type : ι) : List Binding :=
  (schema.record type).scalarVisits ++
    (schema.record type).nestedFields.flatMap fun field =>
      if _ : field.type ∈ met then []
      else (schema.traversalPast (field.type :: met) field.type).map (Binding.under [field.index])
termination_by schema.unmet met
decreasing_by exact schema.unmet_cons_lt (by assumption)

/-- The visits to all scalars of a record type, at any depth. -/
def traversal (schema : Schema ι) (type : ι) : List Binding :=
  schema.traversalPast [type] type

/-- The offences of a record type: those of its own containers, and then those of its nested
    records, each of which offends by itself if its type is on the path to it. -/
def offences (schema : Schema ι) (met : List ι) (type : ι) : List BindingError :=
  (schema.record type).containerOffences ++
    (schema.record type).nestedFields.flatMap fun field =>
      if _ : field.type ∈ met then
        [.recursiveRecord (schema.record field.type).name field.name]
      else schema.offences (field.type :: met) field.type
termination_by schema.unmet met
decreasing_by exact schema.unmet_cons_lt (by assumption)

end Schema

/-! ## Binding as a traversal -/

namespace Bindings

/-- The bindings after some visits, unless there are offences, of which the first counts. -/
def settle (bindings : Bindings) (offences : List BindingError) (visits : List Binding) :
    Except BindingError Bindings :=
  match offences with
  | [] => .ok (visits.foldl insert bindings)
  | error :: _ => .error error

theorem settle_append_visits (bindings : Bindings) (offences : List BindingError)
    (visits others : List Binding) :
    bindings.settle offences (visits ++ others) =
      (visits.foldl insert bindings).settle offences others := by
  cases offences <;> simp [settle]

theorem settle_append (bindings : Bindings) (offences others : List BindingError)
    (visits later : List Binding) :
    (bindings.settle offences visits >>= fun bound => bound.settle others later) =
      bindings.settle (offences ++ others) (visits ++ later) := by
  cases offences with
  | nil =>
      rw [settle_append_visits]
      rfl
  | cons error rest => rfl

/-- A run of steps that settle something each settles all of it. -/
theorem foldlM_settle {α : Type} {step : Bindings → α → Except BindingError Bindings}
    {offences : α → List BindingError} {visits : α → List Binding} {items : List α}
    (hstep : ∀ item ∈ items, ∀ bindings : Bindings,
      step bindings item = bindings.settle (offences item) (visits item)) (bindings : Bindings) :
    items.foldlM step bindings =
      bindings.settle (items.flatMap offences) (items.flatMap visits) := by
  induction items generalizing bindings with
  | nil => rfl
  | cons item rest ih =>
      rw [List.forall_mem_cons] at hstep
      obtain ⟨hitem, hrest⟩ := hstep
      rw [List.foldlM_cons, hitem, List.flatMap_cons, List.flatMap_cons, ← settle_append]
      exact congrArg _ (funext fun bound => ih hrest bound)

theorem bindScalars_eq (type : String) (path : List Nat) (index : Nat) (bindings : Bindings)
    (entries : List (FieldEntry ι)) :
    bindScalars type path index bindings entries =
      bindings.settle (entries.filterMap (FieldEntry.offence? type))
        (((entries.zipIdx index).flatMap fun (entry, index) => entry.visits index).map
          (Binding.under path)) := by
  induction entries generalizing index bindings with
  | nil => rfl
  | cons entry rest ih =>
      rw [bindScalars, List.zipIdx_cons, List.flatMap_cons, List.map_append, settle_append_visits]
      cases hshape : entry.shape with
      | scalar kind pointer =>
          have hoffence : entry.offence? type = none := by simp [FieldEntry.offence?, hshape]
          have hvisits : (entry.visits index).map (Binding.under path) = entry.boundKeys.map
              fun key => ⟨key, path ++ [index], kind, pointer, entry.name⟩ := by
            simp [FieldEntry.visits_scalar hshape, Binding.under]
          rw [List.filterMap_cons_none hoffence, hvisits, List.foldl_map]
          exact ih (index + 1) _
      | container kind =>
          have hvisits : entry.visits index = [] := by simp [FieldEntry.visits, hshape]
          dsimp only
          rw [hvisits]
          by_cases hkeys : entry.keys.isEmpty
          · have hoffence : entry.offence? type = none := by
              simp [FieldEntry.offence?, hshape, hkeys]
            rw [if_pos hkeys, List.filterMap_cons_none hoffence]
            exact ih (index + 1) bindings
          · have hoffence : entry.offence? type =
                some (.annotatedContainer entry.name type kind) := by
              simp [FieldEntry.offence?, hshape, hkeys]
            rw [if_neg hkeys, List.filterMap_cons_some hoffence]
            rfl
      | record inner pointer =>
          have hoffence : entry.offence? type = none := by simp [FieldEntry.offence?, hshape]
          have hvisits : entry.visits index = [] := by simp [FieldEntry.visits, hshape]
          dsimp only
          rw [List.filterMap_cons_none hoffence, hvisits]
          exact ih (index + 1) bindings
      | unsupported =>
          have hoffence : entry.offence? type = none := by simp [FieldEntry.offence?, hshape]
          have hvisits : entry.visits index = [] := by simp [FieldEntry.visits, hshape]
          dsimp only
          rw [List.filterMap_cons_none hoffence, hvisits]
          exact ih (index + 1) bindings

end Bindings

namespace Schema

variable [DecidableEq ι] (schema : Schema ι)

/-- A visit binds the scalars of a record and then visits its nested records one by one. -/
theorem visit_eq_foldlM (met : List ι) (path : List Nat) (type : ι) (bindings : Bindings) :
    schema.visit met path type bindings =
      Bindings.bindScalars (schema.record type).name path 0 bindings (schema.record type).table >>=
        fun bound => (schema.record type).nestedFields.foldlM
          (fun bound field =>
            if _ : field.type ∈ met then
              .error (.recursiveRecord (schema.record field.type).name field.name)
            else
              schema.visit (field.type :: met) (path ++ [field.index]) field.type bound) bound := by
  rw [visit]
  refine congrArg _ (funext fun bound => ?_)
  rw [RecordType.nestedFields, List.foldlM_filterMap]
  congr
  funext bound item
  cases hshape : item.1.shape <;> simp [NestedField.ofEntry?, hshape, pure, Except.pure]

/-- **Binding a record type settles its offences and its visits.** -/
theorem visit_eq (met : List ι) (path : List Nat) (type : ι) (bindings : Bindings) :
    schema.visit met path type bindings =
      bindings.settle (schema.offences met type)
        ((schema.traversalPast met type).map (Binding.under path)) := by
  induction met, path, type, bindings using Schema.visit.induct schema with
  | case1 met path type bindings ih =>
      rw [visit_eq_foldlM, traversalPast, offences, List.map_append, ← Bindings.settle_append,
        Bindings.bindScalars_eq]
      refine congrArg _ (funext fun bound => ?_)
      rw [List.map_flatMap]
      apply Bindings.foldlM_settle
      intro field hfield bound
      by_cases hmet : field.type ∈ met
      · simp only [dif_pos hmet]
        rfl
      · simp only [dif_neg hmet]
        rw [ih bound field.index field.type hmet]
        simp [Binding.under_under, Function.comp_def]

theorem bindings_eq (type : ι) :
    schema.bindings type =
      Bindings.empty.settle (schema.offences [type] type) (schema.traversal type) := by
  have hunder : Binding.under [] = id := rfl
  rw [bindings, visit_eq, hunder, List.map_id, traversal]

theorem exists_bindings_iff (type : ι) :
    (∃ bindings, schema.bindings type = .ok bindings) ↔ schema.offences [type] type = [] := by
  rw [bindings_eq]
  cases schema.offences [type] type <;> simp [Bindings.settle]

theorem offences_eq_nil_iff (met : List ι) (type : ι) :
    schema.offences met type = [] ↔
      (schema.record type).containerOffences = [] ∧
        ∀ field ∈ (schema.record type).nestedFields,
          field.type ∉ met ∧ schema.offences (field.type :: met) field.type = [] := by
  rw [offences, List.append_eq_nil_iff, List.flatMap_eq_nil_iff]
  refine and_congr_right fun _ => forall₂_congr fun field _ => ?_
  by_cases hmet : field.type ∈ met <;> simp [hmet]

/-- Without offences the traversal does not depend on the path to the record: with fewer types on
    it there are no offences either, and the visits are the same. -/
theorem traversalPast_eq_of_subset {met fewer : List ι} {type : ι}
    (h : schema.offences met type = []) (hfewer : fewer ⊆ met) :
    schema.offences fewer type = [] ∧
      schema.traversalPast fewer type = schema.traversalPast met type := by
  induction met, type using Schema.offences.induct schema generalizing fewer with
  | case1 met type ih =>
      rw [offences_eq_nil_iff] at h ⊢
      obtain ⟨hcontainers, hnested⟩ := h
      have hinner : ∀ field ∈ (schema.record type).nestedFields, field.type ∉ fewer ∧
          schema.offences (field.type :: fewer) field.type = [] ∧
            schema.traversalPast (field.type :: fewer) field.type =
              schema.traversalPast (field.type :: met) field.type := by
        intro field hfield
        obtain ⟨hmet, hoffences⟩ := hnested field hfield
        exact ⟨fun hmem => hmet (hfewer hmem),
          ih field hmet hoffences (List.cons_subset_cons _ hfewer)⟩
      constructor
      · exact ⟨hcontainers, fun field hfield =>
          ⟨(hinner field hfield).1, (hinner field hfield).2.1⟩⟩
      · rw [traversalPast, traversalPast]
        refine congrArg _ (List.flatMap_congr fun field hfield => ?_)
        rw [dif_neg (hinner field hfield).1, dif_neg (hnested field hfield).1,
          (hinner field hfield).2.2]

theorem traversal_eq {type : ι} (h : schema.offences [type] type = []) :
    schema.traversal type = (schema.record type).scalarVisits ++
      (schema.record type).nestedFields.flatMap fun field =>
        (schema.traversal field.type).map (Binding.under [field.index]) := by
  have hnested := ((schema.offences_eq_nil_iff [type] type).1 h).2
  rw [traversal, traversalPast]
  refine congrArg _ (List.flatMap_congr fun field hfield => ?_)
  obtain ⟨hmet, hoffences⟩ := hnested field hfield
  have hinner := (schema.traversalPast_eq_of_subset hoffences
    (List.cons_subset_cons field.type (List.nil_subset [type]))).2
  rw [dif_neg hmet, ← hinner, traversal]

end Schema

/-! ## A small drawing -/

namespace Drawing

inductive Kind
  | point
  | line
  | group
deriving DecidableEq

def pointFields : List (RecordField (FieldType Kind)) :=
  [⟨"id", [], false, .scalar .string⟩]

/-- A line has a name of its own, and points at its ends, of which the second may be missing. -/
def lineFields : List (RecordField (FieldType Kind)) :=
  [⟨"start", [], false, .record .point⟩, ⟨"id", [], false, .scalar .string⟩,
    ⟨"stop", [], false, .optional (.boxed (.record .point))⟩]

/-- A group has a line, and perhaps another group inside it. -/
def groupFields : List (RecordField (FieldType Kind)) :=
  [⟨"line", [], false, .record .line⟩,
    ⟨"parts", [], false, .optional (.boxed (.record .group))⟩]

def newPoint : List (Value Kind) :=
  [.scalar ScalarType.string.zero]

def newLine : List (Value Kind) :=
  [.record .point newPoint, .scalar ScalarType.string.zero, .absent (.boxed (.record .point))]

def schema : Schema Kind where
  record
    | .point => .derived "Point" pointFields newPoint
    | .line => .derived "Line" lineFields newLine
    | .group => .derived "Group" groupFields
        [.record .line newLine, .absent (.boxed (.record .group))]
  types := [.point, .line, .group]
  mem_types := by rintro (_ | _ | _) <;> decide

/-- The name of a line is that of its second end. -/
def stopBinding : Binding :=
  ⟨"id", [2, 0], .string, false, "id"⟩

end Drawing

end ResourceNames
