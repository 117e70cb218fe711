import Mathlib.Data.List.Basic
import Mathlib.Tactic.SplitIfs
import ResourceNames.Proofs.Binding.Traversal

set_option autoImplicit false

/-! # The last visit of a key

Where a record type can be bound, a key is bound to the last visit of the key in the traversal. The
order of the traversal is an order on the paths of the visits, so that paths alone tell which of
several fields of one key stands. -/

namespace ResourceNames

variable {ι : Type}

/-! ## The order of the traversal -/

/-- A path is visited no later than another: at the record where the two part, scalars come in the
    order of their indices, before every nested record, and so do the nested records. -/
inductive VisitedNoLater : List Nat → List Nat → Prop
  | scalars {first second : Nat} (h : first ≤ second) : VisitedNoLater [first] [second]
  | scalar_record (first second next : Nat) (rest : List Nat) :
      VisitedNoLater [first] (second :: next :: rest)
  | records {first second : Nat} (h : first < second) (next other : Nat) (rest others : List Nat) :
      VisitedNoLater (first :: next :: rest) (second :: other :: others)
  | within (index : Nat) {path other : List Nat} (h : VisitedNoLater path other) :
      VisitedNoLater (index :: path) (index :: other)

theorem VisitedNoLater.refl (index : Nat) (rest : List Nat) :
    VisitedNoLater (index :: rest) (index :: rest) := by
  induction rest generalizing index with
  | nil => exact .scalars (Nat.le_refl index)
  | cons next rest ih => exact .within index (ih next)

theorem FieldEntry.path_of_mem_visits {index : Nat} {entry : FieldEntry ι} {visit : Binding}
    (h : visit ∈ entry.visits index) : visit.path = [index] := by
  cases hshape : entry.shape with
  | scalar kind pointer =>
      rw [visits_scalar hshape] at h
      obtain ⟨key, -, rfl⟩ := List.mem_map.1 h
      rfl
  | record type pointer => simp [visits, hshape] at h
  | container kind => simp [visits, hshape] at h
  | unsupported => simp [visits, hshape] at h

theorem NestedField.index_of_ofEntry? {index : Nat} {entry : FieldEntry ι} {field : NestedField ι}
    (h : ofEntry? index entry = some field) : field.index = index := by
  unfold ofEntry? at h
  split at h
  · obtain rfl := Option.some.inj h
    rfl
  · cases h

private theorem pairwise_zipIdx {α : Type} (items : List α) :
    items.zipIdx.Pairwise fun first second => first.2 < second.2 := by
  rw [← List.pairwise_map, List.zipIdx_map_snd]
  exact List.pairwise_lt_range'

namespace RecordType

variable (record : RecordType ι)

theorem path_of_mem_scalarVisits {visit : Binding} (h : visit ∈ record.scalarVisits) :
    ∃ index, visit.path = [index] := by
  obtain ⟨⟨entry, index⟩, -, hvisit⟩ := List.mem_flatMap.1 h
  exact ⟨index, FieldEntry.path_of_mem_visits hvisit⟩

theorem pairwise_scalarVisits :
    record.scalarVisits.Pairwise fun first second => VisitedNoLater first.path second.path := by
  rw [scalarVisits, List.pairwise_flatMap]
  constructor
  · rintro ⟨entry, index⟩ -
    refine List.pairwise_of_forall_mem_list fun first hfirst second hsecond => ?_
    rw [FieldEntry.path_of_mem_visits hfirst, FieldEntry.path_of_mem_visits hsecond]
    exact .scalars (Nat.le_refl index)
  · refine (pairwise_zipIdx record.table).imp ?_
    rintro ⟨entry, index⟩ ⟨other, later⟩ hindex first hfirst second hsecond
    rw [FieldEntry.path_of_mem_visits hfirst, FieldEntry.path_of_mem_visits hsecond]
    exact .scalars (Nat.le_of_lt hindex)

theorem pairwise_nestedFields :
    record.nestedFields.Pairwise fun first second => first.index < second.index := by
  rw [nestedFields, List.pairwise_filterMap]
  refine (pairwise_zipIdx record.table).imp ?_
  rintro ⟨entry, index⟩ ⟨other, later⟩ hindex first hfirst second hsecond
  rw [NestedField.index_of_ofEntry? hfirst, NestedField.index_of_ofEntry? hsecond]
  exact hindex

end RecordType

namespace Schema

variable [DecidableEq ι] (schema : Schema ι)

theorem path_of_mem_traversalPast (met : List ι) (type : ι) {visit : Binding}
    (h : visit ∈ schema.traversalPast met type) : ∃ index rest, visit.path = index :: rest := by
  rw [traversalPast, List.mem_append] at h
  rcases h with hscalar | hnested
  · obtain ⟨index, hpath⟩ := RecordType.path_of_mem_scalarVisits _ hscalar
    exact ⟨index, [], hpath⟩
  · obtain ⟨field, -, hvisit⟩ := List.mem_flatMap.1 hnested
    split_ifs at hvisit
    · simp at hvisit
    · obtain ⟨inner, -, rfl⟩ := List.mem_map.1 hvisit
      exact ⟨field.index, inner.path, rfl⟩

/-- A visit inside a nested record has a path that goes on from the field of that record. -/
theorem path_of_mem_nested {met : List ι} {field : NestedField ι} {visit : Binding}
    (h : visit ∈ if _ : field.type ∈ met then [] else
      (schema.traversalPast (field.type :: met) field.type).map (Binding.under [field.index])) :
    ∃ next rest, visit.path = field.index :: next :: rest := by
  split_ifs at h
  · simp at h
  · obtain ⟨inner, hinner, rfl⟩ := List.mem_map.1 h
    obtain ⟨next, rest, hpath⟩ := schema.path_of_mem_traversalPast _ _ hinner
    exact ⟨next, rest, by simp [Binding.under, hpath]⟩

theorem pairwise_traversalPast (met : List ι) (type : ι) :
    (schema.traversalPast met type).Pairwise fun first second =>
      VisitedNoLater first.path second.path := by
  induction met, type using Schema.traversalPast.induct schema with
  | case1 met type ih =>
      rw [traversalPast, List.pairwise_append, List.pairwise_flatMap]
      refine ⟨RecordType.pairwise_scalarVisits _, ⟨?_, ?_⟩, ?_⟩
      · intro field _
        split_ifs with hmet
        · exact .nil
        · rw [List.pairwise_map]
          exact (ih field hmet).imp fun h => .within field.index h
      · refine (RecordType.pairwise_nestedFields _).imp fun hindex visit hvisit other hother => ?_
        obtain ⟨next, rest, hpath⟩ := schema.path_of_mem_nested hvisit
        obtain ⟨otherNext, others, hotherPath⟩ := schema.path_of_mem_nested hother
        rw [hpath, hotherPath]
        exact .records hindex next otherNext rest others
      · intro visit hvisit other hother
        obtain ⟨index, hpath⟩ := RecordType.path_of_mem_scalarVisits _ hvisit
        obtain ⟨field, -, hnested⟩ := List.mem_flatMap.1 hother
        obtain ⟨next, rest, hotherPath⟩ := schema.path_of_mem_nested hnested
        rw [hpath, hotherPath]
        exact .scalar_record index field.index next rest

end Schema

/-! ## A letter -/

namespace Letter

inductive Kind
  | letter
  | address
deriving DecidableEq

/-- A letter has the address of who sent it, and perhaps that of a reader. -/
def letterFields : List (RecordField (FieldType Kind)) :=
  [⟨"subject", ["title", "topic"], false, .scalar .string⟩,
    ⟨"sender", [], false, .record .address⟩, ⟨"sentBy", [], false, .scalar .string⟩,
    ⟨"reader", [], false, .optional (.boxed (.record .address))⟩]

def addressFields : List (RecordField (FieldType Kind)) :=
  [⟨"streetName", [], false, .scalar .string⟩,
    ⟨"town", ["town", "topic"], false, .optional (.scalar .string)⟩]

def newAddress : List (Value Kind) :=
  [.scalar ScalarType.string.zero, .absent (.scalar .string)]

def newLetter : List (Value Kind) :=
  [.scalar ScalarType.string.zero, .record .address newAddress, .scalar ScalarType.string.zero,
    .absent (.boxed (.record .address))]

def schema : Schema Kind where
  record
    | .letter => .derived "Letter" letterFields newLetter
    | .address => .derived "Address" addressFields newAddress
  types := [.letter, .address]
  mem_types := by rintro (_ | _) <;> decide

/-- The visits to the fields of an address to which a path leads. -/
def addressVisits (path : List Nat) : List Binding :=
  [⟨"street_name", path ++ [0], .string, false, "streetName"⟩,
    ⟨"town", path ++ [1], .string, true, "town"⟩, ⟨"topic", path ++ [1], .string, true, "town"⟩]

/-- The visits to the fields of a letter itself. -/
def letterVisits : List Binding :=
  [⟨"title", [0], .string, false, "subject"⟩, ⟨"topic", [0], .string, false, "subject"⟩,
    ⟨"sent_by", [2], .string, false, "sentBy"⟩]

theorem traversal_letter :
    schema.traversal .letter = letterVisits ++ addressVisits [1] ++ addressVisits [3] := by
  decide +kernel

/-- The bindings of a letter, in which the reader's address stands for all that it shadows. -/
def letterBindings : Bindings :=
  ⟨[⟨"sent_by", [2], .string, false, "sentBy"⟩,
    ⟨"street_name", [3, 0], .string, false, "streetName"⟩,
    ⟨"title", [0], .string, false, "subject"⟩, ⟨"topic", [3, 1], .string, true, "town"⟩,
    ⟨"town", [3, 1], .string, true, "town"⟩]⟩

theorem bindings_letter : schema.bindings .letter = .ok letterBindings := by
  decide +kernel

end Letter

/-! ## The last visit of a key -/

namespace Bindings

theorem get?_foldl_insert (bindings : Bindings) (visits : List Binding) (key : String) :
    (visits.foldl insert bindings).get? key =
      (visits.reverse.find? fun visit => visit.key == key).or (bindings.get? key) := by
  induction visits generalizing bindings with
  | nil => rfl
  | cons visit rest ih =>
      rw [List.foldl_cons, ih, get?_insert, List.reverse_cons, List.find?_append, Option.or_assoc]
      by_cases hkey : visit.key = key <;> simp [hkey]

/-- Among bindings made from visits alone, that of a key is the last visit of the key. -/
theorem get?_eq_some_iff_last (visits : List Binding) (key : String) (binding : Binding) :
    (visits.foldl insert empty).get? key = some binding ↔
      ∃ earlier later, visits = earlier ++ binding :: later ∧ binding.key = key ∧
        ∀ visit ∈ later, visit.key ≠ key := by
  have hempty : empty.get? key = none := rfl
  rw [get?_foldl_insert, hempty, Option.or_none, List.find?_eq_some_iff_append]
  constructor
  · rintro ⟨hkey, later, earlier, hsplit, hlater⟩
    refine ⟨earlier.reverse, later.reverse, ?_, by simpa using hkey, by simpa using hlater⟩
    simpa using congrArg List.reverse hsplit
  · rintro ⟨earlier, later, rfl, hkey, hlater⟩
    exact ⟨by simpa using hkey, later.reverse, earlier.reverse, by simp, by simpa using hlater⟩

theorem get?_eq_none_iff_unvisited (visits : List Binding) (key : String) :
    (visits.foldl insert empty).get? key = none ↔ ∀ visit ∈ visits, visit.key ≠ key := by
  have hempty : empty.get? key = none := rfl
  rw [get?_foldl_insert, hempty, Option.or_none, List.find?_eq_none]
  simp

end Bindings

namespace Schema

variable [DecidableEq ι] {schema : Schema ι}

/-- **The binding of a key is its last visit.** The traversal of a record type that can be bound
consists of the visits to its own scalars and then, field by field, of the traversals of its nested
records, which can be bound as well. A key is bound to the last visit it has there, with all that
the visit tells of the field, and is not bound if it has none. So no visit of the key has a path
that comes later: a nested record shadows the records it is nested in, and of two fields of one
record the one that is declared later stands. -/
theorem bindings_last_visit {type : ι} {bindings : Bindings}
    (h : schema.bindings type = .ok bindings) :
    schema.traversal type = (schema.record type).scalarVisits ++
      (schema.record type).nestedFields.flatMap (fun field =>
        (schema.traversal field.type).map (Binding.under [field.index])) ∧
    (∀ field ∈ (schema.record type).nestedFields, ∃ inner,
      schema.bindings field.type = .ok inner) ∧
    (∀ key binding, bindings.get? key = some binding ↔
      ∃ earlier later, schema.traversal type = earlier ++ binding :: later ∧ binding.key = key ∧
        ∀ visit ∈ later, visit.key ≠ key) ∧
    (∀ key, bindings.get? key = none ↔ ∀ visit ∈ schema.traversal type, visit.key ≠ key) ∧
    ∀ visit ∈ schema.traversal type, ∃ binding, bindings.get? visit.key = some binding ∧
      VisitedNoLater visit.path binding.path := by
  have hnone : schema.offences [type] type = [] := (schema.exists_bindings_iff type).1 ⟨_, h⟩
  rw [bindings_eq, hnone] at h
  obtain rfl := Except.ok.inj h
  have hlast := Bindings.get?_eq_some_iff_last (schema.traversal type)
  have hunbound := Bindings.get?_eq_none_iff_unvisited (schema.traversal type)
  refine ⟨traversal_eq schema hnone, ?_, fun key => hlast key, hunbound, ?_⟩
  · intro field hfield
    obtain ⟨hmet, hoffences⟩ := ((schema.offences_eq_nil_iff [type] type).1 hnone).2 field hfield
    rw [exists_bindings_iff]
    exact (schema.traversalPast_eq_of_subset hoffences
      (List.cons_subset_cons field.type (List.nil_subset [type]))).1
  · intro visit hvisit
    cases hbinding : ((schema.traversal type).foldl Bindings.insert .empty).get? visit.key with
    | none => exact absurd rfl ((hunbound visit.key).1 hbinding visit hvisit)
    | some binding =>
        refine ⟨binding, rfl, ?_⟩
        obtain ⟨earlier, later, hsplit, hkey, hlater⟩ := (hlast visit.key binding).1 hbinding
        have hordered := schema.pairwise_traversalPast [type] type
        rw [← traversal, hsplit, List.pairwise_append] at hordered
        rw [hsplit, List.mem_append, List.mem_cons] at hvisit
        -- The visit comes before the binding, or else it would be a later visit of the same key.
        rcases hvisit with hearlier | rfl | hmem
        · exact hordered.2.2 visit hearlier binding List.mem_cons_self
        · have hmem : visit ∈ schema.traversalPast [type] type := by
            rw [← traversal, hsplit]
            simp
          obtain ⟨index, rest, hpath⟩ := schema.path_of_mem_traversalPast [type] type hmem
          rw [hpath]
          exact .refl index rest
        · exact absurd rfl (hlater visit hmem)

end Schema

/-- The keys of a letter are those its fields declare, and else their names in snake case. Of the
    three topics, that of the reader's address counts. -/
theorem Schema.bindings_last_visit_letter :
    Letter.schema.bindings .letter = .ok Letter.letterBindings ∧
      Letter.schema.traversal .letter =
        Letter.letterVisits ++ Letter.addressVisits [1] ++ Letter.addressVisits [3] ∧
      Letter.letterBindings.get? "title" = some ⟨"title", [0], .string, false, "subject"⟩ ∧
      Letter.letterBindings.get? "sent_by" = some ⟨"sent_by", [2], .string, false, "sentBy"⟩ ∧
      Letter.letterBindings.get? "street_name" =
        some ⟨"street_name", [3, 0], .string, false, "streetName"⟩ ∧
      Letter.letterBindings.get? "topic" = some ⟨"topic", [3, 1], .string, true, "town"⟩ ∧
      Letter.letterBindings.get? "subject" = none ∧
      Letter.letterBindings.get? "sentBy" = none := by
  obtain ⟨-, -, hlast, hunbound, -⟩ := bindings_last_visit Letter.bindings_letter
  rw [Letter.traversal_letter] at hlast hunbound
  refine ⟨Letter.bindings_letter, Letter.traversal_letter, (hlast _ _).2 ?_, (hlast _ _).2 ?_,
    (hlast _ _).2 ?_, (hlast _ _).2 ?_, (hunbound _).2 ?_, (hunbound _).2 ?_⟩
  · exact ⟨[], _, rfl, rfl, by decide⟩
  · exact ⟨Letter.letterVisits.take 2, _, rfl, rfl, by decide⟩
  · exact ⟨Letter.letterVisits ++ Letter.addressVisits [1], _, rfl, rfl, by decide⟩
  · exact ⟨Letter.letterVisits ++ Letter.addressVisits [1] ++
      (Letter.addressVisits [3]).take 2, [], rfl, rfl, by decide⟩
  · decide
  · decide

end ResourceNames
