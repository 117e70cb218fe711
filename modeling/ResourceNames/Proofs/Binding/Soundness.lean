import Mathlib.Logic.Relation
import Mathlib.Tactic.SplitIfs
import ResourceNames.Proofs.Binding.Traversal

set_option autoImplicit false

/-! # Record types that can be bound

A record type can be bound if none of the types that its records are made of contains itself, and
none has a container that declares keys. The walk knows only the types on its path, and siblings
leave that path again. Still no cycle escapes: whatever is reached is reached along some path
without repetition, and the cycle is closed on it. And no type is taken for a cycle only because it
is met on two branches: all types on the path contain the one it leads to. -/

namespace ResourceNames

variable {ι : Type}

/-! ## What records are made of -/

namespace RecordType

theorem containerOffences_eq_nil_iff (record : RecordType ι) :
    record.containerOffences = [] ↔
      ∀ entry ∈ record.table, ∀ kind, entry.shape = .container kind → entry.keys = [] := by
  rw [containerOffences, List.filterMap_eq_nil_iff]
  refine forall₂_congr fun entry _ => ?_
  cases hshape : entry.shape <;> simp [FieldEntry.offence?, hshape]

theorem entry_of_mem_nestedFields {record : RecordType ι} {field : NestedField ι}
    (h : field ∈ record.nestedFields) :
    ∃ entry ∈ record.table, ∃ pointer,
      entry.shape = .record field.type pointer ∧ entry.name = field.name := by
  obtain ⟨⟨entry, index⟩, hitem, hfield⟩ := List.mem_filterMap.1 h
  refine ⟨entry, List.fst_mem_of_mem_zipIdx hitem, ?_⟩
  cases hshape : entry.shape <;> simp only [NestedField.ofEntry?, hshape, Option.some.injEq,
    reduceCtorEq] at hfield
  obtain rfl := hfield
  exact ⟨_, rfl, rfl⟩

theorem exists_mem_nestedFields {record : RecordType ι} {entry : FieldEntry ι} {inner : ι}
    {pointer : Bool} (h : entry ∈ record.table) (hshape : entry.shape = .record inner pointer) :
    ∃ field ∈ record.nestedFields, field.type = inner := by
  obtain ⟨index, hindex, rfl⟩ := List.mem_iff_getElem.1 h
  refine ⟨⟨index, record.table[index].name, inner⟩, List.mem_filterMap.2 ?_, rfl⟩
  refine ⟨(record.table[index], index), ?_, by simp [NestedField.ofEntry?, hshape]⟩
  exact List.mem_zipIdx_iff_getElem?.2 (List.getElem?_eq_getElem hindex)

end RecordType

namespace Schema

/-- Records of the first type have a field that holds a record of the second one. -/
def Contains (schema : Schema ι) (type inner : ι) : Prop :=
  ∃ entry ∈ (schema.record type).table, ∃ pointer, entry.shape = .record inner pointer

variable {schema : Schema ι}

theorem contains_of_mem_nestedFields {type : ι} {field : NestedField ι}
    (h : field ∈ (schema.record type).nestedFields) : schema.Contains type field.type := by
  obtain ⟨entry, hentry, pointer, hshape, -⟩ := RecordType.entry_of_mem_nestedFields h
  exact ⟨entry, hentry, pointer, hshape⟩

/-- Every type on the path to a record contains the type of the record, or is that type. -/
def OnPath (schema : Schema ι) (met : List ι) (type : ι) : Prop :=
  ∀ other ∈ met, Relation.ReflTransGen schema.Contains other type

theorem OnPath.step {met : List ι} {type inner : ι} (h : schema.OnPath met type)
    (hcontains : schema.Contains type inner) : schema.OnPath (inner :: met) inner := by
  intro other hother
  rcases List.mem_cons.1 hother with rfl | hmem
  · exact .refl
  · exact (h other hmem).tail hcontains

/-! ## The walk ends -/

variable [DecidableEq ι]

/-- A visit of a record comes out of that of another which has it in a field, where the types on the
    path are at hand: no type is visited that is there already. -/
inductive Descends (schema : Schema ι) : List ι × ι → List ι × ι → Prop
  | step {met : List ι} {type inner : ι} (hcontains : schema.Contains type inner)
      (hmet : inner ∉ met) : Descends schema (inner :: met, inner) (met, type)

/-- **No visit descends forever**, whatever cycles there are among the types. -/
theorem wellFounded_descends (schema : Schema ι) : WellFounded schema.Descends := by
  refine Subrelation.wf ?_ (InvImage.wf (fun visit => schema.unmet visit.1) Nat.lt_wfRel.wf)
  rintro _ _ ⟨-, hmet⟩
  exact schema.unmet_cons_lt hmet

/-! ## No offences, no cycles -/

theorem not_mem_of_contains {met : List ι} {type inner : ι} (h : schema.offences met type = [])
    (hcontains : schema.Contains type inner) :
    inner ∉ met ∧ schema.offences (inner :: met) inner = [] := by
  obtain ⟨entry, hentry, pointer, hshape⟩ := hcontains
  obtain ⟨field, hfield, rfl⟩ := RecordType.exists_mem_nestedFields hentry hshape
  exact ((schema.offences_eq_nil_iff met type).1 h).2 field hfield

/-- Whatever a type without offences is made of is without offences too, at the end of a path that
    goes on from the one to the type. -/
theorem offences_eq_nil_of_reaches {met : List ι} {type other : ι}
    (h : schema.offences met type = []) (hmet : type ∈ met)
    (hreaches : Relation.ReflTransGen schema.Contains type other) :
    ∃ more, met ⊆ more ∧ other ∈ more ∧ schema.offences more other = [] := by
  induction hreaches with
  | refl => exact ⟨met, List.Subset.refl met, hmet, h⟩
  | @tail middle other _ hcontains ih =>
      obtain ⟨more, hsubset, -, hoffences⟩ := ih
      obtain ⟨-, hother⟩ := not_mem_of_contains hoffences hcontains
      exact ⟨other :: more, List.subset_cons_of_subset other hsubset, List.mem_cons_self, hother⟩

theorem not_cyclic_of_offences_eq_nil {met : List ι} {type : ι}
    (h : schema.offences met type = []) (hmet : type ∈ met) :
    ¬ Relation.TransGen schema.Contains type type := by
  intro hcycle
  obtain ⟨last, hreaches, hcontains⟩ := Relation.TransGen.tail'_iff.1 hcycle
  -- The cycle is closed at a record that has the type on its path.
  obtain ⟨more, hsubset, -, hoffences⟩ := offences_eq_nil_of_reaches h hmet hreaches
  exact (not_mem_of_contains hoffences hcontains).1 (hsubset hmet)

/-- All that records of a type are made of is sound: no type contains itself, and no container
    declares keys. -/
def Sound (schema : Schema ι) (type : ι) : Prop :=
  ∀ other, Relation.ReflTransGen schema.Contains type other →
    ¬ Relation.TransGen schema.Contains other other ∧
      ∀ entry ∈ (schema.record other).table, ∀ kind,
        entry.shape = .container kind → entry.keys = []

theorem sound_of_offences_eq_nil {type : ι} (h : schema.offences [type] type = []) :
    schema.Sound type := by
  intro other hreaches
  obtain ⟨more, -, hmet, hoffences⟩ :=
    offences_eq_nil_of_reaches h List.mem_cons_self hreaches
  refine ⟨not_cyclic_of_offences_eq_nil hoffences hmet, ?_⟩
  rw [← RecordType.containerOffences_eq_nil_iff]
  exact ((schema.offences_eq_nil_iff more other).1 hoffences).1

/-! ## No cycles, no offences -/

variable {met : List ι} {type : ι}

theorem offences_eq_nil_of_sound (hpath : schema.OnPath met type) (h : schema.Sound type) :
    schema.offences met type = [] := by
  induction met, type using Schema.offences.induct schema with
  | case1 met type ih =>
      rw [offences_eq_nil_iff, RecordType.containerOffences_eq_nil_iff]
      refine ⟨(h type .refl).2, fun field hfield => ?_⟩
      have hcontains := contains_of_mem_nestedFields hfield
      have hmet : field.type ∉ met := by
        intro hmem
        exact (h type .refl).1 (.head' hcontains (hpath _ hmem))
      refine ⟨hmet, ih field hmet (hpath.step hcontains) ?_⟩
      intro other hreaches
      exact h other (.head hcontains hreaches)

/-- What is reported as a cycle is one. -/
theorem cyclic_of_recursiveRecord {name field : String} (hpath : schema.OnPath met type)
    (h : .recursiveRecord name field ∈ schema.offences met type) :
    ∃ holder, Relation.ReflTransGen schema.Contains type holder ∧
      ∃ entry ∈ (schema.record holder).table, ∃ inner pointer,
        entry.shape = .record inner pointer ∧ entry.name = field ∧
        (schema.record inner).name = name ∧
        Relation.ReflTransGen schema.Contains inner holder := by
  induction met, type using Schema.offences.induct schema with
  | case1 met type ih =>
      rw [offences, List.mem_append, List.mem_flatMap] at h
      rcases h with hcontainer | ⟨nested, hnested, hoffence⟩
      · obtain ⟨entry, -, hentry⟩ := List.mem_filterMap.1 hcontainer
        unfold FieldEntry.offence? at hentry
        split at hentry
        · split_ifs at hentry
          cases hentry
        · cases hentry
      · by_cases hmet : nested.type ∈ met
        · rw [dif_pos hmet, List.mem_singleton] at hoffence
          obtain ⟨rfl, rfl⟩ := BindingError.recursiveRecord.inj hoffence
          obtain ⟨entry, hentry, pointer, hshape, hname⟩ :=
            RecordType.entry_of_mem_nestedFields hnested
          exact ⟨type, .refl, entry, hentry, nested.type, pointer, hshape, hname, rfl,
            hpath _ hmet⟩
        · rw [dif_neg hmet] at hoffence
          have hcontains := contains_of_mem_nestedFields hnested
          obtain ⟨holder, hreaches, hcycle⟩ := ih nested hmet (hpath.step hcontains) hoffence
          exact ⟨holder, .head hcontains hreaches, hcycle⟩

/-- **Binding ends, and accepts exactly the sound record types.** No visit descends forever. Binding
succeeds if and only if no type that records of the root are made of contains itself or has a
container that declares keys, and else fails with the first offence. A cycle that is reported is
there: the type of the field leads back to the type that has the field. -/
theorem bindings_sound (schema : Schema ι) (root : ι) :
    WellFounded schema.Descends ∧
    ((∃ bindings, schema.bindings root = .ok bindings) ↔ schema.Sound root) ∧
    (∀ error, schema.bindings root = .error error ↔
      (schema.offences [root] root).head? = some error) ∧
    ∀ name field, schema.bindings root = .error (.recursiveRecord name field) →
      ∃ holder, Relation.ReflTransGen schema.Contains root holder ∧
        ∃ entry ∈ (schema.record holder).table, ∃ inner pointer,
          entry.shape = .record inner pointer ∧ entry.name = field ∧
          (schema.record inner).name = name ∧
          Relation.ReflTransGen schema.Contains inner holder := by
  have hpath : schema.OnPath [root] root := by
    intro other hother
    rw [List.mem_singleton.1 hother]
  have herror : ∀ error, schema.bindings root = .error error ↔
      (schema.offences [root] root).head? = some error := by
    intro error
    rw [bindings_eq]
    cases schema.offences [root] root <;> simp [Bindings.settle]
  refine ⟨schema.wellFounded_descends, ?_, herror, ?_⟩
  · rw [exists_bindings_iff]
    exact ⟨sound_of_offences_eq_nil, offences_eq_nil_of_sound hpath⟩
  · intro name field hrecursive
    exact cyclic_of_recursiveRecord hpath (List.mem_of_head? ((herror _).1 hrecursive))

example : Drawing.schema.bindings .group = .error (.recursiveRecord "Group" "parts") := by
  decide +kernel

end Schema

end ResourceNames
