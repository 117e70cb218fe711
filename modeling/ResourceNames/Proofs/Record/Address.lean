import ResourceNames.Proofs.Record.Write

set_option autoImplicit false

/-! # What a write leaves alone

An address leads from a value to a value inside it, field by field and pointer by pointer. A write
at some places leaves everything alone whose address does not go along with the places: what was
there before is there afterwards, and what was not there before, because some pointer lacked
contents, is what the contents of new pointers start with. A pointer on the way has contents
afterwards; any other has contents if and only if it had them before. -/

namespace ResourceNames

variable {ι : Type}

/-- A step from a value into it. -/
inductive Step
  /-- To the stored field of a record at a position. -/
  | field (position : Nat)
  /-- To the contents of a pointer. -/
  | content
deriving DecidableEq

/-- The positions of the stored fields that an address goes through. -/
def Step.positions : List Step → List Nat
  | [] => []
  | .field position :: rest => position :: positions rest
  | .content :: rest => positions rest

namespace Value

/-- The value at an address. -/
def at? : List Step → Value ι → Option (Value ι)
  | [], value => some value
  | .field position :: rest, .record _ fields => fields[position]?.bind (at? rest)
  | .content :: rest, .present content => at? rest content
  | .content :: rest, .boxed content => at? rest content
  | _, _ => none

/-- The value at an address, where a pointer without contents is taken to have those that a new one
starts with. -/
def lookup? (recordFields : ι → List (Value ι)) : List Step → Value ι → Option (Value ι)
  | [], value => some value
  | .field position :: rest, .record _ fields =>
    fields[position]?.bind (lookup? recordFields rest)
  | .content :: rest, .absent content =>
    lookup? recordFields rest (content.initial recordFields)
  | .content :: rest, .present content => lookup? recordFields rest content
  | .content :: rest, .boxed content => lookup? recordFields rest content
  | _, _ => none

/-- The value is that of an optional field. -/
inductive IsOptional : Value ι → Prop
  | absent (content : FieldType ι) : IsOptional (.absent content)
  | present (content : Value ι) : IsOptional (.present content)

/-- The value is that of an optional field with contents. -/
inductive IsPresent : Value ι → Prop
  | present (content : Value ι) : IsPresent (.present content)

theorem lookup?_of_at? (recordFields : ι → List (Value ι)) {address : List Step}
    {value found : Value ι} (h : value.at? address = some found) :
    value.lookup? recordFields address = some found := by
  induction address generalizing value with
  | nil => exact h
  | cons step rest ih =>
      cases step with
      | field position =>
          cases value with
          | record type fields =>
              rw [at?, Option.bind_eq_some_iff] at h
              obtain ⟨field, hfield, hfound⟩ := h
              rw [lookup?, hfield]
              exact ih hfound
          | _ => simp [at?] at h
      | content =>
          cases value with
          | present content => exact ih h
          | boxed content => exact ih h
          | _ => simp [at?] at h

/-! ## One write -/

namespace Written

variable {recordFields : ι → List (Value ι)} {old new : Scalar} {places : List Nat}
  {before after : Value ι}

/-- Whatever is not on the way is left alone, even inside contents that were given on the way. -/
theorem lookup?_eq (h : Written recordFields old new places before after) {address : List Step}
    (haddress : ¬ Step.positions address <+: places) :
    after.lookup? recordFields address = before.lookup? recordFields address := by
  induction h generalizing address with
  | scalar =>
      rcases address with _ | ⟨_ | _, rest⟩
      · exact absurd List.nil_prefix haddress
      · rfl
      · rfl
  | @field type fields position places before after hget h ih =>
      rcases address with _ | ⟨first | _, rest⟩
      · exact absurd List.nil_prefix haddress
      · rw [lookup?, lookup?]
        by_cases hfirst : position = first
        · subst hfirst
          have hlt : position < fields.length := (List.getElem?_eq_some_iff.1 hget).1
          rw [List.getElem?_set_self hlt, hget]
          apply ih
          intro halong
          exact haddress (List.cons_prefix_cons.2 ⟨rfl, halong⟩)
        · rw [List.getElem?_set_ne hfirst]
      · rfl
  | absent h ih =>
      rcases address with _ | ⟨_ | _, rest⟩
      · exact absurd List.nil_prefix haddress
      · rfl
      · exact ih haddress
  | present h ih =>
      rcases address with _ | ⟨_ | _, rest⟩
      · exact absurd List.nil_prefix haddress
      · rfl
      · exact ih haddress
  | boxed h ih =>
      rcases address with _ | ⟨_ | _, rest⟩
      · exact absurd List.nil_prefix haddress
      · rfl
      · exact ih haddress

/-- Whatever was there stays there: off the way as it was, on the way as a write of its own. -/
theorem at?_of_at? (h : Written recordFields old new places before after) {address : List Step}
    {value : Value ι} (hvalue : before.at? address = some value) :
    (¬ Step.positions address <+: places ∧ after.at? address = some value) ∨
      ∃ rest value', Step.positions address ++ rest = places ∧
        after.at? address = some value' ∧ Written recordFields old new rest value value' := by
  induction h generalizing address with
  | scalar =>
      rcases address with _ | ⟨_ | _, rest⟩
      · obtain rfl : _ = value := by simpa [at?] using hvalue
        exact .inr ⟨[], _, rfl, rfl, .scalar⟩
      · simp [at?] at hvalue
      · simp [at?] at hvalue
  | @field type fields position places before after hget h ih =>
      rcases address with _ | ⟨first | _, rest⟩
      · obtain rfl : _ = value := by simpa [at?] using hvalue
        exact .inr ⟨_, _, rfl, rfl, .field hget h⟩
      · rw [at?] at hvalue ⊢
        by_cases hfirst : position = first
        · subst hfirst
          have hlt : position < fields.length := (List.getElem?_eq_some_iff.1 hget).1
          rw [hget] at hvalue
          rw [List.getElem?_set_self hlt]
          -- The way goes on through the same field.
          rcases ih hvalue with ⟨halong, hafter⟩ | ⟨others, value', hplaces, hafter, hwritten⟩
          · refine .inl ⟨?_, hafter⟩
            intro hcons
            exact halong (List.cons_prefix_cons.1 hcons).2
          · exact .inr ⟨others, value', congrArg (position :: ·) hplaces, hafter, hwritten⟩
        · -- Another field of the same record is off the way.
          rw [List.getElem?_set_ne hfirst]
          refine .inl ⟨?_, hvalue⟩
          intro hcons
          exact hfirst (List.cons_prefix_cons.1 hcons).1.symm
      · simp [at?] at hvalue
  | absent h ih =>
      rcases address with _ | ⟨_ | _, rest⟩
      · obtain rfl : _ = value := by simpa [at?] using hvalue
        exact .inr ⟨_, _, rfl, rfl, .absent h⟩
      · simp [at?] at hvalue
      · simp [at?] at hvalue
  | present h ih =>
      rcases address with _ | ⟨_ | _, rest⟩
      · obtain rfl : _ = value := by simpa [at?] using hvalue
        exact .inr ⟨_, _, rfl, rfl, .present h⟩
      · simp [at?] at hvalue
      · exact ih hvalue
  | boxed h ih =>
      rcases address with _ | ⟨_ | _, rest⟩
      · obtain rfl : _ = value := by simpa [at?] using hvalue
        exact .inr ⟨_, _, rfl, rfl, .boxed h⟩
      · simp [at?] at hvalue
      · exact ih hvalue

/-- A pointer that is written through has contents afterwards. -/
theorem isPresent (h : Written recordFields old new places before after)
    (hbefore : before.IsOptional) : after.IsPresent := by
  cases hbefore with
  | absent content =>
      cases h with
      | absent h => exact .present _
  | present content =>
      cases h with
      | present h => exact .present _

end Written

/-! ## A run of writes -/

/-- `after` is `before` after writes of scalars at places, one after the other. -/
inductive Writes (recordFields : ι → List (Value ι)) :
    List (List Nat × Scalar) → Value ι → Value ι → Prop
  | nil (value : Value ι) : Writes recordFields [] value value
  | cons {old new : Scalar} {places : List Nat} {writes : List (List Nat × Scalar)}
      {before middle after : Value ι} (h : Written recordFields old new places before middle)
      (hrest : Writes recordFields writes middle after) :
      Writes recordFields ((places, new) :: writes) before after

namespace Writes

variable {recordFields : ι → List (Value ι)} {writes : List (List Nat × Scalar)}
  {before after : Value ι}

theorem eq_of_nil (h : Writes recordFields [] before after) : before = after := by
  cases h
  rfl

theorem scalarAt?_other (h : Writes recordFields writes before after) {places : List Nat}
    {scalar : Scalar} (hother : ∀ write ∈ writes, ¬ write.1 <+: places)
    (hscalar : before.scalarAt? places = some scalar) : after.scalarAt? places = some scalar := by
  induction h with
  | nil value => exact hscalar
  | cons h hrest ih =>
      rw [List.forall_mem_cons] at hother
      exact ih hother.2 (h.scalarAt?_other hother.1 hscalar)

/-- Where several writes go to the same places, the last one stands. -/
theorem scalarAt?_last {earlier later : List (List Nat × Scalar)} {places : List Nat}
    {scalar : Scalar}
    (h : Writes recordFields (earlier ++ (places, scalar) :: later) before after)
    (hlater : ∀ write ∈ later, ¬ write.1 <+: places) : after.scalarAt? places = some scalar := by
  induction earlier generalizing before with
  | nil =>
      cases h with
      | cons h hrest => exact hrest.scalarAt?_other hlater h.scalarAt?_self
  | cons first earlier ih =>
      cases h with
      | cons h hrest => exact ih hrest

theorem lookup?_eq (h : Writes recordFields writes before after) {address : List Step}
    (haddress : ∀ write ∈ writes, ¬ Step.positions address <+: write.1) :
    after.lookup? recordFields address = before.lookup? recordFields address := by
  induction h with
  | nil value => rfl
  | cons h hrest ih =>
      rw [List.forall_mem_cons] at haddress
      rw [ih haddress.2, h.lookup?_eq haddress.1]

theorem at?_eq (h : Writes recordFields writes before after) {address : List Step}
    {value : Value ι} (haddress : ∀ write ∈ writes, ¬ Step.positions address <+: write.1)
    (hvalue : before.at? address = some value) : after.at? address = some value := by
  induction h with
  | nil _ => exact hvalue
  | cons h hrest ih =>
      rw [List.forall_mem_cons] at haddress
      rcases h.at?_of_at? hvalue with ⟨-, hmiddle⟩ | ⟨rest, _, hplaces, -, -⟩
      · exact ih haddress.2 hmiddle
      · exact absurd ⟨rest, hplaces⟩ haddress.1

theorem isPresent_iff (h : Writes recordFields writes before after) {address : List Step}
    {value : Value ι} (hvalue : before.at? address = some value) (hoptional : value.IsOptional) :
    ∃ value', after.at? address = some value' ∧
      (value'.IsPresent ↔
        value.IsPresent ∨ ∃ write ∈ writes, Step.positions address <+: write.1) := by
  induction h generalizing value with
  | nil _ => exact ⟨value, hvalue, by simp⟩
  | @cons old new places writes before middle after h hrest ih =>
      simp only [List.exists_mem_cons_iff]
      rcases h.at?_of_at? hvalue with ⟨hplaces, hmiddle⟩ | ⟨rest, content, hplaces, hmiddle, hon⟩
      · obtain ⟨value', hafter, hiff⟩ := ih hmiddle hoptional
        refine ⟨value', hafter, ?_⟩
        rw [hiff]
        simp [hplaces]
      · have hpresent : content.IsPresent := hon.isPresent hoptional
        have hcontent : content.IsOptional := by
          cases hpresent
          exact .present _
        obtain ⟨value', hafter, hiff⟩ := ih hmiddle hcontent
        refine ⟨value', hafter, ?_⟩
        rw [hiff]
        simp only [hpresent, true_or, true_iff]
        exact .inr (.inl ⟨rest, hplaces⟩)

end Writes

end Value

end ResourceNames
