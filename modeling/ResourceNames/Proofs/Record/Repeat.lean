import ResourceNames.Proofs.Record.Address

set_option autoImplicit false

/-! # Writing again

Writes at different places can be exchanged, and of two writes at the same places only the second
one counts. So a run of writes that is repeated on its own outcome changes nothing
(`Writes.repeated`): a write whose places are written again later in the run is lost both times, and
any other finds there what it writes. -/

namespace ResourceNames.Value

variable {ι : Type} {recordFields : ι → List (Value ι)} {old new old' new' : Scalar}
  {places places' : List Nat} {writes : List (List Nat × Scalar)}
  {before after after' other : Value ι}

/-! ## Two writes -/

namespace Written

/-- The value before a write and what is written determine the value after it. -/
theorem unique (h : Written recordFields old new places before after)
    (h' : Written recordFields old' new places before after') : old = old' ∧ after = after' := by
  induction h generalizing after' with
  | scalar =>
      cases h'
      exact ⟨rfl, rfl⟩
  | field hget _ ih =>
      cases h' with
      | field hget' h' =>
          obtain rfl := Option.some.inj (hget.symm.trans hget')
          obtain ⟨rfl, rfl⟩ := ih h'
          exact ⟨rfl, rfl⟩
  | absent _ ih =>
      cases h' with
      | absent h' =>
          obtain ⟨rfl, rfl⟩ := ih h'
          exact ⟨rfl, rfl⟩
  | present _ ih =>
      cases h' with
      | present h' =>
          obtain ⟨rfl, rfl⟩ := ih h'
          exact ⟨rfl, rfl⟩
  | boxed _ ih =>
      cases h' with
      | boxed h' =>
          obtain ⟨rfl, rfl⟩ := ih h'
          exact ⟨rfl, rfl⟩

/-- Of two writes at the same places the second one counts. -/
theorem overwrite (h : Written recordFields old new places before after) (last : Scalar) :
    ∃ final, Written recordFields new last places after final ∧
      Written recordFields old last places before final := by
  induction h with
  | scalar => exact ⟨_, .scalar, .scalar⟩
  | @field type fields position rest before after hget h ih =>
      obtain ⟨final, hagain, hdirect⟩ := ih
      have hlt : position < fields.length := (List.getElem?_eq_some_iff.1 hget).1
      have hset : (fields.set position after)[position]? = some after :=
        List.getElem?_set_self hlt
      refine ⟨_, .field hset hagain, ?_⟩
      rw [List.set_set]
      exact .field hget hdirect
  | absent h ih =>
      obtain ⟨final, hagain, hdirect⟩ := ih
      exact ⟨_, .present hagain, .absent hdirect⟩
  | present h ih =>
      obtain ⟨final, hagain, hdirect⟩ := ih
      exact ⟨_, .present hagain, .present hdirect⟩
  | boxed h ih =>
      obtain ⟨final, hagain, hdirect⟩ := ih
      exact ⟨_, .boxed hagain, .boxed hdirect⟩

/-- What was there before a write is the same for every write at the same places. -/
theorem old_unique (h : Written recordFields old new places before after)
    (h' : Written recordFields old' new' places before other) : old = old' := by
  obtain ⟨final, -, hdirect⟩ := h.overwrite new'
  exact (hdirect.unique h').1

/-- A write that is repeated changes nothing. -/
theorem repeated (h : Written recordFields old new places before after) :
    Written recordFields new new places after after := by
  obtain ⟨final, hagain, hdirect⟩ := h.overwrite new
  obtain ⟨-, rfl⟩ := h.unique hdirect
  exact hagain

/-- Writes at different places can be exchanged. -/
theorem exchange (h : Written recordFields old new places before after)
    (h' : Written recordFields old' new' places' before other) (hne : places ≠ places') :
    ∃ final, Written recordFields old new places other final ∧
      Written recordFields old' new' places' after final := by
  induction h generalizing places' other with
  | scalar =>
      cases h'
      exact absurd rfl hne
  | @field type fields position rest before after hget h ih =>
      cases h' with
      | @field _ _ position' rest' before' other hget' h' =>
          have hlt : position < fields.length := (List.getElem?_eq_some_iff.1 hget).1
          have hlt' : position' < fields.length := (List.getElem?_eq_some_iff.1 hget').1
          by_cases hposition : position = position'
          · subst hposition
            obtain rfl := Option.some.inj (hget.symm.trans hget')
            obtain ⟨final, hfirst, hsecond⟩ := ih h' fun hrest => hne (congrArg _ hrest)
            have hset : ∀ value, (fields.set position value).set position final =
                fields.set position final := fun value => List.set_set value
            refine ⟨.record type (fields.set position final), ?_, ?_⟩
            · rw [← hset other]
              exact .field (List.getElem?_set_self hlt) hfirst
            · rw [← hset after]
              exact .field (List.getElem?_set_self hlt) hsecond
          · refine ⟨.record type ((fields.set position after).set position' other), ?_, ?_⟩
            · rw [List.set_comm _ _ hposition]
              refine .field ?_ h
              rw [List.getElem?_set_ne (Ne.symm hposition), hget]
            · refine .field ?_ h'
              rw [List.getElem?_set_ne hposition, hget']
  | absent h ih =>
      cases h' with
      | absent h' =>
          obtain ⟨final, hfirst, hsecond⟩ := ih h' hne
          exact ⟨_, .present hfirst, .present hsecond⟩
  | present h ih =>
      cases h' with
      | present h' =>
          obtain ⟨final, hfirst, hsecond⟩ := ih h' hne
          exact ⟨_, .present hfirst, .present hsecond⟩
  | boxed h ih =>
      cases h' with
      | boxed h' =>
          obtain ⟨final, hfirst, hsecond⟩ := ih h' hne
          exact ⟨_, .boxed hfirst, .boxed hsecond⟩

end Written

/-! ## A write and a run of writes -/

namespace Writes

theorem unique (h : Writes recordFields writes before after)
    (h' : Writes recordFields writes before after') : after = after' := by
  induction h with
  | nil _ => exact h'.eq_of_nil
  | cons h _ ih =>
      cases h' with
      | cons hfirst hrest =>
          obtain ⟨-, rfl⟩ := h.unique hfirst
          exact ih hrest

/-- A write can be exchanged with a run of writes at other places. -/
theorem exchange (h : Writes recordFields writes before after)
    (hwrite : Written recordFields old new places before other)
    (hother : ∀ write ∈ writes, write.1 ≠ places) :
    ∃ final, Written recordFields old new places after final ∧
      Writes recordFields writes other final := by
  induction h generalizing other with
  | nil _ => exact ⟨other, hwrite, .nil other⟩
  | cons h _ ih =>
      rw [List.forall_mem_cons] at hother
      obtain ⟨middle, hmiddle, hfirst⟩ := hwrite.exchange h (Ne.symm hother.1)
      obtain ⟨final, hfinal, hrest⟩ := ih hmiddle hother.2
      exact ⟨final, hfinal, .cons hfirst hrest⟩

/-- A write is lost if the run that follows writes at the same places. -/
theorem absorb (h : Writes recordFields writes before after)
    (hwrite : Written recordFields old new places before other)
    (hlater : ∃ write ∈ writes, write.1 = places) : Writes recordFields writes other after := by
  induction h generalizing other with
  | nil _ => simp at hlater
  | @cons first new' places' writes before middle after h hrest ih =>
      by_cases hplaces : places' = places
      · subst hplaces
        obtain ⟨final, hagain, hdirect⟩ := hwrite.overwrite new'
        obtain ⟨-, rfl⟩ := h.unique hdirect
        exact .cons hagain hrest
      · obtain ⟨middle', hmiddle, hfirst⟩ := hwrite.exchange h (Ne.symm hplaces)
        rw [List.exists_mem_cons_iff, or_iff_right hplaces] at hlater
        exact .cons hfirst (ih hmiddle hlater)

/-- What was written before a run of writes at other places is still there afterwards. -/
theorem settled (h : Writes recordFields writes before after)
    (hwrite : Written recordFields old old places before before)
    (hother : ∀ write ∈ writes, write.1 ≠ places) :
    Written recordFields old old places after after := by
  obtain ⟨final, hfinal, hrun⟩ := h.exchange hwrite hother
  obtain rfl := h.unique hrun
  exact hfinal

/-- The places that a run has written to are there, with contents in every pointer on the way. -/
theorem exists_settled (h : Writes recordFields writes before after)
    (hplaces : ∃ write ∈ writes, write.1 = places) :
    ∃ scalar, Written recordFields scalar scalar places after after := by
  induction h with
  | nil _ => simp at hplaces
  | @cons old new places' writes before middle after h hrest ih =>
      by_cases hlater : ∃ write ∈ writes, write.1 = places
      · exact ih hlater
      · rw [List.exists_mem_cons_iff, or_iff_left hlater] at hplaces
        subst hplaces
        exact ⟨new, hrest.settled h.repeated fun write hwrite hsame =>
          hlater ⟨write, hwrite, hsame⟩⟩

/-- **A run of writes that is repeated on its own outcome changes nothing.** -/
theorem repeated (h : Writes recordFields writes before after) :
    Writes recordFields writes after after := by
  induction h with
  | nil value => exact .nil value
  | @cons old new places writes before middle after h hrest ih =>
      by_cases hlater : ∃ write ∈ writes, write.1 = places
      · obtain ⟨found, hsettled⟩ := hrest.exists_settled hlater
        obtain ⟨final, hwrite, -⟩ := hsettled.overwrite new
        exact .cons hwrite (ih.absorb hwrite hlater)
      · exact .cons (hrest.settled h.repeated fun write hwrite hsame =>
          hlater ⟨write, hwrite, hsame⟩) ih

/-- The same holds where pointers on one more way are given contents after the run. -/
theorem repeated_of_written (h : Writes recordFields writes before other)
    (hwrite : Written recordFields old old places other after) :
    Writes recordFields writes after after ∧ Written recordFields old old places after after := by
  refine ⟨?_, hwrite.repeated⟩
  by_cases hplaces : ∃ write ∈ writes, write.1 = places
  · -- The run has been there, so that there is nothing left to give contents to.
    obtain ⟨scalar, hsettled⟩ := h.exists_settled hplaces
    obtain rfl := hwrite.old_unique hsettled
    obtain ⟨-, rfl⟩ := hwrite.unique hsettled
    exact h.repeated
  · obtain ⟨final, hfinal, hrun⟩ := h.repeated.exchange hwrite fun write hmem hsame =>
      hplaces ⟨write, hmem, hsame⟩
    obtain ⟨-, rfl⟩ := hwrite.unique hfinal
    exact hrun

end Writes

end ResourceNames.Value
