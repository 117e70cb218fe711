import Mathlib.Tactic.ByContra
import ResourceNames.Proofs.Binding.Traversal

set_option autoImplicit false

/-! # Bindings in order

A binding is put in its place between those with smaller and those with greater keys, where an older
one of the same key gives way. So no two bindings have the same key, and each is the one that is
looked up with its key. -/

namespace ResourceNames

namespace Bindings

/-- The keys ascend. -/
def IsAscending (bindings : Bindings) : Prop :=
  bindings.entries.Pairwise fun first second => first.key < second.key

variable {binding entry : Binding} {entries : List Binding} {bindings : Bindings}

theorem mem_insertEntry (h : entry ∈ insertEntry binding entries) :
    entry = binding ∨ entry ∈ entries := by
  induction entries with
  | nil => exact .inl (List.mem_singleton.1 h)
  | cons first rest ih =>
      rw [insertEntry] at h
      split_ifs at h with hsame hless
      · exact (List.mem_cons.1 h).imp_right (List.mem_cons_of_mem first)
      · exact List.mem_cons.1 h
      · rcases List.mem_cons.1 h with rfl | hrest
        · exact .inr List.mem_cons_self
        · exact (ih hrest).imp_right (List.mem_cons_of_mem first)

theorem pairwise_insertEntry (binding : Binding)
    (h : entries.Pairwise fun first second => first.key < second.key) :
    (insertEntry binding entries).Pairwise fun first second => first.key < second.key := by
  induction entries with
  | nil => exact List.pairwise_singleton _ _
  | cons first rest ih =>
      obtain ⟨hfirst, hrest⟩ := List.pairwise_cons.1 h
      rw [insertEntry]
      split_ifs with hsame hless
      · rw [hsame] at hfirst
        exact .cons hfirst hrest
      · refine .cons ?_ h
        rw [List.forall_mem_cons]
        exact ⟨hless, fun other hother => String.lt_trans hless (hfirst other hother)⟩
      · refine .cons ?_ (ih hrest)
        intro other hother
        rcases mem_insertEntry hother with rfl | hmem
        · by_contra hnot
          exact hsame (String.le_antisymm (String.not_lt.1 hless) (String.not_lt.1 hnot))
        · exact hfirst other hmem

theorem isAscending_empty : empty.IsAscending :=
  .nil

theorem IsAscending.insert (h : bindings.IsAscending) (binding : Binding) :
    (bindings.insert binding).IsAscending :=
  pairwise_insertEntry binding h

theorem IsAscending.foldl_insert (h : bindings.IsAscending) (visits : List Binding) :
    (visits.foldl Bindings.insert bindings).IsAscending := by
  induction visits generalizing bindings with
  | nil => exact h
  | cons visit rest ih => exact ih (h.insert visit)

/-- Every binding is looked up with its key. -/
theorem IsAscending.get?_key (h : bindings.IsAscending) (hmem : binding ∈ bindings.entries) :
    bindings.get? binding.key = some binding := by
  obtain ⟨entries⟩ := bindings
  rw [get?]
  induction entries with
  | nil => cases hmem
  | cons first rest ih =>
      obtain ⟨hfirst, hrest⟩ := List.pairwise_cons.1 h
      rcases List.mem_cons.1 hmem with rfl | hmem
      · exact List.find?_cons_of_pos (beq_self_eq_true _)
      · have hne : first.key ≠ binding.key := by
          intro hsame
          exact String.lt_irrefl _ (hsame ▸ hfirst binding hmem)
        rw [List.find?_cons_of_neg (by simpa using hne)]
        exact ih hrest hmem

end Bindings

theorem Schema.isAscending_bindings {ι : Type} [DecidableEq ι] {schema : Schema ι} {type : ι}
    {bindings : Bindings} (h : schema.bindings type = .ok bindings) : bindings.IsAscending := by
  have hnone : schema.offences [type] type = [] := (schema.exists_bindings_iff type).1 ⟨_, h⟩
  rw [bindings_eq, hnone] at h
  rw [← Except.ok.inj h]
  exact Bindings.isAscending_empty.foldl_insert _

end ResourceNames
