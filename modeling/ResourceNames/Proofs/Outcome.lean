import Mathlib.Data.List.Basic

set_option autoImplicit false

/-! # Steps that may fail

What is done in several steps succeeds if each of them does. The steps may stand one after the other,
be done for the items of a list, each by itself, or for one item after the other, each with what the
one before has left. -/

namespace ResourceNames

variable {ε α β : Type}

/-- Two steps succeed if the first does, and the second does with what the first has given. -/
theorem bind_eq_ok_iff {first : Except ε α} {second : α → Except ε β} {last : β} :
    (first >>= second) = .ok last ↔ ∃ next, first = .ok next ∧ second next = .ok last := by
  cases first with
  | error error => simp [bind, Except.bind]
  | ok next => simp [bind, Except.bind]

theorem mapError_eq_ok_iff {ε' : Type} {f : ε → ε'} {step : Except ε α} {value : α} :
    step.mapError f = .ok value ↔ step = .ok value := by
  cases step <;> simp [Except.mapError]

/-! ## A step for each item -/

section Items

variable {f : α → Except ε β} {items : List α}

theorem mapM_eq_ok_iff {values : List β} :
    items.mapM f = .ok values ↔ items.map f = values.map .ok := by
  induction items generalizing values with
  | nil => cases values <;> simp [pure, Except.pure]
  | cons item rest ih =>
      rw [List.mapM_cons]
      cases hitem : f item with
      | error error => cases values <;> simp [bind, Except.bind, hitem]
      | ok value =>
          cases hrest : rest.mapM f with
          | error error => cases values <;> simp [bind, Except.bind, hitem, hrest, ← ih]
          | ok others =>
              cases values <;> simp [bind, Except.bind, pure, Except.pure, hitem, hrest, ← ih]

theorem mapM_eq_error_iff {error : ε} :
    items.mapM f = .error error ↔
      ∃ before item after, items = before ++ item :: after ∧
        (∀ earlier ∈ before, ∃ value, f earlier = .ok value) ∧ f item = .error error := by
  induction items with
  | nil => simp [pure, Except.pure]
  | cons first rest ih =>
      rw [List.mapM_cons]
      cases hfirst : f first with
      | error other =>
          constructor
          · intro h
            have hsame : other = error := by simpa [bind, Except.bind] using h
            exact ⟨[], first, rest, rfl, by simp, hsame ▸ hfirst⟩
          · rintro ⟨before, item, after, hsplit, hbefore, hitem⟩
            cases before with
            | nil =>
                simp only [List.nil_append, List.cons.injEq] at hsplit
                rw [← hsplit.1, hfirst] at hitem
                simpa [bind, Except.bind] using hitem
            | cons earlier before =>
                simp only [List.cons_append, List.cons.injEq] at hsplit
                obtain ⟨value, hvalue⟩ := hbefore earlier List.mem_cons_self
                rw [← hsplit.1, hfirst] at hvalue
                simp at hvalue
      | ok value =>
          have hrest : ((do let others ← rest.mapM f; pure (value :: others)) :
              Except ε (List β)) = .error error ↔ rest.mapM f = .error error := by
            cases rest.mapM f <;> simp [bind, Except.bind, pure, Except.pure]
          refine hrest.trans (ih.trans ⟨?_, ?_⟩)
          · rintro ⟨before, item, after, rfl, hbefore, hitem⟩
            refine ⟨first :: before, item, after, rfl, ?_, hitem⟩
            rw [List.forall_mem_cons]
            exact ⟨⟨value, hfirst⟩, hbefore⟩
          · rintro ⟨before, item, after, hsplit, hbefore, hitem⟩
            cases before with
            | nil =>
                simp only [List.nil_append, List.cons.injEq] at hsplit
                rw [← hsplit.1, hfirst] at hitem
                simp at hitem
            | cons earlier before =>
                simp only [List.cons_append, List.cons.injEq] at hsplit
                rw [List.forall_mem_cons] at hbefore
                exact ⟨before, item, after, hsplit.2, hbefore.2, hitem⟩

end Items

/-! ## One item after the other -/

section Run

variable {step : β → α → Except ε β}

theorem foldlM_cons_eq_ok_iff {item : α} {rest : List α} {start last : β} :
    (item :: rest).foldlM step start = .ok last ↔
      ∃ next, step start item = .ok next ∧ rest.foldlM step next = .ok last := by
  rw [List.foldlM_cons, bind_eq_ok_iff]

/-- What every step keeps, a run keeps. -/
theorem foldlM_preserves (kept : β → Prop) (items : List α) {start last : β}
    (hstep : ∀ now item next, item ∈ items → kept now → step now item = .ok next → kept next)
    (hstart : kept start) (h : items.foldlM step start = .ok last) : kept last := by
  induction items generalizing start with
  | nil =>
      obtain rfl := Except.ok.inj h
      exact hstart
  | cons item rest ih =>
      obtain ⟨next, hnext, hrest⟩ := foldlM_cons_eq_ok_iff.1 h
      refine ih (fun now item next hitem => hstep now item next (List.mem_cons_of_mem _ hitem))
        ?_ hrest
      exact hstep start item next List.mem_cons_self hstart hnext

end Run

end ResourceNames
