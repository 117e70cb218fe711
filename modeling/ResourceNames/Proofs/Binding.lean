import Mathlib.Tactic.SplitIfs
import ResourceNames.Binding.Basic
import ResourceNames.Proofs.Outcome
import ResourceNames.Proofs.Record.Path

set_option autoImplicit false

/-! # Where bindings lead

In a derived schema every binding of a record type leads from its records to scalars of the kind
that the binding names. The visit keeps this up: it has come to the records of a type along a path,
so that whatever leads on from there leads there from the start. -/

namespace ResourceNames

variable {ι : Type} {schema : Schema ι} {root : ι}

/-- Every binding leads from records of a type to scalars of its kind. -/
def Bindings.LeadFrom (schema : Schema ι) (root : ι) (bindings : Bindings) : Prop :=
  ∀ key binding, bindings.get? key = some binding →
    ∃ places leaf, schema.LeadsTo root binding.path places leaf ∧ leaf.kind = binding.kind

/-- What leads on from records of a type leads there from the start as well, by way of a path. -/
def Schema.Route (schema : Schema ι) (root : ι) (path : List Nat) (type : ι) : Prop :=
  ∀ rest places leaf, schema.LeadsTo type rest places leaf →
    ∃ places', schema.LeadsTo root (path ++ rest) places' leaf

theorem Schema.Route.step {path : List Nat} {type inner : ι} {index position : Nat}
    {field : FieldType ι} (h : schema.Route root path type)
    (hfield : schema.HasField type index position field) (hcontent : field.content = .record inner) :
    schema.Route root (path ++ [index]) inner := by
  intro rest places leaf hrest
  obtain ⟨places', hlead⟩ := h (index :: rest) (position :: places) leaf
    (.step hfield hcontent hrest)
  rw [List.append_assoc]
  exact ⟨places', hlead⟩

namespace Bindings

theorem leadFrom_empty : Bindings.empty.LeadFrom schema root := by
  intro key binding h
  simp [get?, empty] at h

theorem LeadFrom.insert {bindings : Bindings} (h : bindings.LeadFrom schema root)
    {binding : Binding}
    (hbinding : ∃ places leaf,
      schema.LeadsTo root binding.path places leaf ∧ leaf.kind = binding.kind) :
    (bindings.insert binding).LeadFrom schema root := by
  intro key found hfound
  rw [get?_insert] at hfound
  split_ifs at hfound with hkey
  · obtain rfl := Option.some.inj hfound
    exact hbinding
  · exact h key found hfound

theorem LeadFrom.bindScalars (hschema : schema.IsDerived) {type : ι} {path : List Nat}
    (hroute : schema.Route root path type) {name : String} {index : Nat}
    {entries : List (FieldEntry ι)} (hentries : (schema.record type).table.drop index = entries)
    {bindings bound : Bindings} (h : bindings.LeadFrom schema root)
    (hbound : Bindings.bindScalars name path index bindings entries = .ok bound) :
    bound.LeadFrom schema root := by
  induction entries generalizing index bindings with
  | nil =>
      obtain rfl := Except.ok.inj hbound
      exact h
  | cons entry rest ih =>
      have hrest : (schema.record type).table.drop (index + 1) = rest := by
        rw [← List.tail_drop, hentries, List.tail_cons]
      have hentry : (schema.record type).table[index]? = some entry := by
        rw [← List.head?_drop, hentries, List.head?_cons]
      rw [Bindings.bindScalars] at hbound
      split at hbound
      · rename_i kind pointer hshape
        refine ih hrest ?_ hbound
        obtain ⟨position, field, hfield, hfieldShape⟩ := hschema.hasField hentry
        obtain ⟨leaf, hcontent, hkind⟩ :=
          FieldType.content_of_shape_scalar (hfieldShape.symm.trans hshape)
        obtain ⟨places, hlead⟩ := hroute [index] [position] leaf (.leaf hfield hcontent)
        -- Every key of the field is bound to it in turn.
        refine List.foldlRecOn entry.boundKeys _ h ?_
        intro bound hinserted key _
        exact hinserted.insert ⟨places, leaf, hlead, hkind⟩
      · split_ifs at hbound
        exact ih hrest h hbound
      · exact ih hrest h hbound

end Bindings

variable [DecidableEq ι]

namespace Schema

theorem leadFrom_visit (hschema : schema.IsDerived) (met : List ι) (path : List Nat) (type : ι)
    (bindings : Bindings) (hroute : schema.Route root path type)
    (h : bindings.LeadFrom schema root) {bound : Bindings}
    (hvisit : schema.visit met path type bindings = .ok bound) : bound.LeadFrom schema root := by
  induction met, path, type, bindings using Schema.visit.induct schema generalizing bound with
  | case1 met path type bindings ih =>
      rw [visit] at hvisit
      obtain ⟨scalars, hscalars, hvisit⟩ := bind_eq_ok_iff.1 hvisit
      have hleads : scalars.LeadFrom schema root :=
        h.bindScalars hschema hroute List.drop_zero hscalars
      -- The records in the fields are visited one after the other, each by its own path.
      refine foldlM_preserves (Bindings.LeadFrom schema root) _ ?_ hleads hvisit
      rintro now ⟨entry, index⟩ next hitem hnow hnext
      have hentry : (schema.record type).table[index]? = some entry :=
        List.mem_zipIdx_iff_getElem?.1 hitem
      dsimp only at hnext
      split at hnext
      · rename_i inner pointer hshape
        split_ifs at hnext with hmet
        obtain ⟨position, field, hfield, hfieldShape⟩ := hschema.hasField hentry
        have hcontent := FieldType.content_of_shape_record (hfieldShape.symm.trans hshape)
        exact ih now index inner hmet (hroute.step hfield hcontent) hnow hnext
      · obtain rfl := Except.ok.inj hnext
        exact hnow

/-- **Every binding of a record type leads from its records to a scalar.** -/
theorem leadFrom_bindings (hschema : schema.IsDerived) {type : ι} {bindings : Bindings}
    (h : schema.bindings type = .ok bindings) : bindings.LeadFrom schema type := by
  refine leadFrom_visit hschema [type] [] type .empty ?_ Bindings.leadFrom_empty h
  intro rest places leaf hlead
  exact ⟨places, hlead⟩

end Schema

end ResourceNames
