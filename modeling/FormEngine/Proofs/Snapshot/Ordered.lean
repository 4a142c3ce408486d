import FormEngine.Proofs.Dict.Order
import FormEngine.Proofs.Snapshot.Frame
import FormEngine.Proofs.Snapshot.Reachable

/-!
# The order of a snapshot

The dictionaries of a snapshot list their entries by key. Actions write values and errors, which
keeps the order, and edit states where they stand (`keys_apply`). So every step keeps the order, and
it holds of every reachable snapshot (`Reachable.ordered`). What a snapshot holds is then a matter
of what stands under each id (`Ordered.ext`).
-/

namespace FormEngine

namespace Ui

variable (u : Ui) (target : String) (flag : Bool) (element : Element)

@[simp] theorem keys_fields_setVisible :
    (u.setVisible target flag element).fields.keys = u.fields.keys := by
  cases element <;> simp [setVisible]

@[simp] theorem keys_sections_setVisible :
    (u.setVisible target flag element).sections.keys = u.sections.keys := by
  cases element <;> simp [setVisible]

@[simp] theorem keys_fields_setEnabled :
    (u.setEnabled target flag element).fields.keys = u.fields.keys := by
  cases element <;> simp [setEnabled]

@[simp] theorem keys_sections_setEnabled :
    (u.setEnabled target flag element).sections.keys = u.sections.keys := by
  cases element <;> simp [setEnabled]

end Ui

namespace Snapshot

/-- Each dictionary of the snapshot is in order. -/
structure Ordered (s : Snapshot) : Prop where
  values : s.values.Sorted
  fields : s.ui.fields.Sorted
  groups : s.ui.sections.Sorted
  errors : s.errors.Sorted

variable {s t : Snapshot}

/-! ## Actions -/

theorem keys_apply (s : Snapshot) (a : Action) :
    (s.apply a).ui.fields.keys = s.ui.fields.keys ∧
      (s.apply a).ui.sections.keys = s.ui.sections.keys := by
  cases a with
  | setEnabled element target enabled => cases element <;> simp [apply]
  | setValue target value =>
    simp only [apply, setValue]
    split <;> exact ⟨rfl, rfl⟩
  | setError target message =>
    simp only [apply, setError]
    split <;> simp
  | _ => simp [apply, clearError]

namespace Ordered

theorem setValue (h : s.values.Sorted) (target : String) (value : Value) :
    (s.setValue target value).values.Sorted := by
  unfold Snapshot.setValue
  split
  · exact h
  · exact h.insert target value

theorem errors_apply (h : s.errors.Sorted) (a : Action) : (s.apply a).errors.Sorted := by
  cases a with
  | setEnabled element target enabled => cases element <;> exact h
  | setValue target value =>
    simp only [Snapshot.apply, Snapshot.setValue]
    split <;> exact h
  | setError target message =>
    simp only [Snapshot.apply, setError]
    split
    · exact h.insert target message
    · exact h
  | clearError target => exact h.erase target
  | _ => exact h

theorem apply (h : s.Ordered) (a : Action) : (s.apply a).Ordered := by
  refine ⟨?_, h.fields.of_keys_eq (keys_apply s a).1, h.groups.of_keys_eq (keys_apply s a).2,
    errors_apply h.errors a⟩
  rw [values_apply]
  cases a with
  | setValue target value => exact setValue h.values target value
  | _ => exact h.values

end Ordered

end Snapshot

namespace Form

theorem sorted_startValues (f : Form) : f.startValues.Sorted := by
  unfold startValues
  suffices ∀ d : Dict Value, d.Sorted → Dict.Sorted
      (f.schema.fields.foldl (fun values d => values.insert d.id (f.startValue values d)) d) from
    this [] List.Pairwise.nil
  intro d hd
  induction f.schema.fields generalizing d with
  | nil => exact hd
  | cons first rest ih => exact ih _ (hd.insert _ _)

theorem ordered_blank (f : Form) : f.blank.Ordered :=
  ⟨f.sorted_startValues, Dict.sorted_ofList _, Dict.sorted_ofList _, List.Pairwise.nil⟩

end Form

/-! ## Steps -/

theorem Snapshot.invariant_ordered : Invariant Ordered where
  blank _ := Form.ordered_blank _
  apply h action := h.apply action
  edited h field _ value := ⟨h.values.insert field value, h.fields, h.groups, h.errors⟩
  withWarnings h _ := ⟨h.values, h.fields, h.groups, h.errors⟩

theorem Form.ordered_start (f : Form) : f.start.Ordered :=
  Snapshot.invariant_ordered.start f.ordered_blank

namespace Snapshot

variable {s t : Snapshot}

theorem Reachable.ordered (h : s.Reachable) : s.Ordered :=
  invariant_ordered.reachable h

namespace Ordered

theorem applyAll (h : s.Ordered) (actions : List Action) : (s.applyAll actions).Ordered :=
  invariant_ordered.applyAll h actions

theorem update (h : s.Ordered) {field : String} {value : Value}
    (ht : s.update field value = .ok t) : t.Ordered :=
  invariant_ordered.update h ht

theorem ext (hs : s.Ordered) (ht : t.Ordered) (hcells : ∀ id, s.cell id = t.cell id)
    (hvalues : ∀ key, s.values.get? key = t.values.get? key) :
    s.values = t.values ∧ s.ui = t.ui ∧ s.errors = t.errors := by
  refine ⟨hs.values.ext ht.values hvalues, ?_, ?_⟩
  · have hfields : s.ui.fields = t.ui.fields :=
      hs.fields.ext ht.fields fun id => congrArg Cell.field (hcells id)
    have hgroups : s.ui.sections = t.ui.sections :=
      hs.groups.ext ht.groups fun id => congrArg Cell.group (hcells id)
    show Ui.mk s.ui.sections s.ui.fields = _
    rw [hfields, hgroups]
  · exact hs.errors.ext ht.errors fun id => congrArg Cell.error (hcells id)

end Ordered

end Snapshot

end FormEngine
