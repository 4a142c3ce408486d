import FormEngine.Proofs.Dict.Order
import FormEngine.Proofs.Except
import FormEngine.Proofs.Snapshot.Reachable

/-!
# Going back to the start

A reset builds the form anew from the parts that a snapshot carries, whose globals hold those of the
schema already. Laid over those of the schema once more they stay what they are, so a form is loaded
again from its own parts (`Form.load_again`). Every step keeps the form (`Step.form_eq`), so a reset
leads to the first snapshot wherever the steps have led (`Reaches.reset_eq`).
-/

namespace FormEngine

namespace Form

theorem load_again {schema : Schema} {globals params : Dict Value} {config : Config} {f : Form}
    (hglobals : schema.globals.Sorted) (h : load schema globals params config = .ok f) :
    load f.schema f.globals f.params f.config = .ok f := by
  obtain ⟨hpasses, g, hg, rfl⟩ := load_eq_ok_iff.1 h
  refine load_eq_ok_iff.2 ⟨hpasses, g, hg, ?_⟩
  simp only [hglobals.insertAll_again]

end Form

namespace Snapshot

variable {s t : Snapshot}

theorem Step.form_eq (h : Step s t)
    (hs : Form.load s.form.schema s.form.globals s.form.params s.form.config = .ok s.form) :
    t.form = s.form := by
  rcases h.cases with ⟨actions, rfl⟩ | ⟨field, value, h⟩ | h
  · exact (applyAll_form s actions).1
  · exact form_update h
  · obtain ⟨f, hf, rfl⟩ := build_eq_ok_iff.1 h
    rw [Form.form_start, ← Except.ok.inj (hf.symm.trans hs)]

theorem Reaches.form_eq (h : Reaches s t)
    (hs : Form.load s.form.schema s.form.globals s.form.params s.form.config = .ok s.form) :
    t.form = s.form := by
  induction h with
  | refl => rfl
  | tail _ hstep ih => exact (hstep.form_eq (by rw [ih, hs])).trans ih

/-- Wherever steps have led, a reset leads back to the first snapshot. -/
theorem Reaches.reset_eq {schema : Schema} {globals params : Dict Value} {config : Config}
    {first : Snapshot} (hglobals : schema.globals.Sorted)
    (hbuild : build schema globals params config = .ok first) (h : Reaches first s) :
    s.reset = .ok first := by
  obtain ⟨f, hload, rfl⟩ := build_eq_ok_iff.1 hbuild
  have hagain := Form.load_again hglobals hload
  have hform : s.form = f := by
    have h := h.form_eq (by rw [Form.form_start, hagain])
    rwa [Form.form_start] at h
  unfold reset
  rw [hform]
  exact build_eq_ok_iff.2 ⟨f, hagain, rfl⟩

end Snapshot

end FormEngine
