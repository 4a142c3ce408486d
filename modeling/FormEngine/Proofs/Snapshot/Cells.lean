import FormEngine.Snapshot.Apply

/-!
# Edits of cells

What an edit of one cell does to every cell of the user interface. Edits neither add nor remove
cells.
-/

namespace FormEngine

namespace FieldUi

theorem edit_eq_or (change : FieldUi → FieldUi) (f : FieldUi) :
    f.edit change = f ∧ (change f).same f = true ∨ f.edit change = change f := by
  unfold edit
  split
  · exact .inl ⟨rfl, ‹_›⟩
  · exact .inr rfl

theorem error_eq_of_same {f g : FieldUi} (h : f.same g = true) : f.error = g.error := by
  simp only [same, Bool.and_eq_true, beq_iff_eq] at h
  exact h.1.1.2

@[simp] theorem error_edit (change : FieldUi → FieldUi) (f : FieldUi) :
    (f.edit change).error = (change f).error := by
  rcases edit_eq_or change f with ⟨h, hsame⟩ | h
  · rw [h, error_eq_of_same hsame]
  · rw [h]

end FieldUi

namespace Ui

variable (u : Ui) (target : String)

/-! ## Fields -/

section Field

variable (change : FieldUi → FieldUi)

theorem get?_editField (id : String) :
    (u.editField target change).fields.get? id =
      if target = id then (u.fields.get? id).map (·.edit change) else u.fields.get? id := by
  unfold editField
  cases hf : u.fields.get? target with
  | none =>
    by_cases hid : target = id
    · subst hid
      simp [hf]
    · simp [hid]
  | some f =>
    simp only
    rw [Dict.get?_replace (by rw [Dict.has, hf]; rfl)]
    by_cases hid : target = id
    · subst hid
      simp [hf]
    · simp [hid]

@[simp] theorem keys_editField : (u.editField target change).fields.keys = u.fields.keys := by
  unfold editField
  split
  · exact Dict.keys_replace ..
  · rfl

@[simp] theorem sections_editField : (u.editField target change).sections = u.sections := by
  unfold editField
  split <;> rfl

end Field

/-! ## Groups -/

section Group

variable (change : SectionUi → SectionUi)

theorem get?_editSection (id : String) :
    (u.editSection target change).sections.get? id =
      if target = id then (u.sections.get? id).map change else u.sections.get? id := by
  unfold editSection
  cases hg : u.sections.get? target with
  | none =>
    by_cases hid : target = id
    · subst hid
      simp [hg]
    · simp [hid]
  | some g =>
    simp only
    rw [Dict.get?_replace (by rw [Dict.has, hg]; rfl)]
    by_cases hid : target = id
    · subst hid
      simp [hg]
    · simp [hid]

@[simp] theorem keys_editSection :
    (u.editSection target change).sections.keys = u.sections.keys := by
  unfold editSection
  split
  · exact Dict.keys_replace ..
  · rfl

@[simp] theorem fields_editSection : (u.editSection target change).fields = u.fields := by
  unfold editSection
  split <;> rfl

end Group

end Ui

end FormEngine
