import FormEngine.Proofs.Snapshot.Cells

/-!
# What actions leave alone

The cell of an id is what a snapshot holds under it, apart from a value. An action makes something
of the cell of its target, which depends on that cell alone, and changes no other (`cell_apply`).
So actions leave the cells alone that they do not target (`cell_applyAll_of_not_target`), and do the
same to a cell wherever it is the same (`cell_applyAll_congr`). Values are apart from cells: a value
changes only where it is set.
-/

namespace FormEngine

/-- What stands under an id: the state of a field, the state of a group, and an error. -/
structure Cell where
  field : Option FieldUi
  group : Option SectionUi
  error : Option String

namespace Cell

def editField (c : Cell) (change : FieldUi → FieldUi) : Cell :=
  { c with field := c.field.map (·.edit change) }

def editGroup (c : Cell) (change : SectionUi → SectionUi) : Cell :=
  { c with group := c.group.map change }

def setVisible (c : Cell) (visible : Bool) : Element → Cell
  | .field => c.editField fun f => { f with visible := visible }
  | .group => c.editGroup fun g => { g with visible := visible }

def setEnabled (c : Cell) (enabled : Bool) : Element → Cell
  | .field => c.editField fun f => { f with disabled := !enabled }
  | .group => c.editGroup fun g => { g with disabled := !enabled }

/-- An error needs a field to stand with. -/
def setError (c : Cell) (message : String) : Cell :=
  if c.field.isSome then
    { c.editField (fun f => { f with error := some message }) with error := some message }
  else c

def clearError (c : Cell) : Cell :=
  { c.editField (fun f => { f with error := none }) with error := none }

end Cell

/-- What an action makes of the cell of its target. -/
def Action.onCell (c : Cell) : Action → Cell
  | .setVisible element _ visible => c.setVisible visible element
  | .setEnabled (some element) _ enabled => c.setEnabled enabled element
  | .setEnabled none _ enabled => (c.setEnabled enabled .group).setEnabled enabled .field
  | .setValue _ _ => c
  | .setChoices _ choices => c.editField (FieldUi.setChoices choices)
  | .setChoiceEnabled _ value enabled => c.editField (FieldUi.setChoiceEnabled value enabled)
  | .setError _ message => c.setError message
  | .clearError _ => c.clearError
  | .unknown => c

namespace Snapshot

/-- What a snapshot holds under an id, apart from a value. -/
def cell (s : Snapshot) (id : String) : Cell :=
  ⟨s.ui.fields.get? id, s.ui.sections.get? id, s.errors.get? id⟩

/-! ## One action -/

section Edits

variable (s : Snapshot) (target id : String)

theorem cell_editField (change : FieldUi → FieldUi) :
    cell { s with ui := s.ui.editField target change } id =
      if target = id then (s.cell id).editField change else s.cell id := by
  unfold cell
  rw [Ui.get?_editField, Ui.sections_editField]
  split <;> rfl

theorem cell_editSection (change : SectionUi → SectionUi) :
    cell { s with ui := s.ui.editSection target change } id =
      if target = id then (s.cell id).editGroup change else s.cell id := by
  unfold cell
  rw [Ui.get?_editSection, Ui.fields_editSection]
  split <;> rfl

theorem cell_setVisible (visible : Bool) (element : Element) :
    cell { s with ui := s.ui.setVisible target visible element } id =
      if target = id then (s.cell id).setVisible visible element else s.cell id := by
  cases element with
  | field => exact cell_editField ..
  | group => exact cell_editSection ..

theorem cell_setEnabled (enabled : Bool) (element : Element) :
    cell { s with ui := s.ui.setEnabled target enabled element } id =
      if target = id then (s.cell id).setEnabled enabled element else s.cell id := by
  cases element with
  | field => exact cell_editField ..
  | group => exact cell_editSection ..

theorem cell_setError (message : String) :
    (s.setError target message).cell id =
      if target = id then (s.cell id).setError message else s.cell id := by
  unfold setError
  by_cases hid : target = id
  · subst hid
    rw [if_pos rfl]
    unfold Cell.setError
    cases hf : s.ui.fields.get? target with
    | none => simp [cell, Dict.has, hf]
    | some f =>
      simp only [Dict.has, hf, Option.isSome_some, if_true]
      simp [cell, Cell.editField, Ui.get?_editField, hf]
  · rw [if_neg hid]
    split
    · simp [cell, Ui.get?_editField, Dict.get?_insert, hid]
    · rfl

theorem cell_clearError :
    (s.clearError target).cell id =
      if target = id then (s.cell id).clearError else s.cell id := by
  unfold clearError cell
  rw [Ui.get?_editField, Ui.sections_editField, Dict.get?_erase]
  split <;> rfl

end Edits

/-- An action changes the cell of its target, by what stands there, and no other cell. -/
theorem cell_apply (s : Snapshot) (a : Action) (id : String) :
    (s.apply a).cell id =
      if a.target? = some id then a.onCell (s.cell id) else s.cell id := by
  cases a with
  | setVisible element target visible =>
    simp only [apply, Action.target?, Option.some.injEq]
    exact cell_setVisible ..
  | setEnabled element target enabled =>
    simp only [Action.target?, Option.some.injEq]
    cases element with
    | some element => exact cell_setEnabled ..
    | none =>
      have hgroup := cell_setEnabled s target id enabled .group
      refine (cell_setEnabled { s with ui := s.ui.setEnabled target enabled .group } target id
        enabled .field).trans ?_
      rw [hgroup]
      split <;> rfl
  | setValue target value =>
    simp only [apply, setValue, Action.onCell, ite_self]
    split <;> rfl
  | setChoices target choices =>
    simp only [apply, Action.target?, Option.some.injEq]
    exact cell_editField ..
  | setChoiceEnabled target value enabled =>
    simp only [apply, Action.target?, Option.some.injEq]
    exact cell_editField ..
  | setError target message =>
    simp only [apply, Action.target?, Option.some.injEq]
    exact cell_setError ..
  | clearError target =>
    simp only [apply, Action.target?, Option.some.injEq]
    exact cell_clearError ..
  | unknown => rfl

theorem values_apply (s : Snapshot) (action : Action) :
    (s.apply action).values = match action with
      | .setValue target value => (s.setValue target value).values
      | _ => s.values := by
  cases action with
  | setEnabled element target enabled => cases element <;> rfl
  | setError target message =>
    show (s.setError target message).values = s.values
    unfold setError
    split <;> rfl
  | _ => rfl

theorem get?_apply_congr {s t : Snapshot} (hform : s.form = t.form) {key : String}
    (h : s.values.get? key = t.values.get? key) (a : Action) :
    (s.apply a).values.get? key = (t.apply a).values.get? key := by
  rw [values_apply, values_apply]
  cases a with
  | setValue target value =>
    simp only [setValue, hform]
    by_cases hkey : target = key
    · subst hkey
      rw [h]
      split <;> simp [h]
    · have hset : ∀ u : Snapshot, u.values.get? key =
          (Dict.insert u.values target value).get? key := by
        intro u
        rw [Dict.get?_insert, if_neg hkey]
      split <;> split <;> simp [← hset, h]
  | _ => exact h

/-! ## Several actions -/

section Several

variable {s t : Snapshot} {id : String}

theorem cell_applyAll_of_not_target {actions : List Action}
    (h : ∀ a ∈ actions, a.target? ≠ some id) : (s.applyAll actions).cell id = s.cell id := by
  induction actions generalizing s with
  | nil => rfl
  | cons a rest ih =>
    rw [applyAll_cons, ih fun b hb => h b (List.mem_cons_of_mem _ hb), cell_apply,
      if_neg (h a List.mem_cons_self)]

theorem cell_applyAll_congr (h : s.cell id = t.cell id) (actions : List Action) :
    (s.applyAll actions).cell id = (t.applyAll actions).cell id := by
  induction actions generalizing s t with
  | nil => exact h
  | cons a rest ih =>
    refine ih ?_
    rw [cell_apply, cell_apply, h]

theorem get?_applyAll_congr (hform : s.form = t.form)
    (h : s.values.get? id = t.values.get? id) (actions : List Action) :
    (s.applyAll actions).values.get? id = (t.applyAll actions).values.get? id := by
  induction actions generalizing s t with
  | nil => exact h
  | cons a rest ih =>
    exact ih (by rw [(apply_form s a).1, (apply_form t a).1, hform]) (get?_apply_congr hform h a)

/-- A field that is not declared or that no action sets keeps its value. -/
theorem get?_applyAll_of_not_set {actions : List Action} {key : String}
    (h : s.form.graph.hasField key = true → ∀ value, Action.setValue key value ∉ actions) :
    (s.applyAll actions).values.get? key = s.values.get? key := by
  induction actions generalizing s with
  | nil => rfl
  | cons action rest ih =>
    have hform := (apply_form s action).1
    refine (ih ?_).trans ?_
    · rw [hform]
      exact fun hfield value hmem => h hfield value (List.mem_cons_of_mem _ hmem)
    · rw [values_apply]
      cases action with
      | setValue target value =>
        simp only
        unfold setValue
        split
        · rfl
        · rename_i hset
          simp only [Bool.or_eq_true, not_or, Bool.not_eq_true', Bool.not_eq_false] at hset
          refine (Dict.get?_insert ..).trans (if_neg ?_)
          rintro rfl
          exact h hset.1 value List.mem_cons_self
      | _ => rfl

end Several

end Snapshot

end FormEngine
