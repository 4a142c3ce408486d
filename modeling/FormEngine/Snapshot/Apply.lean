import FormEngine.Snapshot.Basic

/-!
# Applying actions

An action changes the cells it is about and leaves every other cell alone; without its target it
does nothing. A cell keeps what it holds when the new contents equal the old.
-/

namespace FormEngine

namespace FieldUi

/-- The changed state, or the old one when the change makes no difference. -/
def edit (change : FieldUi → FieldUi) (f : FieldUi) : FieldUi :=
  if (change f).same f then f else change f

def setChoices (choices : List Choice) (f : FieldUi) : FieldUi :=
  { f with choices := some choices, disabledChoices := [] }

/-- Adds a value to the disabled choices unless it is there, or removes it. -/
def setChoiceEnabled (value : Value) (enabled : Bool) (f : FieldUi) : FieldUi :=
  if enabled then
    { f with disabledChoices := f.disabledChoices.filter fun v => !v.same value }
  else if Value.memberOf value f.disabledChoices then f
  else { f with disabledChoices := f.disabledChoices ++ [value] }

end FieldUi

namespace Ui

/-- Changes the state of a field, if there is one. -/
def editField (u : Ui) (target : String) (change : FieldUi → FieldUi) : Ui :=
  match u.fields.get? target with
  | some f => { u with fields := u.fields.replace target (f.edit change) }
  | none => u

/-- Changes the state of a section or subsection, if there is one. -/
def editSection (u : Ui) (target : String) (change : SectionUi → SectionUi) : Ui :=
  match u.sections.get? target with
  | some g => { u with sections := u.sections.replace target (change g) }
  | none => u

/-- Shows or hides. -/
def setVisible (u : Ui) (target : String) (visible : Bool) : Element → Ui
  | .field => u.editField target fun f => { f with visible := visible }
  | .group => u.editSection target fun g => { g with visible := visible }

/-- Enables or disables. -/
def setEnabled (u : Ui) (target : String) (enabled : Bool) : Element → Ui
  | .field => u.editField target fun f => { f with disabled := !enabled }
  | .group => u.editSection target fun g => { g with disabled := !enabled }

end Ui

namespace Snapshot

/-- Sets the value of a declared field, unless it has that value. -/
def setValue (s : Snapshot) (target : String) (value : Value) : Snapshot :=
  if !s.form.graph.hasField target || (s.values.get? target).any fun old => old.same value then s
  else { s with values := s.values.insert target value }

/-- Sets the error of a field, on the field and in the list of errors. -/
def setError (s : Snapshot) (target message : String) : Snapshot :=
  if s.ui.fields.has target then
    { s with
      ui := s.ui.editField target fun f => { f with error := some message }
      errors := s.errors.insert target message }
  else s

def clearError (s : Snapshot) (target : String) : Snapshot :=
  { s with
    ui := s.ui.editField target fun f => { f with error := none }
    errors := s.errors.erase target }

/-- Applies one action. -/
def apply (s : Snapshot) : Action → Snapshot
  | .setVisible element target visible =>
    { s with ui := s.ui.setVisible target visible element }
  | .setEnabled (some element) target enabled =>
    { s with ui := s.ui.setEnabled target enabled element }
  | .setEnabled none target enabled =>
    { s with ui := (s.ui.setEnabled target enabled .group).setEnabled target enabled .field }
  | .setValue target value => s.setValue target value
  | .setChoices target choices =>
    { s with ui := s.ui.editField target (FieldUi.setChoices choices) }
  | .setChoiceEnabled target value enabled =>
    { s with ui := s.ui.editField target (FieldUi.setChoiceEnabled value enabled) }
  | .setError target message => s.setError target message
  | .clearError target => s.clearError target
  | .unknown => s

/-- Applies actions in order. -/
def applyAll (s : Snapshot) (actions : List Action) : Snapshot := actions.foldl apply s

/-- Sets the choices of a field. -/
def setChoices (s : Snapshot) (field : String) (choices : List Choice) : Snapshot :=
  s.applyAll [.setChoices field choices]

theorem applyAll_nil (s : Snapshot) : s.applyAll [] = s := rfl

theorem applyAll_cons (s : Snapshot) (a : Action) (rest : List Action) :
    s.applyAll (a :: rest) = (s.apply a).applyAll rest := rfl

theorem applyAll_append (s : Snapshot) (as bs : List Action) :
    s.applyAll (as ++ bs) = (s.applyAll as).applyAll bs :=
  List.foldl_append

theorem apply_form (s : Snapshot) (a : Action) :
    (s.apply a).form = s.form ∧ (s.apply a).warnings = s.warnings := by
  cases a with
  | setEnabled element target enabled => cases element <;> simp [apply]
  | setValue target value => simp only [apply, setValue]; split <;> simp
  | setError target message => simp only [apply, setError]; split <;> simp
  | _ => simp [apply, clearError]

theorem applyAll_form (s : Snapshot) (as : List Action) :
    (s.applyAll as).form = s.form ∧ (s.applyAll as).warnings = s.warnings := by
  induction as generalizing s with
  | nil => simp [applyAll_nil]
  | cons a rest ih =>
    rw [applyAll_cons]
    exact ⟨(ih _).1.trans (apply_form s a).1, (ih _).2.trans (apply_form s a).2⟩

end Snapshot

end FormEngine
