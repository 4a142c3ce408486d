import FormEngine.Proofs.Json.Equality
import FormEngine.Proofs.Snapshot.Ordered

/-!
# Actions that stand

An action stands in a snapshot when it would change nothing there, which is a matter of the cell and
of the value under its target (`stands_iff`). An action stands once it is applied (`stands_apply`),
and goes on to stand unless a later action undoes it. Actions on different targets do not undo one
another.
-/

namespace FormEngine

open Value (sameOption sameOption_refl sameOption_some_right)

/-! ## Cells -/

namespace FieldUi

variable (f : FieldUi)

theorem edit_edit {change : FieldUi → FieldUi} (h : change (change f) = change f) :
    (f.edit change).edit change = f.edit change := by
  rcases edit_eq_or change f with ⟨heq, -⟩ | heq
  · rw [heq, heq]
  · rw [heq, edit, h, ite_self]

theorem setChoiceEnabled_again (value : Value) (enabled : Bool) :
    setChoiceEnabled value enabled (setChoiceEnabled value enabled f) =
      setChoiceEnabled value enabled f := by
  cases enabled with
  | true => simp [setChoiceEnabled]
  | false =>
    have hself : value.same value = true := sameOption_refl (some value)
    by_cases h : Value.memberOf value f.disabledChoices = true
    · simp [setChoiceEnabled, h]
    · have hadded : setChoiceEnabled value false f =
          { f with disabledChoices := f.disabledChoices ++ [value] } := by
        simp [setChoiceEnabled, h]
      have hmember : Value.memberOf value (f.disabledChoices ++ [value]) = true := by
        simp [Value.memberOf, hself]
      rw [hadded]
      simp [setChoiceEnabled, hmember]

end FieldUi

namespace Cell

variable (c : Cell)

theorem editField_again (change : FieldUi → FieldUi) (h : ∀ f, change (change f) = change f) :
    (c.editField change).editField change = c.editField change := by
  cases hf : c.field with
  | none => simp [editField, hf]
  | some f => simp [editField, hf, FieldUi.edit_edit f (h f)]

theorem editGroup_again {change : SectionUi → SectionUi} (h : ∀ g, change (change g) = change g) :
    (c.editGroup change).editGroup change = c.editGroup change := by
  cases hg : c.group with
  | none => simp [editGroup, hg]
  | some g => simp [editGroup, hg, h]

theorem setVisible_again (visible : Bool) (element : Element) :
    (c.setVisible visible element).setVisible visible element = c.setVisible visible element := by
  cases element with
  | field => exact c.editField_again _ fun _ => rfl
  | group => exact c.editGroup_again fun _ => rfl

theorem setEnabled_again (enabled : Bool) (element : Element) :
    (c.setEnabled enabled element).setEnabled enabled element = c.setEnabled enabled element := by
  cases element with
  | field => exact c.editField_again _ fun _ => rfl
  | group => exact c.editGroup_again fun _ => rfl

theorem setEnabled_comm (enabled : Bool) :
    (c.setEnabled enabled .field).setEnabled enabled .group =
      (c.setEnabled enabled .group).setEnabled enabled .field := rfl

theorem clearError_again : c.clearError.clearError = c.clearError :=
  congrArg (fun c : Cell => { c with error := none })
    (c.editField_again (fun f => { f with error := none }) fun _ => rfl)

theorem setError_again (message : String) :
    (c.setError message).setError message = c.setError message := by
  cases hf : c.field with
  | none => simp [setError, hf]
  | some f =>
    have hset : c.setError message =
        { c.editField (fun f => { f with error := some message }) with error := some message } :=
      if_pos (by rw [hf]; rfl)
    have hfield : (c.setError message).field.isSome = true := by
      rw [hset]
      simp [editField, hf]
    rw [setError, if_pos hfield, hset]
    exact congrArg (fun c : Cell => { c with error := some message })
      (c.editField_again (fun f => { f with error := some message }) fun _ => rfl)

end Cell

theorem Action.onCell_again (c : Cell) (a : Action) : a.onCell (a.onCell c) = a.onCell c := by
  cases a with
  | setVisible element target visible => exact c.setVisible_again visible element
  | setEnabled element target enabled =>
    cases element with
    | some element => exact c.setEnabled_again enabled element
    | none =>
      simp only [onCell, Cell.setEnabled_comm, Cell.setEnabled_again]
  | setValue target value => rfl
  | setChoices target choices => exact c.editField_again _ fun _ => rfl
  | setChoiceEnabled target value enabled =>
    exact c.editField_again _ fun f => f.setChoiceEnabled_again value enabled
  | setError target message => exact c.setError_again message
  | clearError target => exact c.clearError_again
  | unknown => rfl

/-! ## Snapshots -/

namespace Snapshot

/-- Applied here, the action changes nothing. -/
def Stands (s : Snapshot) (a : Action) : Prop := s.apply a = s

variable {s t : Snapshot} {a b : Action}

theorem eq_of_applyAll (actions : List Action) (hvalues : (s.applyAll actions).values = s.values)
    (hui : (s.applyAll actions).ui = s.ui) (herrors : (s.applyAll actions).errors = s.errors) :
    s.applyAll actions = s := by
  obtain ⟨hform, hwarnings⟩ := applyAll_form s actions
  generalize s.applyAll actions = t at *
  cases s
  cases t
  simp_all

theorem values_apply_of_old (h : ∀ key value, a = .setValue key value →
    s.form.graph.hasField key = true → sameOption (s.values.get? key) (some value) = true) :
    (s.apply a).values = s.values := by
  rw [values_apply]
  cases a with
  | setValue target value =>
    simp only
    unfold setValue
    split
    · rfl
    · rename_i hset
      simp only [Bool.or_eq_true, not_or, Bool.not_eq_true', Bool.not_eq_false] at hset
      have hsame := h target value rfl hset.1
      rw [sameOption_some_right] at hsame
      exact absurd hsame hset.2
  | _ => rfl

/-- An action stands where it leaves the cell of its target as it is, and a value it sets is
there. -/
theorem stands_iff (hs : s.Ordered) :
    s.Stands a ↔ (∀ id, a.target? = some id → a.onCell (s.cell id) = s.cell id) ∧
      ∀ key value, a = .setValue key value → s.form.graph.hasField key = true →
        sameOption (s.values.get? key) (some value) = true := by
  constructor
  · intro h
    refine ⟨fun id hid => ?_, ?_⟩
    · have hcell := cell_apply s a id
      rw [if_pos hid, h] at hcell
      exact hcell.symm
    · rintro key value rfl hfield
      have hvalues : (s.setValue key value).values = s.values := congrArg Snapshot.values h
      unfold setValue at hvalues
      split at hvalues
      · rename_i hskip
        simpa [hfield, sameOption_some_right] using hskip
      · rw [← hvalues, Dict.get?_insert_self, sameOption_refl]
  · rintro ⟨hcell, hvalue⟩
    have hcells : ∀ id, (s.apply a).cell id = s.cell id := by
      intro id
      rw [cell_apply]
      split
      · exact hcell id ‹_›
      · rfl
    have hvalues := values_apply_of_old hvalue
    obtain ⟨-, hui, herrors⟩ := (hs.apply a).ext hs hcells fun key => by rw [hvalues]
    exact eq_of_applyAll [a] hvalues hui herrors

/-- An action stands once it is applied. -/
theorem stands_apply (hs : s.Ordered) (a : Action) : (s.apply a).Stands a := by
  refine (stands_iff (hs.apply a)).2 ⟨fun id hid => ?_, ?_⟩
  · rw [cell_apply, if_pos hid]
    exact a.onCell_again _
  · rintro key value rfl hfield
    rw [(apply_form s _).1] at hfield
    show sameOption ((s.setValue key value).values.get? key) _ = true
    unfold setValue
    split
    · rename_i hskip
      simpa [hfield, sameOption_some_right] using hskip
    · exact (Dict.get?_insert_self ..) ▸ sameOption_refl _

/-- Applying actions that stand changes nothing. -/
theorem applyAll_of_stands {actions : List Action} (h : ∀ a ∈ actions, s.Stands a) :
    s.applyAll actions = s := by
  induction actions with
  | nil => rfl
  | cons a rest ih =>
    rw [applyAll_cons, h a List.mem_cons_self]
    exact ih fun b hb => h b (List.mem_cons_of_mem _ hb)

end Snapshot

/-! ## Undoing -/

/-- Somewhere the second action stands and does not any more behind the first. -/
def Action.Undoes (b a : Action) : Prop :=
  ∃ s : Snapshot, s.Ordered ∧ s.Stands a ∧ ¬ (s.apply b).Stands a

theorem Action.not_undoes_of_target_ne {a b : Action} (h : b.target? ≠ a.target?) :
    ¬ b.Undoes a := by
  rintro ⟨s, hs, hstands, hnot⟩
  obtain ⟨hcell, hvalue⟩ := (Snapshot.stands_iff hs).1 hstands
  refine hnot ((Snapshot.stands_iff (hs.apply b)).2 ⟨fun id hid => ?_, ?_⟩)
  · rw [Snapshot.cell_apply, if_neg fun hb => h (hb.trans hid.symm)]
    exact hcell id hid
  · rintro key value rfl hfield
    rw [(Snapshot.apply_form s b).1] at hfield
    have hkept : (s.applyAll [b]).values.get? key = s.values.get? key :=
      Snapshot.get?_applyAll_of_not_set fun _ other hmem =>
        h (by rw [← List.mem_singleton.1 hmem]; rfl)
    show sameOption ((s.applyAll [b]).values.get? key) _ = true
    rw [hkept]
    exact hvalue key value rfl hfield

/-- An action goes on to stand behind actions that do not undo it. -/
theorem Snapshot.Stands.applyAll {s : Snapshot} {a : Action} (h : s.Stands a) (hs : s.Ordered)
    (actions : List Action) (hkept : ∀ b ∈ actions, ¬ b.Undoes a) :
    (s.applyAll actions).Stands a := by
  induction actions generalizing s with
  | nil => exact h
  | cons b rest ih =>
    refine ih ?_ (hs.apply b) fun other hother => hkept other (List.mem_cons_of_mem _ hother)
    by_contra hnot
    exact hkept b List.mem_cons_self ⟨s, hs, h, hnot⟩

end FormEngine
