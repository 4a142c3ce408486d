import FormEngine.Proofs.Json.Equality
import FormEngine.Proofs.Snapshot.Consistent
import FormEngine.Proofs.Snapshot.Ordered

/-!
# Slots

A slot is the least that actions write: whether an element is visible, the value of a field, whether
one of its choices is disabled. `Action.sets?` says what an action writes to a slot. An action
leaves a slot with what it writes there, up to equality of documents, or else as it was
(`read_apply`). It never makes or removes a slot.
-/

namespace FormEngine

open Value (memberOf memberOf_congr memberOf_append_singleton memberOf_filter_not_same)

/-- What actions write. -/
inductive Slot where
  | visible (element : Element) (id : String)
  | disabled (element : Element) (id : String)
  | value (id : String)
  | choices (id : String)
  /-- Whether choices of this value are disabled. -/
  | choiceDisabled (id : String) (value : Value)
  | error (id : String)

namespace Slot

/-- What a slot holds. -/
abbrev Content : Slot → Type
  | .visible _ _ => Bool
  | .disabled _ _ => Bool
  | .value _ => Value
  | .choices _ => Option (List Choice)
  | .choiceDisabled _ _ => Bool
  | .error _ => Option String

/-- Equality of contents, which is equality of documents where there are any. -/
def Same : (c : Slot) → c.Content → c.Content → Prop
  | .value _, a, b => a.same b = true
  | .choices _, a, b => FieldUi.sameChoices a b = true
  | .visible _ _, a, b => a = b
  | .disabled _ _, a, b => a = b
  | .choiceDisabled _ _, a, b => a = b
  | .error _, a, b => a = b

theorem same_refl (c : Slot) (a : c.Content) : c.Same a a := by
  cases c with
  | value id => exact Value.same_refl a
  | choices id =>
    cases a with
    | none => rfl
    | some choices => exact Choice.sameList_refl choices
  | _ => rfl

/-- What a slot holds behind a last write to it: what was written, up to equality, and without a
write what it held. -/
def Written (c : Slot) : Option c.Content → c.Content → c.Content → Prop
  | some content, _, new => c.Same content new
  | none, held, new => new = held

theorem written_getD (c : Slot) (content : Option c.Content) (held : c.Content) :
    c.Written content held (content.getD held) := by
  cases content with
  | none => rfl
  | some content => exact c.same_refl content

theorem Written.trans {c : Slot} {first second : Option c.Content} {x y z : c.Content}
    (hxy : c.Written first x y) (hyz : c.Written second y z) :
    c.Written (second.or first) x z := by
  cases second with
  | none =>
    cases hyz
    exact hxy
  | some content => exact hyz

end Slot

namespace Action

/-- What an action writes to a slot. -/
def sets? : Action → (c : Slot) → Option c.Content
  | .setVisible element target visible, .visible other id =>
    if element = other ∧ target = id then some visible else none
  | .setEnabled element target enabled, .disabled other id =>
    if element.getD other = other ∧ target = id then some !enabled else none
  | .setValue target value, .value id => if target = id then some value else none
  | .setChoices target choices, .choices id => if target = id then some (some choices) else none
  | .setChoices target _, .choiceDisabled id _ => if target = id then some false else none
  | .setChoiceEnabled target value enabled, .choiceDisabled id other =>
    if target = id ∧ value.same other = true then some !enabled else none
  | .setError target message, .error id => if target = id then some (some message) else none
  | .clearError target, .error id => if target = id then some none else none
  | _, _ => none

/-- What an action makes of the disabled choices of a field. -/
def onDisabledChoices (id : String) : Action → List Value → List Value
  | .setChoices target _, values => if target = id then [] else values
  | .setChoiceEnabled target value enabled, values =>
    if target = id then
      if enabled then values.filter fun v => !v.same value
      else if memberOf value values then values
      else values ++ [value]
    else values
  | _, values => values

end Action

/-! ## The state of an element -/

namespace FieldUi

/-- The state of the field of an id with what an action writes. -/
def write (id : String) (a : Action) (f : FieldUi) : FieldUi where
  visible := (a.sets? (.visible .field id)).getD f.visible
  disabled := (a.sets? (.disabled .field id)).getD f.disabled
  error := (a.sets? (.error id)).getD f.error
  choices := (a.sets? (.choices id)).getD f.choices
  disabledChoices := a.onDisabledChoices id f.disabledChoices

/-- What an action makes of the state of the field of an id. -/
def act (id : String) (a : Action) (f : FieldUi) : FieldUi := f.edit (·.write id a)

end FieldUi

namespace SectionUi

/-- The state of the group of an id with what an action writes. -/
def write (id : String) (a : Action) (g : SectionUi) : SectionUi where
  visible := (a.sets? (.visible .group id)).getD g.visible
  disabled := (a.sets? (.disabled .group id)).getD g.disabled

end SectionUi

/-! ## One action -/

theorem FieldUi.edit_eq_self {change : FieldUi → FieldUi} {f : FieldUi} (h : change f = f) :
    f.edit change = f := by
  rw [edit, h, ite_self]

section OnCell

variable {id : String} {a : Action}

theorem FieldUi.write_of_target_ne (h : a.target? ≠ some id) (f : FieldUi) : f.write id a = f := by
  cases a <;> simp_all [write, Action.sets?, Action.onDisabledChoices, Action.target?]

theorem SectionUi.write_of_target_ne (h : a.target? ≠ some id) (g : SectionUi) :
    g.write id a = g := by
  cases a <;> simp_all [write, Action.sets?, Action.target?]

/-- What an action writes to the field of its target. -/
theorem Action.field_onCell (h : a.target? = some id) (c : Cell) :
    (a.onCell c).field = c.field.map (·.act id a) := by
  have hkept : (∀ f : FieldUi, f.write id a = f) →
      c.field = c.field.map (·.act id a) := fun hwrite => by
    cases c.field <;> simp [FieldUi.act, FieldUi.edit_eq_self, hwrite]
  have hedit : ∀ change : FieldUi → FieldUi, (∀ f, f.write id a = change f) →
      (c.editField change).field = c.field.map (·.act id a) := fun change hwrite => by
    unfold FieldUi.act
    rw [funext hwrite]
    rfl
  cases a with
  | setVisible element target visible =>
    cases h
    cases element with
    | field => exact hedit _ fun f => by simp [FieldUi.write, sets?, onDisabledChoices]
    | group => exact hkept fun f => by simp [FieldUi.write, sets?, onDisabledChoices]
  | setEnabled element target enabled =>
    cases h
    rcases element with _ | _ | _
    · exact hedit _ fun f => by simp [FieldUi.write, sets?, onDisabledChoices]
    · exact hedit _ fun f => by simp [FieldUi.write, sets?, onDisabledChoices]
    · exact hkept fun f => by simp [FieldUi.write, sets?, onDisabledChoices]
  | setValue target value =>
    exact hkept fun f => by simp [FieldUi.write, sets?, onDisabledChoices]
  | setChoices target choices =>
    cases h
    exact hedit _ fun f => by
      simp [FieldUi.write, sets?, onDisabledChoices, FieldUi.setChoices]
  | setChoiceEnabled target value enabled =>
    cases h
    refine hedit _ fun f => ?_
    simp only [FieldUi.write, sets?, onDisabledChoices, FieldUi.setChoiceEnabled]
    cases enabled
    · by_cases hmem : memberOf value f.disabledChoices = true <;> simp [hmem]
    · simp
  | setError target message =>
    cases h
    have hset := hedit (fun f => { f with error := some message }) fun f => by
      simp [FieldUi.write, sets?, onDisabledChoices]
    cases hf : c.field with
    | none => simp [onCell, Cell.setError, hf]
    | some f =>
      rw [hf] at hset
      simpa [onCell, Cell.setError, hf] using hset
  | clearError target =>
    cases h
    exact hedit (fun f => { f with error := none }) fun f => by
      simp [FieldUi.write, sets?, onDisabledChoices]
  | unknown => cases h

theorem Action.group_onCell (h : a.target? = some id) (c : Cell) :
    (a.onCell c).group = c.group.map (·.write id a) := by
  have hkept : (∀ g : SectionUi, g.write id a = g) → c.group = c.group.map (·.write id a) :=
    fun hwrite => by simp [hwrite]
  have hedit : ∀ change : SectionUi → SectionUi, (∀ g, g.write id a = change g) →
      (c.editGroup change).group = c.group.map (·.write id a) := fun change hwrite => by
    rw [funext hwrite]
    rfl
  cases a with
  | setVisible element target visible =>
    cases h
    cases element with
    | field => exact hkept fun g => by simp [SectionUi.write, sets?]
    | group => exact hedit _ fun g => by simp [SectionUi.write, sets?]
  | setEnabled element target enabled =>
    cases h
    rcases element with _ | _ | _
    · exact hedit _ fun g => by simp [SectionUi.write, sets?]
    · exact hkept fun g => by simp [SectionUi.write, sets?]
    · exact hedit _ fun g => by simp [SectionUi.write, sets?]
  | setError target message =>
    refine Eq.trans ?_ (hkept fun g => by simp [SectionUi.write, sets?])
    simp only [onCell, Cell.setError]
    split <;> rfl
  | _ => exact hkept fun g => by simp [SectionUi.write, sets?]

end OnCell

namespace Snapshot

variable (s : Snapshot) (a : Action) (id : String)

theorem get?_fields_apply : (s.apply a).ui.fields.get? id =
    (s.ui.fields.get? id).map (·.act id a) := by
  have hcell := congrArg Cell.field (cell_apply s a id)
  by_cases h : a.target? = some id
  · rw [if_pos h, Action.field_onCell h] at hcell
    exact hcell
  · rw [if_neg h] at hcell
    refine hcell.trans ?_
    cases hf : s.ui.fields.get? id <;>
      simp [cell, hf, FieldUi.act, FieldUi.edit_eq_self, FieldUi.write_of_target_ne h]

theorem get?_sections_apply : (s.apply a).ui.sections.get? id =
    (s.ui.sections.get? id).map (·.write id a) := by
  have hcell := congrArg Cell.group (cell_apply s a id)
  by_cases h : a.target? = some id
  · rw [if_pos h, Action.group_onCell h] at hcell
    exact hcell
  · rw [if_neg h] at hcell
    refine hcell.trans ?_
    simp [cell, SectionUi.write_of_target_ne h]

end Snapshot

/-! ## The disabled choices of a field -/

namespace Action

variable (a : Action) (id : String) (values : List Value)

theorem onDisabledChoices_eq_self
    (h : (a.onDisabledChoices id values).length = values.length) :
    a.onDisabledChoices id values = values := by
  cases a with
  | setChoices target choices =>
    simp only [onDisabledChoices] at h ⊢
    split at h
    · rw [if_pos ‹_›]
      exact (List.length_eq_zero_iff.1 h.symm).symm
    · rw [if_neg ‹_›]
  | setChoiceEnabled target value enabled =>
    simp only [onDisabledChoices] at h ⊢
    split at h
    · split at h
      · rw [if_pos ‹_›, if_pos ‹_›]
        exact List.filter_eq_self.2 (List.length_filter_eq_length_iff.1 h)
      · split at h
        · simp_all
        · simp at h
    · rw [if_neg ‹_›]
  | _ => rfl

theorem memberOf_onDisabledChoices (v : Value) :
    memberOf v (a.onDisabledChoices id values) =
      (a.sets? (.choiceDisabled id v)).getD (memberOf v values) := by
  cases a with
  | setChoices target choices =>
    simp only [onDisabledChoices, sets?]
    split <;> simp [memberOf]
  | setChoiceEnabled target value enabled =>
    simp only [onDisabledChoices, sets?]
    by_cases hid : target = id
    · cases hvalue : value.same v with
      | false =>
        cases enabled with
        | false =>
          simp only [if_pos hid, Bool.false_eq_true, if_false, and_false, Option.getD_none]
          split
          · rfl
          · rw [memberOf_append_singleton, hvalue, Bool.or_false]
        | true => simp [hid, memberOf_filter_not_same, hvalue]
      | true =>
        cases enabled with
        | false =>
          simp only [if_pos hid, Bool.false_eq_true, if_false, and_true, Option.getD_some,
            Bool.not_false]
          split
          · rwa [← memberOf_congr hvalue]
          · rw [memberOf_append_singleton, hvalue, Bool.or_true]
        | true => simp [hid, memberOf_filter_not_same, hvalue]
    · simp [hid]
  | _ => rfl

end Action

/-! ## Reading -/

namespace FieldUi

variable {id : String} {a : Action} {f : FieldUi}

theorem act_eq_write : f.act id a = { f.write id a with choices := (f.act id a).choices } := by
  unfold act
  rcases edit_eq_or (·.write id a) f with ⟨hkept, hsame⟩ | hwritten
  · simp only [same, Bool.and_eq_true, beq_iff_eq] at hsame
    obtain ⟨⟨⟨⟨hvisible, hdisabled⟩, herror⟩, -⟩, hitems⟩ := hsame
    have hvalues : (f.write id a).disabledChoices = f.disabledChoices :=
      a.onDisabledChoices_eq_self id _ (Value.length_eq_of_sameItems hitems)
    simp only [hkept, hvisible, hdisabled, herror, hvalues]
  · rw [hwritten]

@[simp] theorem visible_act :
    (f.act id a).visible = (a.sets? (.visible .field id)).getD f.visible := by
  rw [act_eq_write]
  rfl

@[simp] theorem disabled_act :
    (f.act id a).disabled = (a.sets? (.disabled .field id)).getD f.disabled := by
  rw [act_eq_write]
  rfl

@[simp] theorem error_act : (f.act id a).error = (a.sets? (.error id)).getD f.error := by
  rw [act_eq_write]
  rfl

@[simp] theorem disabledChoices_act :
    (f.act id a).disabledChoices = a.onDisabledChoices id f.disabledChoices := by
  rw [act_eq_write]
  rfl

theorem written_choices_act : (Slot.choices id).Written (a.sets? (.choices id)) f.choices
    (f.act id a).choices := by
  unfold act
  rcases edit_eq_or (·.write id a) f with ⟨hkept, hsame⟩ | hwritten
  · rw [hkept]
    cases hset : a.sets? (.choices id) with
    | none => rfl
    | some choices =>
      simp only [same, write, hset, Option.getD_some, Bool.and_eq_true] at hsame
      exact hsame.1.2
  · rw [hwritten]
    exact Slot.written_getD ..

end FieldUi

namespace Snapshot

/-- What a snapshot holds in a slot, if it has the slot. -/
def read (s : Snapshot) : (c : Slot) → Option c.Content
  | .visible .field id => (s.ui.fields.get? id).map (·.visible)
  | .visible .group id => (s.ui.sections.get? id).map (·.visible)
  | .disabled .field id => (s.ui.fields.get? id).map (·.disabled)
  | .disabled .group id => (s.ui.sections.get? id).map (·.disabled)
  | .value id => s.values.get? id
  | .choices id => (s.ui.fields.get? id).map (·.choices)
  | .choiceDisabled id value => (s.ui.fields.get? id).map fun f => memberOf value f.disabledChoices
  | .error id => (s.ui.fields.get? id).map (·.error)

variable {s : Snapshot} {a : Action} {id : String}

theorem written_read_field {c : Slot} {part : FieldUi → c.Content}
    (hpart : ∀ f, c.Written (a.sets? c) (part f) (part (f.act id a))) :
    Option.Rel (c.Written (a.sets? c)) ((s.ui.fields.get? id).map part)
      (((s.apply a).ui.fields.get? id).map part) := by
  rw [get?_fields_apply]
  cases s.ui.fields.get? id with
  | none => exact .none
  | some f => exact .some (hpart f)

theorem written_read_group {c : Slot} {part : SectionUi → c.Content}
    (hpart : ∀ g, c.Written (a.sets? c) (part g) (part (g.write id a))) :
    Option.Rel (c.Written (a.sets? c)) ((s.ui.sections.get? id).map part)
      (((s.apply a).ui.sections.get? id).map part) := by
  rw [get?_sections_apply]
  cases s.ui.sections.get? id with
  | none => exact .none
  | some g => exact .some (hpart g)

theorem Consistent.has_value (hs : s.Consistent) (id : String) :
    s.values.has id = s.form.graph.hasField id := by
  rw [Bool.eq_iff_iff, Dict.has_iff, hs.values.mem_iff, hs.loaded.hasField_iff]

theorem written_read_value (hs : s.Consistent) :
    Option.Rel ((Slot.value id).Written (a.sets? (.value id))) (s.values.get? id)
      ((s.apply a).values.get? id) := by
  have hkept : a.sets? (.value id) = none → (s.apply a).values.get? id = s.values.get? id →
      Option.Rel ((Slot.value id).Written (a.sets? (.value id))) (s.values.get? id)
        ((s.apply a).values.get? id) := fun hset hvalues => by
    rw [hset, hvalues]
    cases s.values.get? id with
    | none => exact .none
    | some held => exact .some rfl
  cases a with
  | setValue target value =>
    by_cases hid : target = id
    · subst hid
      have hdeclared := hs.has_value target
      rw [Dict.has] at hdeclared
      simp only [values_apply, setValue, Action.sets?, if_true, ← hdeclared]
      cases hheld : s.values.get? target with
      | none => simp [hheld]
      | some held =>
        by_cases hsame : held.same value = true
        · simp only [Option.isSome_some, Bool.not_true, Option.any_some, hsame, Bool.or_true,
            if_true, hheld]
          exact .some ((Value.same_comm value held).trans hsame)
        · simp only [Option.isSome_some, Bool.not_true, Option.any_some, hsame, Bool.or_false,
            Bool.false_eq_true, if_false, Dict.get?_insert_self]
          exact .some (Value.same_refl value)
    · refine hkept (if_neg hid) ?_
      rw [values_apply]
      simp only [setValue]
      split
      · rfl
      · rw [Dict.get?_insert, if_neg hid]
  | _ => exact hkept rfl (by rw [values_apply])

/-- An action leaves a slot with what it writes there, or else with what it held. -/
theorem written_apply (hs : s.Consistent) (a : Action) (c : Slot) :
    Option.Rel (c.Written (a.sets? c)) (s.read c) ((s.apply a).read c) := by
  cases c with
  | visible element id =>
    cases element with
    | field => exact written_read_field fun f => FieldUi.visible_act ▸ Slot.written_getD ..
    | group => exact written_read_group fun g => Slot.written_getD ..
  | disabled element id =>
    cases element with
    | field => exact written_read_field fun f => FieldUi.disabled_act ▸ Slot.written_getD ..
    | group => exact written_read_group fun g => Slot.written_getD ..
  | value id => exact written_read_value hs
  | choices id => exact written_read_field fun f => FieldUi.written_choices_act
  | choiceDisabled id value =>
    refine written_read_field fun f => ?_
    rw [FieldUi.disabledChoices_act, a.memberOf_onDisabledChoices]
    exact Slot.written_getD ..
  | error id => exact written_read_field fun f => FieldUi.error_act ▸ Slot.written_getD ..

theorem read_apply_of_not_set (hs : s.Consistent) {c : Slot} (h : a.sets? c = none) :
    (s.apply a).read c = s.read c := by
  have hwritten := written_apply hs a c
  rw [h] at hwritten
  generalize s.read c = held at hwritten
  generalize (s.apply a).read c = new at hwritten
  cases hwritten with
  | none => rfl
  | some hkept => exact congrArg some hkept

end Snapshot

end FormEngine
