import FormEngine.Proofs.Snapshot.Slots

/-!
# The last write wins

A list of actions leaves a slot with what the last of them that writes to it writes there, or else
as it was (`written_applyAll`). So two neighbours in a list that write to no slot in common can
change places: the snapshot comes out the same, up to the order of the disabled choices of a field
(`reordered_swap`).
-/

namespace FormEngine

open Value (memberOf memberOf_append_singleton memberOf_filter_not_same)

theorem getD_swap {α : Type} {x y : Option α} (h : x = none ∨ y = none) (z : α) :
    y.getD (x.getD z) = x.getD (y.getD z) := by
  rcases h with rfl | rfl <;> rfl

/-! ## Lists of actions -/

/-- What the last write of some actions to a slot writes there. -/
def Slot.lastSet? (c : Slot) (actions : List Action) : Option c.Content :=
  (actions.filterMap (·.sets? c)).getLast?

theorem Slot.lastSet?_cons (c : Slot) (a : Action) (rest : List Action) :
    c.lastSet? (a :: rest) = (c.lastSet? rest).or (a.sets? c) := by
  unfold lastSet?
  rw [List.getLast?_filterMap, List.reverse_cons, List.findSome?_append, List.findSome?_singleton,
    ← List.getLast?_filterMap]

namespace Snapshot

variable {s : Snapshot}

/-- A list of actions leaves a slot with what the last of them writes there, or else with what it
held. -/
theorem written_applyAll (hs : s.Consistent) (actions : List Action) (c : Slot) :
    Option.Rel (c.Written (c.lastSet? actions)) (s.read c) ((s.applyAll actions).read c) := by
  induction actions generalizing s with
  | nil =>
    rw [applyAll_nil]
    cases s.read c with
    | none => exact .none
    | some held => exact .some rfl
  | cons a rest ih =>
    have hfirst := written_apply hs a c
    have hrest := ih (hs.apply a)
    rw [applyAll_cons, Slot.lastSet?_cons]
    generalize s.read c = held at hfirst
    generalize (s.apply a).read c = between at hfirst hrest
    generalize ((s.apply a).applyAll rest).read c = new at hrest
    cases hfirst with
    | none =>
      cases hrest
      exact .none
    | some hfirst =>
      cases hrest with
      | some hrest => exact .some (hfirst.trans hrest)

/-- Actions neither make nor remove a slot. -/
theorem isSome_read_applyAll (hs : s.Consistent) (actions : List Action) (c : Slot) :
    ((s.applyAll actions).read c).isSome = (s.read c).isSome := by
  have h := written_applyAll hs actions c
  generalize s.read c = held at h
  generalize (s.applyAll actions).read c = new at h
  cases h <;> rfl

end Snapshot

/-! ## Choices and disabled choices -/

namespace Action

variable {a b : Action} {id : String} {values : List Value}

theorem onDisabledChoices_of_not_set (h : ∀ v, a.sets? (.choiceDisabled id v) = none) :
    a.onDisabledChoices id values = values := by
  cases a with
  | setChoices target choices =>
    refine if_neg fun hid => ?_
    have hset := h .null
    simp [sets?, hid] at hset
  | setChoiceEnabled target value enabled =>
    refine if_neg fun hid => ?_
    have hset := h value
    simp [sets?, hid, Value.same_refl] at hset
  | _ => rfl

theorem onDisabledChoices_perm {others : List Value} (h : values.Perm others) :
    (a.onDisabledChoices id values).Perm (a.onDisabledChoices id others) := by
  cases a with
  | setChoices target choices =>
    simp only [onDisabledChoices]
    split
    · exact .refl _
    · exact h
  | setChoiceEnabled target value enabled =>
    have hmember : memberOf value values = memberOf value others := h.any_eq
    simp only [onDisabledChoices, hmember]
    split
    · split
      · exact h.filter _
      · split
        · exact h
        · exact h.append_right _
    · exact h
  | _ => exact h

theorem onDisabledChoices_swap_values {v w : Value} (h : v.same w = false)
    (enabled enabled' : Bool) :
    ((setChoiceEnabled id w enabled').onDisabledChoices id
        ((setChoiceEnabled id v enabled).onDisabledChoices id values)).Perm
      ((setChoiceEnabled id v enabled).onDisabledChoices id
        ((setChoiceEnabled id w enabled').onDisabledChoices id values)) := by
  have h' : w.same v = false := (Value.same_comm w v).trans h
  cases enabled with
  | false =>
    cases enabled' with
    | false =>
      by_cases hv : memberOf v values = true <;> by_cases hw : memberOf w values = true <;>
        simp [onDisabledChoices, memberOf_append_singleton, h, h', hv, hw]
      exact (List.Perm.swap ..).append_left _
    | true =>
      by_cases hv : memberOf v values = true <;>
        simp [onDisabledChoices, memberOf_filter_not_same, h, h', hv]
  | true =>
    cases enabled' with
    | false =>
      by_cases hw : memberOf w values = true <;>
        simp [onDisabledChoices, memberOf_filter_not_same, h, h', hw]
    | true => simp [onDisabledChoices, Bool.and_comm]

theorem sets?_choices_cases (a : Action) (id : String) :
    a.sets? (.choices id) = none ∨ ∃ choices, a = .setChoices id choices := by
  cases a with
  | setChoices target choices =>
    by_cases hid : target = id
    · exact .inr ⟨choices, by rw [hid]⟩
    · exact .inl (if_neg hid)
  | _ => exact .inl rfl

theorem sets?_choiceDisabled_cases (a : Action) (id : String) :
    (∀ v, a.sets? (.choiceDisabled id v) = none) ∨ (∃ choices, a = .setChoices id choices) ∨
      ∃ value enabled, a = .setChoiceEnabled id value enabled := by
  cases a with
  | setChoices target choices =>
    by_cases hid : target = id
    · exact .inr (.inl ⟨choices, by rw [hid]⟩)
    · exact .inl fun v => if_neg hid
  | setChoiceEnabled target value enabled =>
    by_cases hid : target = id
    · exact .inr (.inr ⟨value, enabled, by rw [hid]⟩)
    · exact .inl fun v => if_neg fun h => hid h.1
  | _ => exact .inl fun v => rfl

theorem onDisabledChoices_swap
    (h : ∀ v, a.sets? (.choiceDisabled id v) = none ∨ b.sets? (.choiceDisabled id v) = none) :
    (b.onDisabledChoices id (a.onDisabledChoices id values)).Perm
      (a.onDisabledChoices id (b.onDisabledChoices id values)) := by
  rcases a.sets?_choiceDisabled_cases id with ha | ⟨choices, rfl⟩ | ⟨v, enabled, rfl⟩
  · rw [onDisabledChoices_of_not_set ha, onDisabledChoices_of_not_set ha]
  · have hb : ∀ v, b.sets? (.choiceDisabled id v) = none := fun v =>
      (h v).resolve_left (by simp [sets?])
    rw [onDisabledChoices_of_not_set hb, onDisabledChoices_of_not_set hb]
  · rcases b.sets?_choiceDisabled_cases id with hb | ⟨choices, rfl⟩ | ⟨w, enabled', rfl⟩
    · rw [onDisabledChoices_of_not_set hb, onDisabledChoices_of_not_set hb]
    · have := h v
      simp [sets?, Value.same_refl] at this
    · refine onDisabledChoices_swap_values ?_ enabled enabled'
      have hw := h w
      simpa [sets?, Value.same_refl] using hw

end Action

/-! ## Up to the order of disabled choices -/

/-- The states of a field differ at most in the order of disabled choices. -/
structure FieldUi.Reordered (f g : FieldUi) : Prop where
  visible : f.visible = g.visible
  disabled : f.disabled = g.disabled
  error : f.error = g.error
  choices : f.choices = g.choices
  disabledChoices : f.disabledChoices.Perm g.disabledChoices

/-- The snapshots differ at most in the order of disabled choices of fields. -/
structure Snapshot.Reordered (s t : Snapshot) : Prop where
  form : s.form = t.form
  values : s.values = t.values
  groups : s.ui.sections = t.ui.sections
  keys : s.ui.fields.keys = t.ui.fields.keys
  fields : ∀ id, Option.Rel FieldUi.Reordered (s.ui.fields.get? id) (t.ui.fields.get? id)
  errors : s.errors = t.errors
  warnings : s.warnings = t.warnings

namespace FieldUi

variable {f g : FieldUi} {a b : Action} {id : String}

theorem choices_act_of_not_set (h : a.sets? (.choices id) = none) :
    (f.act id a).choices = f.choices := by
  have hwritten : (Slot.choices id).Written (a.sets? (.choices id)) f.choices
      (f.act id a).choices := written_choices_act
  rwa [h] at hwritten

theorem choices_act_setChoices (choices : List Choice) :
    (f.act id (.setChoices id choices)).choices =
      if sameChoices (some choices) f.choices && f.disabledChoices.isEmpty then f.choices
      else some choices := by
  have hempty : Value.sameItems [] f.disabledChoices = f.disabledChoices.isEmpty := by
    cases f.disabledChoices <;> rfl
  have hsame : (f.write id (.setChoices id choices)).same f =
      (sameChoices (some choices) f.choices && f.disabledChoices.isEmpty) := by
    simp [same, write, Action.sets?, Action.onDisabledChoices, hempty]
  rw [act, edit, hsame]
  split
  · rfl
  · simp [write, Action.sets?]

/-- An action keeps states of a field the same up to the order of disabled choices. -/
theorem Reordered.act (h : f.Reordered g) (id : String) (a : Action) :
    (f.act id a).Reordered (g.act id a) where
  visible := by rw [visible_act, visible_act, h.visible]
  disabled := by rw [disabled_act, disabled_act, h.disabled]
  error := by rw [error_act, error_act, h.error]
  choices := by
    rcases a.sets?_choices_cases id with ha | ⟨choices, rfl⟩
    · rw [choices_act_of_not_set ha, choices_act_of_not_set ha, h.choices]
    · rw [choices_act_setChoices, choices_act_setChoices, h.choices, h.disabledChoices.isEmpty_eq]
  disabledChoices := by
    rw [disabledChoices_act, disabledChoices_act]
    exact Action.onDisabledChoices_perm h.disabledChoices

section Swap

variable
  (hvalues : ∀ v, a.sets? (.choiceDisabled id v) = none ∨ b.sets? (.choiceDisabled id v) = none)

include hvalues

theorem choices_act_act (ha : a.sets? (.choices id) = none) :
    ((f.act id a).act id b).choices = ((f.act id b).act id a).choices := by
  rw [choices_act_of_not_set ha]
  rcases b.sets?_choices_cases id with hb | ⟨choices, rfl⟩
  · rw [choices_act_of_not_set hb, choices_act_of_not_set hb, choices_act_of_not_set ha]
  · have hkept : (f.act id a).disabledChoices = f.disabledChoices := by
      rw [disabledChoices_act, Action.onDisabledChoices_of_not_set fun v =>
        (hvalues v).resolve_right (by simp [Action.sets?])]
    rw [choices_act_setChoices, choices_act_setChoices, choices_act_of_not_set ha, hkept]

/-- Actions that write to no part of a field in common can be swapped. -/
theorem reordered_act_act
    (hvisible : a.sets? (.visible .field id) = none ∨ b.sets? (.visible .field id) = none)
    (hdisabled : a.sets? (.disabled .field id) = none ∨ b.sets? (.disabled .field id) = none)
    (herror : a.sets? (.error id) = none ∨ b.sets? (.error id) = none)
    (hchoices : a.sets? (.choices id) = none ∨ b.sets? (.choices id) = none) :
    ((f.act id a).act id b).Reordered ((f.act id b).act id a) where
  visible := by
    simp only [visible_act]
    exact getD_swap hvisible f.visible
  disabled := by
    simp only [disabled_act]
    exact getD_swap hdisabled f.disabled
  error := by
    simp only [error_act]
    exact getD_swap herror f.error
  choices := by
    rcases hchoices with ha | hb
    · exact choices_act_act hvalues ha
    · exact (choices_act_act (fun v => (hvalues v).symm) hb).symm
  disabledChoices := by
    simp only [disabledChoices_act]
    exact Action.onDisabledChoices_swap hvalues

end Swap

end FieldUi

/-! ## Neighbours that change places -/

namespace Snapshot

variable {s t : Snapshot} {a b : Action}

/-- Both actions write to a slot of the snapshot. -/
def Share (s : Snapshot) (a b : Action) : Prop :=
  ∃ c, (s.read c).isSome = true ∧ (a.sets? c).isSome = true ∧ (b.sets? c).isSome = true

theorem sets?_eq_none_or_of_not_share (h : ¬ s.Share a b) {c : Slot}
    (hc : (s.read c).isSome = true) : a.sets? c = none ∨ b.sets? c = none := by
  by_contra hboth
  simp only [not_or, ← ne_eq, Option.ne_none_iff_isSome] at hboth
  exact h ⟨c, hc, hboth⟩

theorem reordered_of (hs : s.Consistent) (ht : t.Consistent) (hso : s.Ordered) (hto : t.Ordered)
    (hform : s.form = t.form) (hwarnings : s.warnings = t.warnings)
    (hkeys : s.ui.fields.keys = t.ui.fields.keys)
    (hvalues : ∀ key, s.values.get? key = t.values.get? key)
    (hgroups : ∀ id, s.ui.sections.get? id = t.ui.sections.get? id)
    (hfields : ∀ id, Option.Rel FieldUi.Reordered (s.ui.fields.get? id) (t.ui.fields.get? id)) :
    s.Reordered t := by
  refine ⟨hform, hso.values.ext hto.values hvalues, hso.groups.ext hto.groups hgroups, hkeys,
    hfields, hso.errors.ext hto.errors fun id => ?_, hwarnings⟩
  have hfield := hfields id
  rw [hs.errors, ht.errors]
  generalize s.ui.fields.get? id = f at hfield
  generalize t.ui.fields.get? id = g at hfield
  cases hfield with
  | none => rfl
  | some h => exact h.error

theorem Reordered.apply (h : s.Reordered t) (hs : s.Consistent) (ht : t.Consistent)
    (hso : s.Ordered) (hto : t.Ordered) (a : Action) : (s.apply a).Reordered (t.apply a) := by
  refine reordered_of (hs.apply a) (ht.apply a) (hso.apply a) (hto.apply a) ?_ ?_ ?_ ?_ ?_ ?_
  · rw [(apply_form s a).1, (apply_form t a).1, h.form]
  · rw [(apply_form s a).2, (apply_form t a).2, h.warnings]
  · rw [(keys_apply s a).1, (keys_apply t a).1, h.keys]
  · exact fun key => get?_apply_congr h.form (by rw [h.values]) a
  · intro id
    rw [get?_sections_apply, get?_sections_apply, h.groups]
  · intro id
    have hfield := h.fields id
    rw [get?_fields_apply, get?_fields_apply]
    generalize s.ui.fields.get? id = f at hfield
    generalize t.ui.fields.get? id = g at hfield
    cases hfield with
    | none => exact .none
    | some hf => exact .some (hf.act id a)

theorem Reordered.applyAll (h : s.Reordered t) (hs : s.Consistent) (ht : t.Consistent)
    (hso : s.Ordered) (hto : t.Ordered) (actions : List Action) :
    (s.applyAll actions).Reordered (t.applyAll actions) := by
  induction actions generalizing s t with
  | nil => exact h
  | cons a rest ih =>
    exact ih (h.apply hs ht hso hto a) (hs.apply a) (ht.apply a) (hso.apply a) (hto.apply a)

section Swap

variable (hs : s.Consistent)

include hs

theorem get?_values_apply_apply {key : String} (ha : a.sets? (.value key) = none) :
    ((s.apply a).apply b).values.get? key = ((s.apply b).apply a).values.get? key :=
  calc ((s.apply a).apply b).values.get? key
      = (s.apply b).values.get? key :=
        get?_apply_congr (apply_form s a).1 (read_apply_of_not_set (c := .value key) hs ha) b
    _ = ((s.apply b).apply a).values.get? key :=
        (read_apply_of_not_set (c := .value key) (hs.apply b) ha).symm

variable (h : ¬ s.Share a b)

include h

theorem get?_values_swap (key : String) :
    ((s.apply a).apply b).values.get? key = ((s.apply b).apply a).values.get? key := by
  cases hvalue : s.values.get? key with
  | none =>
    have hnone : ∀ actions, (s.applyAll actions).values.get? key = none := fun actions => by
      have hkept := isSome_read_applyAll hs actions (.value key)
      rw [read, read, hvalue] at hkept
      exact Option.isNone_iff_eq_none.1 (by simpa using hkept)
    exact (hnone [a, b]).trans (hnone [b, a]).symm
  | some held =>
    have hfree := sets?_eq_none_or_of_not_share (c := .value key) h (by rw [read, hvalue]; rfl)
    rcases hfree with ha | hb
    · exact get?_values_apply_apply hs ha
    · exact (get?_values_apply_apply hs hb).symm

omit hs in
theorem get?_sections_swap (id : String) :
    ((s.apply a).apply b).ui.sections.get? id = ((s.apply b).apply a).ui.sections.get? id := by
  simp only [get?_sections_apply]
  cases hgroup : s.ui.sections.get? id with
  | none => rfl
  | some g =>
    have hvisible := sets?_eq_none_or_of_not_share (c := .visible .group id) h
      (by rw [read, hgroup]; rfl)
    have hdisabled := sets?_eq_none_or_of_not_share (c := .disabled .group id) h
      (by rw [read, hgroup]; rfl)
    simp only [Option.map_some, SectionUi.write, getD_swap hvisible, getD_swap hdisabled]

omit hs in
theorem rel_fields_swap (id : String) : Option.Rel FieldUi.Reordered
    (((s.apply a).apply b).ui.fields.get? id) (((s.apply b).apply a).ui.fields.get? id) := by
  simp only [get?_fields_apply]
  cases hfield : s.ui.fields.get? id with
  | none => exact .none
  | some f =>
    have hfree : ∀ c : Slot, (s.read c).isSome = true → a.sets? c = none ∨ b.sets? c = none :=
      fun c => sets?_eq_none_or_of_not_share h
    exact .some (FieldUi.reordered_act_act
      (fun v => hfree (.choiceDisabled id v) (by rw [read, hfield]; rfl))
      (hfree (.visible .field id) (by rw [read, hfield]; rfl))
      (hfree (.disabled .field id) (by rw [read, hfield]; rfl))
      (hfree (.error id) (by rw [read, hfield]; rfl))
      (hfree (.choices id) (by rw [read, hfield]; rfl)))

/-- Two actions that write to no slot in common can be swapped. -/
theorem reordered_swap (hso : s.Ordered) :
    ((s.apply a).apply b).Reordered ((s.apply b).apply a) := by
  refine reordered_of ((hs.apply a).apply b) ((hs.apply b).apply a) ((hso.apply a).apply b)
    ((hso.apply b).apply a) ?_ ?_ ?_ (get?_values_swap hs h) (get?_sections_swap h)
    (rel_fields_swap h)
  · simp only [(apply_form _ _).1]
  · simp only [(apply_form _ _).2]
  · simp only [(keys_apply _ _).1]

end Swap

/-- Each slot is left with its last write, up to equality of documents, or as it was; the errors are
those of the fields, and nothing else changes. Two neighbours in a list of actions that write to no
slot in common can change places, up to the order of the disabled choices of a field. -/
theorem last_write_wins (hs : s.Consistent) (hso : s.Ordered) :
    (∀ actions,
      (∀ c, Option.Rel (c.Written (c.lastSet? actions)) (s.read c)
        ((s.applyAll actions).read c)) ∧
      (∀ id, (s.applyAll actions).errors.get? id =
        ((s.applyAll actions).ui.fields.get? id).bind (·.error)) ∧
      (s.applyAll actions).form = s.form ∧ (s.applyAll actions).warnings = s.warnings) ∧
    ∀ a b, ¬ s.Share a b → ∀ before after,
      (s.applyAll (before ++ a :: b :: after)).Reordered
        (s.applyAll (before ++ b :: a :: after)) := by
  refine ⟨fun actions => ⟨written_applyAll hs actions, (hs.applyAll actions).errors,
    applyAll_form s actions⟩, fun a b hshare before after => ?_⟩
  have ht := hs.applyAll before
  have hto := hso.applyAll before
  have hfree : ¬ (s.applyAll before).Share a b := by
    rintro ⟨c, hc, hboth⟩
    exact hshare ⟨c, (isSome_read_applyAll hs before c) ▸ hc, hboth⟩
  rw [applyAll_append, applyAll_append]
  exact (reordered_swap ht hfree hto).applyAll ((ht.apply a).apply b) ((ht.apply b).apply a)
    ((hto.apply a).apply b) ((hto.apply b).apply a) after

/-- A form with a size to choose, in a section of the same id. -/
def shirtForm : Schema where
  sections := [{
    id := "size"
    fields := [{
      id := "size"
      kind := .select
      choices := some (.listed [⟨"Any", .number (.float ⟨false, 0⟩)⟩]) }] }]

theorem shirtForm_last_write_wins :
    ∃ s actions, build shirtForm [] [] {} = .ok s ∧
      actions = [.setEnabled none "size" false, .setEnabled (some .field) "size" true] ∧
      (∀ c, Option.Rel (c.Written (c.lastSet? actions)) (s.read c) ((s.applyAll actions).read c)) ∧
      (s.applyAll actions).read (.disabled .group "size") = some true ∧
      (s.applyAll actions).read (.disabled .field "size") = some false ∧
      (s.applyAll [.setError "size" "sold out", .setChoiceEnabled "size" (.string "s") false,
          .setChoiceEnabled "size" (.string "m") false]).Reordered
        (s.applyAll [.setError "size" "sold out", .setChoiceEnabled "size" (.string "m") false,
          .setChoiceEnabled "size" (.string "s") false]) := by
  have hbuild := build_eq_start
    (show (build shirtForm [] [] {}).toOption.isSome = true by decide +kernel)
  obtain ⟨hlast, hswap⟩ := last_write_wins
    (Form.consistent_start ⟨(build_ok hbuild).1, rfl⟩)
    (Form.ordered_start (Form.ofSchema shirtForm [] [] {}))
  refine ⟨_, _, hbuild, rfl, (hlast _).1, by decide +kernel, by decide +kernel,
    hswap (.setChoiceEnabled "size" (.string "s") false)
      (.setChoiceEnabled "size" (.string "m") false) ?_ [.setError "size" "sold out"] []⟩
  rintro ⟨c, -, hs, hm⟩
  cases c with
  | choiceDisabled id v =>
    simp only [Action.sets?, Option.isSome_ite] at hs hm
    have hsame := Value.same_trans _ _ _ hs.2 ((Value.same_comm v _).trans hm.2)
    simp [Value.same] at hsame
  | _ => cases hs

/-- Choices that are equal to those that stand there are not written, though they have a negative
zero for a zero. -/
theorem shirtForm_keeps_equal_choices :
    ∃ s choices, build shirtForm [] [] {} = .ok s ∧
      (Slot.choices "size").lastSet? [.setChoices "size" choices] = some (some choices) ∧
      (s.applyAll [.setChoices "size" choices]).read (.choices "size") ≠ some (some choices) := by
  have hbuild := build_eq_start
    (show (build shirtForm [] [] {}).toOption.isSome = true by decide +kernel)
  refine ⟨_, [⟨"Any", .number (.float ⟨true, 0⟩)⟩], hbuild, rfl, fun hread => ?_⟩
  have hkept : (((Form.ofSchema shirtForm [] [] {}).start.applyAll
      [.setChoices "size" [⟨"Any", .number (.float ⟨true, 0⟩)⟩]]).ui.fields.get? "size").map
      (fun f => f.choices.map (·.all fun c => c.value.noNegativeZero)) = some (some true) := by
    decide +kernel
  have hwritten := congrArg (Option.map (Option.map (·.all fun c => c.value.noNegativeZero))) hread
  rw [read, Option.map_map] at hwritten
  exact absurd (hkept.symm.trans hwritten) (by decide +kernel)

end Snapshot

end FormEngine
