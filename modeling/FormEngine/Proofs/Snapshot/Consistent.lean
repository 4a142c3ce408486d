import FormEngine.Proofs.Snapshot.Cells
import FormEngine.Proofs.Snapshot.Reachable
import Mathlib.Data.List.Perm.Basic

/-!
# Consistency of snapshots

The maps of a snapshot stay in step: values and states stand under the declared ids and no others,
the errors of a snapshot are those of its fields, and no choice is disabled twice. Every action
preserves this (`Consistent.apply`), so every step does, and it holds of every reachable snapshot
(`Reachable.consistent`).
-/

namespace FormEngine

/-- No value is disabled twice. -/
def FieldUi.DistinctDisabled (f : FieldUi) : Prop :=
  f.disabledChoices.Pairwise fun a b => a.same b = false

namespace FieldUi

theorem DistinctDisabled.edit {change : FieldUi → FieldUi} {f : FieldUi}
    (hchange : ∀ f, f.DistinctDisabled → (change f).DistinctDisabled) (h : f.DistinctDisabled) :
    (f.edit change).DistinctDisabled := by
  rcases edit_eq_or change f with ⟨he, -⟩ | he
  · rwa [he]
  · rw [he]
    exact hchange f h

theorem DistinctDisabled.setChoiceEnabled {f : FieldUi} (h : f.DistinctDisabled) (value : Value)
    (enabled : Bool) : (f.setChoiceEnabled value enabled).DistinctDisabled := by
  unfold FieldUi.setChoiceEnabled
  split
  · exact h.sublist List.filter_sublist
  · split
    · exact h
    · rename_i hnew
      refine List.pairwise_append.2 ⟨h, List.pairwise_singleton _ _, ?_⟩
      intro a ha b hb
      rw [List.mem_singleton.1 hb]
      simp only [Value.memberOf, List.any_eq_true, not_exists, not_and, Bool.not_eq_true] at hnew
      exact hnew a ha

end FieldUi

namespace Snapshot

/-- The maps of a snapshot are in step with its form and with one another. -/
structure Consistent (s : Snapshot) : Prop where
  loaded : s.form.Loaded
  values : s.values.keys.Perm (s.form.schema.fields.map (·.id))
  fields : s.ui.fields.keys.Perm (s.form.schema.fields.map (·.id))
  groups : s.ui.sections.keys.Perm (s.form.schema.groups.map (·.key))
  errors : ∀ id, s.errors.get? id = (s.ui.fields.get? id).bind (·.error)
  errorKeys : s.errors.keys.Nodup
  disabled : ∀ id f, s.ui.fields.get? id = some f → f.DistinctDisabled

namespace Consistent

variable {s : Snapshot}

/-! ## Actions -/

theorem editField (h : s.Consistent) {target : String} {change : FieldUi → FieldUi}
    {errors : Dict String}
    (herrors : ∀ id, errors.get? id =
      if target = id then ((s.ui.fields.get? id).map change).bind (·.error)
      else s.errors.get? id)
    (hkeys : errors.keys.Nodup)
    (hchange : ∀ f, f.DistinctDisabled → (change f).DistinctDisabled) :
    Consistent { s with ui := s.ui.editField target change, errors := errors } where
  loaded := h.loaded
  values := h.values
  fields := by
    rw [Ui.keys_editField]
    exact h.fields
  groups := by
    rw [Ui.sections_editField]
    exact h.groups
  errors := by
    intro id
    rw [herrors, Ui.get?_editField]
    split
    · cases s.ui.fields.get? id <;> simp
    · exact h.errors id
  errorKeys := hkeys
  disabled := by
    intro id f hf
    rw [Ui.get?_editField] at hf
    split at hf
    · obtain ⟨old, hold, rfl⟩ := Option.map_eq_some_iff.1 hf
      exact (h.disabled id old hold).edit hchange
    · exact h.disabled id f hf

theorem editField_keeping_error (h : s.Consistent) {target : String}
    {change : FieldUi → FieldUi} (herror : ∀ f, (change f).error = f.error)
    (hchange : ∀ f, f.DistinctDisabled → (change f).DistinctDisabled) :
    Consistent { s with ui := s.ui.editField target change } := by
  refine h.editField (fun id => ?_) h.errorKeys hchange
  split
  · rw [h.errors id]
    cases s.ui.fields.get? id <;> simp [herror]
  · rfl

theorem editSection (h : s.Consistent) {target : String} {change : SectionUi → SectionUi} :
    Consistent { s with ui := s.ui.editSection target change } where
  loaded := h.loaded
  values := h.values
  fields := by
    rw [Ui.fields_editSection]
    exact h.fields
  groups := by
    rw [Ui.keys_editSection]
    exact h.groups
  errors := by
    intro id
    rw [Ui.fields_editSection]
    exact h.errors id
  errorKeys := h.errorKeys
  disabled := by
    intro id f hf
    rw [Ui.fields_editSection] at hf
    exact h.disabled id f hf

theorem setEnabled (h : s.Consistent) (target : String) (enabled : Bool) (element : Element) :
    Consistent { s with ui := s.ui.setEnabled target enabled element } := by
  cases element with
  | field => exact h.editField_keeping_error (fun _ => rfl) fun _ hf => hf
  | group => exact h.editSection

theorem setVisible (h : s.Consistent) (target : String) (visible : Bool) (element : Element) :
    Consistent { s with ui := s.ui.setVisible target visible element } := by
  cases element with
  | field => exact h.editField_keeping_error (fun _ => rfl) fun _ hf => hf
  | group => exact h.editSection

theorem withValue (h : s.Consistent) {target : String}
    (htarget : s.form.graph.hasField target = true) (value : Value) :
    Consistent { s with values := s.values.insert target value } := by
  refine ⟨h.loaded, ?_, h.fields, h.groups, h.errors, h.errorKeys, h.disabled⟩
  have hmem : target ∈ s.values.keys := h.values.mem_iff.2 (h.loaded.hasField_iff.1 htarget)
  show (s.values.insert target value).keys.Perm _
  rw [Dict.keys_insert_of_mem hmem]
  exact h.values

theorem setValue (h : s.Consistent) (target : String) (value : Value) :
    (s.setValue target value).Consistent := by
  unfold Snapshot.setValue
  split
  · exact h
  · rename_i hset
    simp only [Bool.or_eq_true, not_or, Bool.not_eq_true', Bool.not_eq_false] at hset
    exact h.withValue hset.1 value

theorem setError (h : s.Consistent) (target message : String) :
    (s.setError target message).Consistent := by
  unfold Snapshot.setError
  split
  · rename_i hhas
    obtain ⟨f, hf⟩ := Option.isSome_iff_exists.1 hhas
    refine h.editField (fun id => ?_) (Dict.nodup_keys_insert h.errorKeys _ _) fun _ hf => hf
    rw [Dict.get?_insert]
    split
    · rename_i hid
      rw [← hid, hf]
      rfl
    · rfl
  · exact h

theorem clearError (h : s.Consistent) (target : String) : (s.clearError target).Consistent := by
  refine h.editField (fun id => ?_) (Dict.nodup_keys_erase h.errorKeys _) fun _ hf => hf
  rw [Dict.get?_erase]
  split
  · cases s.ui.fields.get? id <;> rfl
  · rfl

/-- Every action preserves consistency. -/
theorem apply (h : s.Consistent) (action : Action) : (s.apply action).Consistent := by
  cases action with
  | setVisible element target visible => exact h.setVisible target visible element
  | setEnabled element target enabled =>
    cases element with
    | some element => exact h.setEnabled target enabled element
    | none => exact (h.setEnabled target enabled .group).setEnabled target enabled .field
  | setValue target value => exact h.setValue target value
  | setChoices target choices =>
    exact h.editField_keeping_error (fun _ => rfl) fun _ _ => List.Pairwise.nil
  | setChoiceEnabled target value enabled =>
    refine h.editField_keeping_error (fun f => ?_) fun f hf => hf.setChoiceEnabled value enabled
    unfold FieldUi.setChoiceEnabled
    split
    · rfl
    · split <;> rfl
  | setError target message => exact h.setError target message
  | clearError target => exact h.clearError target
  | unknown => exact h

theorem withWarnings (h : s.Consistent) (warnings : List Warning) :
    Consistent { s with warnings := warnings } :=
  ⟨h.loaded, h.values, h.fields, h.groups, h.errors, h.errorKeys, h.disabled⟩

end Consistent

end Snapshot

/-! ## The first snapshot -/

namespace Form

theorem keys_startValues_perm {f : Form} (h : (f.schema.fields.map (·.id)).Nodup) :
    f.startValues.keys.Perm (f.schema.fields.map (·.id)) := by
  have hperm : f.startValues.keys.Perm
      (f.schema.fields.map (·.id) ++ Dict.keys ([] : Dict Value)) :=
    Dict.keys_foldl_insert_perm [] h (by simp [Dict.keys])
  rwa [show Dict.keys ([] : Dict Value) = [] from rfl, List.append_nil] at hperm

theorem map_fst_sectionUis_perm (s : Schema) :
    (s.sectionUis.map Prod.fst).Perm (s.groups.map (·.key)) := by
  have h := List.map_append_flatMap_perm s.sections (·.id) fun g => g.subsections.map (·.key)
  refine List.Perm.trans (.of_eq ?_) (h.symm.trans (.of_eq ?_))
  · simp [Schema.sectionUis, List.map_flatMap, Function.comp_def]
  · simp [Schema.groups, Schema.subsections, List.map_flatMap, Function.comp_def]

theorem consistent_blank {f : Form} (h : f.Loaded) : f.blank.Consistent := by
  have hids : (f.schema.fields.map fun d => (d.id, Schema.fieldUi d)).map Prod.fst =
      f.schema.fields.map (·.id) := by
    rw [List.map_map]
    rfl
  have hstart : ∀ id u, f.blank.ui.fields.get? id = some u →
      u.error = none ∧ u.disabledChoices = [] := by
    intro id u hu
    obtain ⟨d, -, hd⟩ := List.mem_map.1 (Dict.mem_of_get?_ofList hu)
    cases hd
    exact ⟨rfl, rfl⟩
  exact {
    loaded := h
    values := keys_startValues_perm h.named.fields
    fields := by
      have hperm := Dict.keys_ofList_perm (by rw [hids]; exact h.named.fields)
      rwa [hids] at hperm
    groups := by
      have hperm := map_fst_sectionUis_perm f.schema
      exact (Dict.keys_ofList_perm (hperm.nodup_iff.2 h.named.groups)).trans hperm
    errors := by
      intro id
      cases hu : f.blank.ui.fields.get? id with
      | none => rfl
      | some u => exact (hstart id u hu).1.symm
    errorKeys := List.nodup_nil
    disabled := by
      intro id u hu
      unfold FieldUi.DistinctDisabled
      rw [(hstart id u hu).2]
      exact List.Pairwise.nil }

end Form

/-! ## Steps -/

/-- Every step preserves consistency. -/
theorem Snapshot.invariant_consistent : Invariant Consistent where
  blank hf := Form.consistent_blank hf
  apply h action := h.apply action
  edited h _ hfield value := (h.withValue hfield value).withWarnings []
  withWarnings h warnings := h.withWarnings warnings

theorem Form.consistent_start {f : Form} (h : f.Loaded) : f.start.Consistent :=
  Snapshot.invariant_consistent.start (consistent_blank h)

namespace Snapshot

theorem Consistent.applyAll {s : Snapshot} (h : s.Consistent) (actions : List Action) :
    (s.applyAll actions).Consistent :=
  invariant_consistent.applyAll h actions

theorem Reachable.consistent {s : Snapshot} (h : s.Reachable) : s.Consistent :=
  invariant_consistent.reachable h

/-- What is in step in every snapshot that a form gets to: each declared field has one value and one
state, each section and each subsection has one state, and nothing else has any; the errors are
those of the fields' states; and no two disabled choices of a field are equal. -/
theorem keys_and_errors_of_reaches {schema : Schema} {globals params : Dict Value}
    {config : Config} {first s : Snapshot}
    (hbuild : build schema globals params config = .ok first) (hr : Reaches first s) :
    (schema.fields.map (·.id)).Nodup ∧
    s.values.keys.Perm (schema.fields.map (·.id)) ∧
    s.ui.fields.keys.Perm (schema.fields.map (·.id)) ∧
    (schema.sections.map (·.id) ++ schema.subsections.map fun g => Subsection.keyOf g.id).Nodup ∧
    s.ui.sections.keys.Perm
      (schema.sections.map (·.id) ++ schema.subsections.map fun g => Subsection.keyOf g.id) ∧
    s.errors.keys.Nodup ∧
    (∀ id ∈ s.errors.keys, id ∈ schema.fields.map (·.id)) ∧
    (∀ id ∈ schema.fields.map (·.id),
      ∃ f, s.ui.fields.get? id = some f ∧ s.errors.get? id = f.error) ∧
    ∀ e ∈ s.ui.fields, e.2.disabledChoices.Pairwise fun a b => a.same b = false := by
  obtain ⟨hnamed, rfl⟩ := build_ok hbuild
  have hloaded : (Form.ofSchema schema globals params config).Loaded := ⟨hnamed, rfl⟩
  have hs := invariant_consistent.reaches (Form.consistent_start hloaded) hr
  have hschema : s.form.schema = schema := by
    rw [(hr.loaded (by rwa [Form.form_start])).2, Form.form_start]
    rfl
  have hids : schema.groups.map (·.key) =
      schema.sections.map (·.id) ++ schema.subsections.map fun g => Subsection.keyOf g.id := by
    simp [Schema.groups, Function.comp_def, Subsection.key]
  have hvalues := hs.values
  have hfields := hs.fields
  have hgroups := hs.groups
  rw [hschema] at hvalues hfields hgroups
  rw [← hids]
  refine ⟨hnamed.fields, hvalues, hfields, hnamed.groups, hgroups, hs.errorKeys, ?_, ?_, ?_⟩
  · intro id hid
    obtain ⟨message, hmessage⟩ := Option.isSome_iff_exists.1 (Dict.has_iff.2 hid)
    rw [hs.errors, Option.bind_eq_some_iff] at hmessage
    obtain ⟨f, hf, -⟩ := hmessage
    exact hfields.mem_iff.1 (Dict.mem_keys_of_get? hf)
  · intro id hid
    obtain ⟨f, hf⟩ := Option.isSome_iff_exists.1 (Dict.has_iff.2 (hfields.mem_iff.2 hid))
    exact ⟨f, hf, by rw [hs.errors, hf]; rfl⟩
  · intro e he
    exact hs.disabled e.1 e.2 (Dict.get?_of_mem (hfields.nodup_iff.2 hnamed.fields) he)

/-- A form whose phone number is dropped when a mail address is given. -/
def contactForm : Schema where
  sections := [{
    id := "main"
    fields := [{ id := "mail", kind := .email }]
    subsections := [{ id := "more", fields := [{ id := "phone", kind := .phone }] }] }]
  rules := [{
    id := "drop_phone"
    condition := .var "mail" none
    actions := [.setValue "phone" (.string ""), .setError "phone" "dropped"] }]

theorem contactForm_keys_and_errors :
    ∃ s, (Form.ofSchema contactForm [] [] {}).start.update "mail" (.string "a@b") = .ok s ∧
      s.errors.get? "phone" = some "dropped" ∧
      (s.applyAll [.clearError "phone", .setError "fax" "lost"]).values.keys.Perm
        ["mail", "phone"] ∧
      (s.applyAll [.clearError "phone", .setError "fax" "lost"]).errors.keys.Nodup := by
  obtain ⟨s, hs⟩ := exists_ok_of_isSome (show ((Form.ofSchema contactForm [] [] {}).start.update
    "mail" (.string "a@b")).toOption.isSome = true by decide +kernel)
  have herror : (((Form.ofSchema contactForm [] [] {}).start.update "mail"
      (.string "a@b")).toOption.bind fun s => s.errors.get? "phone") = some "dropped" := by
    decide +kernel
  rw [hs] at herror
  have hrun : Reaches (Form.ofSchema contactForm [] [] {}).start
      (s.applyAll [.clearError "phone", .setError "fax" "lost"]) :=
    (Relation.ReflTransGen.single (.update _ _ hs)).tail (.applyAll _)
  have h := keys_and_errors_of_reaches (build_eq_start (by decide +kernel)) hrun
  exact ⟨s, hs, herror, h.2.1, h.2.2.2.2.2.1⟩

end Snapshot

end FormEngine
