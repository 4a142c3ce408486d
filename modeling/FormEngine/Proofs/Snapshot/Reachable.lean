import FormEngine.Choices.Request
import FormEngine.Proofs.RuleGraph.Index
import FormEngine.Proofs.Update.Cascade
import FormEngine.Validation.Report
import Mathlib.Logic.Relation

/-!
# Reachable snapshots

A snapshot is reachable when steps lead to it from the first snapshot of a form. Besides updates and
resets every step applies a list of actions (`Step.cases`). The form of a reachable snapshot has a
well-named schema and the graph of that schema.

An update applies actions too, after its edit, and so does the start. So a property that holds of
every first state and survives single actions, edits and changes of the warnings (`Invariant`) holds
of every reachable snapshot (`Invariant.reachable`).
-/

namespace FormEngine

theorem Config.validate_eq_ok_iff {c : Config} : c.validate = .ok () ↔ 1 ≤ c.maxPasses := by
  unfold validate
  split <;> simp <;> omega

namespace Form

/-- The form of a schema; globals of the caller override those of the schema. -/
def ofSchema (schema : Schema) (globals params : Dict Value) (config : Config) : Form :=
  ⟨schema, RuleGraph.ofSchema schema, Dict.insertAll schema.globals globals, params, config⟩

theorem load_eq_ok_iff {schema : Schema} {globals params : Dict Value} {config : Config}
    {f : Form} :
    load schema globals params config = .ok f ↔
      1 ≤ config.maxPasses ∧ ∃ g, RuleGraph.build schema config = .ok g ∧
        f = ⟨schema, g, Dict.insertAll schema.globals globals, params, config⟩ := by
  unfold load
  rw [andThen_eq_ok_iff, mapError_eq_ok_iff, Config.validate_eq_ok_iff, bind_eq_ok_iff]
  refine and_congr_right fun _ => exists_congr fun g => ?_
  rw [mapError_eq_ok_iff]
  exact and_congr_right fun _ => ⟨fun h => (Except.ok.inj h).symm, fun h => congrArg _ h.symm⟩

theorem build_of_load {schema : Schema} {globals params : Dict Value} {config : Config} {f : Form}
    (h : load schema globals params config = .ok f) :
    RuleGraph.build schema config = .ok f.graph ∧
      f = ⟨schema, f.graph, Dict.insertAll schema.globals globals, params, config⟩ := by
  obtain ⟨-, g, hg, rfl⟩ := load_eq_ok_iff.1 h
  exact ⟨hg, rfl⟩

theorem load_ok {schema : Schema} {globals params : Dict Value} {config : Config} {f : Form}
    (h : load schema globals params config = .ok f) :
    schema.WellNamed ∧ f = ofSchema schema globals params config := by
  obtain ⟨hbuild, hf⟩ := build_of_load h
  obtain ⟨hnamed, hgraph⟩ := RuleGraph.build_ok hbuild
  rw [hgraph] at hf
  exact ⟨hnamed, hf⟩

/-- Forms whose schema is well-named and whose graph is the graph of the schema. -/
structure Loaded (f : Form) : Prop where
  named : f.schema.WellNamed
  graph : f.graph = RuleGraph.ofSchema f.schema

/-- The start applies the actions of the first evaluation, or none if its warnings undo it. -/
theorem exists_start_eq_applyAll (f : Form) :
    ∃ actions, f.start = { f.blank.applyAll actions with warnings := f.start.warnings } := by
  unfold start
  by_cases hd : f.discards (RuleRun.warningsOf f.startRuns) = true
  · simp only [hd, if_true]
    exact ⟨[], rfl⟩
  · simp only [hd]
    exact ⟨RuleRun.actionsOf f.startRuns, rfl⟩

@[simp] theorem form_start (f : Form) : f.start.form = f := by
  obtain ⟨actions, hstart⟩ := f.exists_start_eq_applyAll
  rw [hstart]
  exact (Snapshot.applyAll_form _ _).1

theorem Loaded.hasField_iff {f : Form} (h : f.Loaded) {id : String} :
    f.graph.hasField id = true ↔ id ∈ f.schema.fields.map (·.id) := by
  rw [h.graph]
  exact RuleGraph.hasField_ofSchema

end Form

namespace Snapshot

theorem build_eq_ok_iff {schema : Schema} {globals params : Dict Value} {config : Config}
    {s : Snapshot} :
    build schema globals params config = .ok s ↔
      ∃ f, Form.load schema globals params config = .ok f ∧ s = f.start := by
  unfold build
  cases Form.load schema globals params config <;> simp [Except.map, eq_comm]

theorem build_ok {schema : Schema} {globals params : Dict Value} {config : Config} {s : Snapshot}
    (h : build schema globals params config = .ok s) :
    schema.WellNamed ∧ s = (Form.ofSchema schema globals params config).start := by
  obtain ⟨f, hload, rfl⟩ := build_eq_ok_iff.1 h
  obtain ⟨hnamed, rfl⟩ := Form.load_ok hload
  exact ⟨hnamed, rfl⟩

theorem build_eq_start {schema : Schema} {globals params : Dict Value} {config : Config}
    (h : (build schema globals params config).toOption.isSome = true) :
    build schema globals params config =
      .ok (Form.ofSchema schema globals params config).start := by
  obtain ⟨s, hs⟩ := exists_ok_of_isSome h
  rw [hs, (build_ok hs).2]

/-! ## Steps -/

/-- One step of a form, by whoever fills it in or by its host. -/
inductive Step : Snapshot → Snapshot → Prop where
  | update {s t : Snapshot} (field : String) (value : Value) (h : s.update field value = .ok t) :
      Step s t
  | applyAll {s : Snapshot} (actions : List Action) : Step s (s.applyAll actions)
  | setChoices {s : Snapshot} (field : String) (choices : List Choice) :
      Step s (s.setChoices field choices)
  | withReport {s : Snapshot} (report : Report) : Step s (s.withReport report)
  | load {σ : Type} {s t : Snapshot} (loader : ChoiceLoader σ) (requests : List ChoiceRequest)
      (host : σ) (h : (s.load loader requests host).1 = .ok t) : Step s t
  | reset {s t : Snapshot} (h : s.reset = .ok t) : Step s t

/-- Finitely many steps. -/
abbrev Reaches : Snapshot → Snapshot → Prop := Relation.ReflTransGen Step

/-- Snapshots that a form can get to. -/
def Reachable (s : Snapshot) : Prop :=
  ∃ (schema : Schema) (globals params : Dict Value) (config : Config) (first : Snapshot),
    build schema globals params config = .ok first ∧ Reaches first s

theorem load_eq_applyAll {σ : Type} {loader : ChoiceLoader σ} {s t : Snapshot}
    {requests : List ChoiceRequest} {host : σ} (h : (s.load loader requests host).1 = .ok t) :
    ∃ actions, t = s.applyAll actions := by
  induction requests generalizing s host with
  | nil =>
    cases h
    exact ⟨[], rfl⟩
  | cons r rest ih =>
    unfold load at h
    split at h
    · cases h
    · rename_i choices host' _
      obtain ⟨actions, rfl⟩ := ih h
      exact ⟨.setChoices r.field choices :: actions, rfl⟩

/-- A step applies actions, updates a field, or resets the form. -/
theorem Step.cases {s t : Snapshot} (h : Step s t) :
    (∃ actions, t = s.applyAll actions) ∨
      (∃ field value, s.update field value = .ok t) ∨ s.reset = .ok t := by
  cases h with
  | update field value h => exact .inr (.inl ⟨field, value, h⟩)
  | applyAll actions => exact .inl ⟨actions, rfl⟩
  | setChoices field choices => exact .inl ⟨[.setChoices field choices], rfl⟩
  | withReport report => exact .inl ⟨s.reportActions report, rfl⟩
  | load loader requests host h => exact .inl (load_eq_applyAll h)
  | reset h => exact .inr (.inr h)

theorem Step.loaded {s t : Snapshot} (h : Step s t) (hs : s.form.Loaded) :
    t.form.Loaded ∧ t.form.schema = s.form.schema := by
  rcases h.cases with ⟨actions, rfl⟩ | ⟨field, value, h⟩ | h
  · rw [(applyAll_form s actions).1]
    exact ⟨hs, rfl⟩
  · rw [form_update h]
    exact ⟨hs, rfl⟩
  · obtain ⟨hnamed, rfl⟩ := build_ok h
    rw [Form.form_start]
    exact ⟨⟨hnamed, rfl⟩, rfl⟩

theorem Reaches.loaded {s t : Snapshot} (h : Reaches s t) (hs : s.form.Loaded) :
    t.form.Loaded ∧ t.form.schema = s.form.schema := by
  induction h with
  | refl => exact ⟨hs, rfl⟩
  | tail _ hstep ih =>
    obtain ⟨hl, hschema⟩ := hstep.loaded ih.1
    exact ⟨hl, hschema.trans ih.2⟩

theorem Reachable.loaded {s : Snapshot} (h : s.Reachable) : s.form.Loaded := by
  obtain ⟨schema, globals, params, config, first, hbuild, hreach⟩ := h
  obtain ⟨hnamed, rfl⟩ := build_ok hbuild
  exact (Reaches.loaded hreach (by rw [Form.form_start]; exact ⟨hnamed, rfl⟩)).1

/-! ## Invariants -/

/-- A property of the first states of loaded forms that nothing in a step breaks: no action, no edit
of a declared field, no change of the warnings. -/
structure Invariant (P : Snapshot → Prop) : Prop where
  blank : ∀ {f : Form}, f.Loaded → P f.blank
  apply : ∀ {s : Snapshot}, P s → ∀ action, P (s.apply action)
  edited : ∀ {s : Snapshot}, P s → ∀ field, s.form.graph.hasField field = true →
    ∀ value, P (s.edited field value)
  withWarnings : ∀ {s : Snapshot}, P s → ∀ warnings, P { s with warnings := warnings }

namespace Invariant

variable {P : Snapshot → Prop} {s t : Snapshot}

theorem applyAll (hP : Invariant P) (h : P s) (actions : List Action) : P (s.applyAll actions) := by
  induction actions generalizing s with
  | nil => exact h
  | cons action rest ih => exact ih (hP.apply h action)

theorem update (hP : Invariant P) (h : P s) {field : String} {value : Value}
    (ht : s.update field value = .ok t) : P t := by
  rw [update_eq_applyAll ht]
  exact hP.withWarnings (hP.applyAll (hP.edited h field (update_eq_ok_iff.1 ht).1 value) _) _

theorem start (hP : Invariant P) {f : Form} (h : P f.blank) : P f.start := by
  obtain ⟨actions, hstart⟩ := f.exists_start_eq_applyAll
  rw [hstart]
  exact hP.withWarnings (hP.applyAll h actions) _

theorem step (hP : Invariant P) (h : P s) (hstep : Step s t) : P t := by
  rcases hstep.cases with ⟨actions, rfl⟩ | ⟨field, value, ht⟩ | ht
  · exact hP.applyAll h actions
  · exact hP.update h ht
  · obtain ⟨hnamed, rfl⟩ := build_ok ht
    exact hP.start (hP.blank ⟨hnamed, rfl⟩)

theorem reaches (hP : Invariant P) (h : P s) (hr : Reaches s t) : P t := by
  induction hr with
  | refl => exact h
  | tail _ hstep ih => exact hP.step ih hstep

theorem reachable (hP : Invariant P) (h : s.Reachable) : P s := by
  obtain ⟨schema, globals, params, config, first, hbuild, hreach⟩ := h
  obtain ⟨hnamed, rfl⟩ := build_ok hbuild
  exact hP.reaches (hP.start (hP.blank ⟨hnamed, rfl⟩)) hreach

end Invariant

end Snapshot

end FormEngine
