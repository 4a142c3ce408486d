import FormEngine.Proofs.Update.FirstPass
import FormEngine.Proofs.Update.Selective

/-!
# What a cascade depends on

A cascade depends only on the values that its cone reads: those under which a rule of the cone is
indexed, those that the cone sets, and what is no field. On states that agree on these a pass of the
cone does the same (`pass_congr`) and leaves states that agree on these, so the cascade has the same
effect (`cascade_congr`).
-/

namespace FormEngine

namespace RuleGraph

/-- The value under the key can matter to the cone of the field. -/
def ConeReads (g : RuleGraph) (field key : String) : Prop :=
  g.hasField key = false ∨ (∃ id ∈ g.rulesFor key, g.Cone field id) ∨ g.ConeSets field key

/-- Equal values wherever they can matter to the cone of the field. -/
def AgreeOnCone (g : RuleGraph) (field : String) (d e : Dict Value) : Prop :=
  ∀ key, g.ConeReads field key → d.get? key = e.get? key

end RuleGraph

open RuleGraph

/-! ## Runs and passes -/

variable {field : String}

/-- Rules of a cone do the same on values that agree where the cone reads. -/
theorem Form.runRules_congr_cone {f : Form} (hf : f.Loaded) (hnames : f.graph.ReadsByName)
    (params : Dict Value) {d e : Dict Value} (hagree : f.graph.AgreeOnCone field d e)
    {nodes : List RuleNode}
    (hnodes : ∀ node ∈ nodes, f.graph.rule? node.rule.id = some node ∧
      f.graph.Cone field node.rule.id) :
    RuleRun.actionsOf (f.runRules params d nodes) =
        RuleRun.actionsOf (f.runRules params e nodes) ∧
      RuleRun.warningsOf (f.runRules params d nodes) =
        RuleRun.warningsOf (f.runRules params e nodes) := by
  induction nodes generalizing d e with
  | nil => exact ⟨rfl, rfl⟩
  | cons node rest ih =>
    obtain ⟨hnode, hcone⟩ := hnodes node List.mem_cons_self
    have houtcome : node.rule.condition.evaluate (Snapshot.scopeOver f d params) =
        node.rule.condition.evaluate (Snapshot.scopeOver f e params) := by
      refine Form.evaluate_congr_indexed hf hnames hnode fun key hindexed => hagree key ?_
      cases hfield : f.graph.hasField key with
      | false => exact .inl hfield
      | true => exact .inr (.inl ⟨_, hindexed hfield, hcone⟩)
    have hrun : (f.runRule params d node).actions = (f.runRule params e node).actions := by
      simp only [runRule, houtcome]
    have hrest := ih (d := (f.runRule params d node).actions.foldl f.overlay d)
      (e := (f.runRule params d node).actions.foldl f.overlay e)
      (fun key hkey => Form.get?_overlay_congr (.inl (hagree key hkey)))
      fun other hother => hnodes other (List.mem_cons_of_mem _ hother)
    have hwarnings : (f.runRule params d node).warnings = (f.runRule params e node).warnings := by
      simp only [runRule, houtcome]
    rw [runRules, runRules, RuleRun.actionsOf_cons, RuleRun.actionsOf_cons,
      RuleRun.warningsOf_cons, RuleRun.warningsOf_cons, ← hrun, hwarnings, hrest.1, hrest.2]
    exact ⟨rfl, rfl⟩

namespace Snapshot

variable {s t : Snapshot} {ids changed : List String}

theorem changedBy_congr (hform : t.form = s.form) {actions : List Action}
    (hagree : s.form.graph.AgreeOnCone field s.values t.values)
    (hactions : ∀ action ∈ actions, s.form.graph.ConeActs field action) :
    t.changedBy actions = s.changedBy actions := by
  unfold changedBy
  rw [hform]
  refine congrArg distinct (List.filterMap_congr fun action haction => ?_)
  cases action with
  | setValue target value =>
    simp only [hagree target (.inr (.inr ⟨value, hactions _ haction⟩))]
  | _ => rfl

theorem agreeOnCone_applyAll (hform : t.form = s.form)
    (hagree : s.form.graph.AgreeOnCone field s.values t.values) (actions : List Action) :
    s.form.graph.AgreeOnCone field (s.applyAll actions).values (t.applyAll actions).values :=
  fun key hkey => get?_applyAll_congr hform.symm (hagree key hkey) actions

/-- A pass over rules of a cone does the same on states that agree where the cone reads. -/
theorem pass_congr (hs : s.form.Loaded) (hnames : s.form.graph.ReadsByName)
    (hform : t.form = s.form) (hagree : s.form.graph.AgreeOnCone field s.values t.values)
    (hcone : ∀ id ∈ ids, s.form.graph.Cone field id) :
    RuleRun.actionsOf (t.pass ids).runs = RuleRun.actionsOf (s.pass ids).runs ∧
      RuleRun.warningsOf (t.pass ids).runs = RuleRun.warningsOf (s.pass ids).runs ∧
      (t.pass ids).changed = (s.pass ids).changed := by
  have hnodes : ∀ node ∈ s.nodesOf ids, s.form.graph.rule? node.rule.id = some node ∧
      s.form.graph.Cone field node.rule.id := fun node hnode =>
    have hrule := rule?_of_mem_nodesOf hs hnode
    ⟨hrule.2, hcone _ hrule.1⟩
  obtain ⟨hactions, hwarnings⟩ :=
    Form.runRules_congr_cone hs hnames s.form.params hagree hnodes
  have hevaluate : t.evaluate ids = s.form.runRules s.form.params t.values (s.nodesOf ids) := by
    rw [evaluate_eq_runRules, nodesOf, hform]
    rfl
  rw [← evaluate_eq_runRules, ← hevaluate] at hactions hwarnings
  refine ⟨hactions.symm, hwarnings.symm, ?_⟩
  show t.changedBy (RuleRun.actionsOf (t.evaluate ids)) = _
  rw [← hactions]
  refine changedBy_congr hform hagree fun action haction => ?_
  obtain ⟨run, hrun, haction⟩ := List.mem_flatMap.1 haction
  exact (coneActs_of_mem_evaluate hs hcone hrun).2 action haction

end Snapshot

/-! ## Cascades -/

/-- The same actions and warnings, and the same end. -/
structure Cascade.SameEffect (c d : Cascade) : Prop where
  actions : RuleRun.actionsOf c.runs = RuleRun.actionsOf d.runs
  warnings : c.warnings = d.warnings
  limited : c.limited = d.limited

theorem Cascade.SameEffect.after {c d : Cascade} (h : c.SameEffect d) {p q : Pass}
    (hactions : RuleRun.actionsOf p.runs = RuleRun.actionsOf q.runs)
    (hwarnings : RuleRun.warningsOf p.runs = RuleRun.warningsOf q.runs) :
    (c.after p).SameEffect (d.after q) := by
  refine ⟨?_, ?_, h.limited⟩
  · rw [runs_after, runs_after, RuleRun.actionsOf_append, RuleRun.actionsOf_append, hactions,
      h.actions]
  · rw [warnings_after, warnings_after, hwarnings, h.warnings]

namespace Snapshot

variable {s t : Snapshot} {ids changed : List String}

/-- A cascade does the same on states that agree where its cone reads. -/
theorem cascade_congr {limit : Nat} (hs : s.form.Loaded) (hnames : s.form.graph.ReadsByName)
    (hform : t.form = s.form) (hagree : s.form.graph.AgreeOnCone field s.values t.values)
    (h : ∀ key ∈ changed, ∀ id ∈ s.form.graph.rulesFor key, s.form.graph.Cone field id) :
    (cascade limit t changed).SameEffect (cascade limit s changed) := by
  induction limit generalizing s t changed with
  | zero => cases changed <;> exact ⟨rfl, rfl, rfl⟩
  | succ limit ih =>
    cases changed with
    | nil => exact ⟨rfl, rfl, rfl⟩
    | cons first others =>
      have hsame : t.triggered (first :: others) = s.triggered (first :: others) := by
        unfold triggered
        rw [hform]
      have hcone := cone_of_mem_triggered h
      unfold cascade
      rw [hsame]
      generalize s.triggered (first :: others) = ids at hcone
      by_cases hids : ids.isEmpty = true
      · simp only [hids, if_true]
        exact ⟨rfl, rfl, rfl⟩
      · simp only [hids]
        obtain ⟨hactions, hwarnings, hchanged⟩ := pass_congr hs hnames hform hagree hcone
        -- the next pass begins on states that agree where the cone reads
        have hform' := form_afterPass s (s.pass ids)
        have hagree' : s.form.graph.AgreeOnCone field (s.afterPass (s.pass ids)).values
            (t.afterPass (t.pass ids)).values := by
          rw [afterPass, afterPass, hactions]
          exact agreeOnCone_applyAll hform hagree _
        have hnext := cone_of_mem_changed hs hcone
        rw [← hform'] at hs hnames hagree' hnext
        have hrest := ih hs hnames (by rw [form_afterPass, form_afterPass, hform]) hagree' hnext
        rw [hchanged]
        exact hrest.after hactions hwarnings

end Snapshot

end FormEngine
