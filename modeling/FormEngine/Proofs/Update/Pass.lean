import FormEngine.Proofs.Json.Equality
import FormEngine.Proofs.Snapshot.Frame
import FormEngine.Proofs.Snapshot.Reachable

/-!
# One pass

Inside a pass the values that rules set are laid over the values of the state, and after the pass
the actions are applied. Both give the same values up to equality of documents (`same_applyAll`),
and a field outside `changedBy` keeps its value throughout (`same_overlay_of_notMem_changedBy`).
What a rule sees is what the rules before it have laid over (`exists_of_mem_runRules`). Warnings of
passes come from conditions of rules of the graph (`exists_of_mem_warnings_cascade`).
-/

namespace FormEngine

open Value (sameOption sameOption_refl sameOption_comm sameOption_trans sameOption_some_right)

/-- Equal documents under every key. -/
def SameValues (d e : Dict Value) : Prop :=
  ∀ key, sameOption (d.get? key) (e.get? key) = true

theorem SameValues.refl (d : Dict Value) : SameValues d d := fun _ => sameOption_refl _

/-! ## Values laid over -/

namespace Form

variable {f : Form}

theorem overlay_setValue (values : Dict Value) (target : String) (value : Value) :
    f.overlay values (.setValue target value) =
      if f.graph.hasField target = true then values.insert target value else values := rfl

theorem same_overlay {actions : List Action} {values : Dict Value} {key : String}
    {old : Option Value} (hold : sameOption old (values.get? key) = true)
    (h : ∀ value, Action.setValue key value ∈ actions → f.graph.hasField key = true →
      sameOption old (some value) = true) :
    sameOption old ((actions.foldl f.overlay values).get? key) = true := by
  induction actions generalizing values with
  | nil => exact hold
  | cons action rest ih =>
    refine ih ?_ fun value hmem => h value (List.mem_cons_of_mem _ hmem)
    cases action with
    | setValue target value =>
      rw [overlay_setValue]
      split
      · rename_i hfield
        rw [Dict.get?_insert]
        split
        · rename_i htarget
          subst htarget
          exact h value List.mem_cons_self hfield
        · exact hold
      · exact hold
    | _ => exact hold

theorem get?_overlay_of_not_set {actions : List Action} {values : Dict Value} {key : String}
    (h : f.graph.hasField key = true → ∀ value, Action.setValue key value ∉ actions) :
    (actions.foldl f.overlay values).get? key = values.get? key := by
  induction actions generalizing values with
  | nil => rfl
  | cons action rest ih =>
    refine (ih fun hfield value hmem => h hfield value (List.mem_cons_of_mem _ hmem)).trans ?_
    cases action with
    | setValue target value =>
      rw [overlay_setValue]
      split
      · rename_i hfield
        rw [Dict.get?_insert, if_neg]
        rintro rfl
        exact h hfield value List.mem_cons_self
      · rfl
    | _ => rfl

end Form

namespace Snapshot

theorem same_setValue {s : Snapshot} {d : Dict Value} (h : SameValues s.values d)
    (target : String) (value : Value) :
    SameValues (s.setValue target value).values
      (s.form.overlay d (.setValue target value)) := by
  intro key
  rw [Form.overlay_setValue]
  unfold setValue
  by_cases hfield : s.form.graph.hasField target = true
  · rw [if_pos hfield, Dict.get?_insert]
    split
    · rename_i hskip
      split
      · -- the value that is there is kept; it is equal to the one laid over
        rename_i hkey
        subst hkey
        rw [sameOption_some_right]
        simpa [hfield] using hskip
      · exact h key
    · show sameOption ((s.values.insert target value).get? key) _ = true
      rw [Dict.get?_insert]
      split
      · exact sameOption_refl _
      · exact h key
  · rw [if_neg hfield]
    simpa [hfield] using h key

theorem same_apply {s : Snapshot} {d : Dict Value} (h : SameValues s.values d)
    (action : Action) : SameValues (s.apply action).values (s.form.overlay d action) := by
  rw [values_apply]
  cases action with
  | setValue target value => exact same_setValue h target value
  | _ => exact h

/-- Applied and laid over, actions lead to equal values. -/
theorem same_applyAll {s : Snapshot} {d : Dict Value} (h : SameValues s.values d)
    (actions : List Action) :
    SameValues (s.applyAll actions).values (actions.foldl s.form.overlay d) := by
  induction actions generalizing s d with
  | nil => exact h
  | cons action rest ih =>
    have := ih (same_apply h action)
    rwa [(apply_form s action).1] at this

theorem mem_changedBy {s : Snapshot} {actions : List Action} {key : String} :
    key ∈ s.changedBy actions ↔ ∃ value, Action.setValue key value ∈ actions ∧
      s.form.graph.hasField key = true ∧
      sameOption (s.values.get? key) (some value) = false := by
  unfold changedBy
  simp only [mem_distinct, List.mem_filterMap, sameOption_some_right]
  constructor
  · rintro ⟨action, hmem, h⟩
    cases action with
    | setValue target value =>
      simp only [Bool.and_eq_true, Bool.not_eq_true', Option.ite_none_right_eq_some,
        Option.some.injEq] at h
      obtain ⟨⟨hfield, hnew⟩, rfl⟩ := h
      exact ⟨value, hmem, hfield, hnew⟩
    | _ => simp at h
  · rintro ⟨value, hmem, hfield, hnew⟩
    exact ⟨.setValue key value, hmem, by simp [hfield, hnew]⟩

theorem same_overlay_of_notMem_changedBy {s : Snapshot} {actions part : List Action}
    {key : String} (h : key ∉ s.changedBy actions) (hsub : part ⊆ actions) :
    sameOption (s.values.get? key) ((part.foldl s.form.overlay s.values).get? key) = true := by
  refine Form.same_overlay (sameOption_refl _) fun value hmem hfield => ?_
  by_contra hnew
  exact h (mem_changedBy.2 ⟨value, hsub hmem, hfield, by simpa using hnew⟩)

end Snapshot

/-! ## Runs -/

namespace Form

variable {f : Form} {params : Dict Value}

theorem runRules_append (values : Dict Value) (as bs : List RuleNode) :
    f.runRules params values (as ++ bs) =
      f.runRules params values as ++
        f.runRules params
          ((RuleRun.actionsOf (f.runRules params values as)).foldl f.overlay values) bs := by
  induction as generalizing values with
  | nil => rfl
  | cons node rest ih =>
    rw [List.cons_append, runRules, runRules, ih, List.cons_append, RuleRun.actionsOf_cons,
      List.foldl_append]

theorem exists_of_mem_runRules {values : Dict Value} {nodes : List RuleNode} {run : RuleRun}
    (h : run ∈ f.runRules params values nodes) :
    ∃ before node after, nodes = before ++ node :: after ∧
      run = f.runRule params
        ((RuleRun.actionsOf (f.runRules params values before)).foldl f.overlay values) node := by
  induction nodes generalizing values with
  | nil => cases h
  | cons first rest ih =>
    rw [runRules] at h
    rcases List.mem_cons.1 h with rfl | h
    · exact ⟨[], first, rest, rfl, rfl⟩
    · obtain ⟨before, node, after, rfl, rfl⟩ := ih h
      refine ⟨first :: before, node, after, rfl, ?_⟩
      rw [runRules, RuleRun.actionsOf_cons, List.foldl_append]

theorem map_rule_runRules (values : Dict Value) (nodes : List RuleNode) :
    (f.runRules params values nodes).map (·.rule) = nodes.map (·.rule.id) := by
  induction nodes generalizing values with
  | nil => rfl
  | cons node rest ih =>
    rw [runRules, List.map_cons, List.map_cons, ih]
    rfl

end Form

namespace Snapshot

variable {s : Snapshot} {ids : List String}

theorem mem_triggered {s : Snapshot} {changed : List String} {id : String} :
    id ∈ s.triggered changed ↔ ∃ field ∈ changed, id ∈ s.form.graph.rulesFor field := by
  simp [triggered]

theorem rule?_id (hs : s.form.Loaded) {id : String} {node : RuleNode}
    (h : s.form.graph.rule? id = some node) : node.rule.id = id := by
  rw [hs.graph] at h
  exact (RuleGraph.reads_of_rule? hs.named h).1

theorem map_rule_evaluate (hs : s.form.Loaded) (ids : List String) :
    (s.evaluate ids).map (·.rule) = s.form.graph.sortRules ids := by
  unfold evaluate evaluateWith
  rw [Form.map_rule_runRules]
  have hall : ∀ id ∈ s.form.graph.sortRules ids,
      (s.form.graph.rule? id).map (·.rule.id) = some id := by
    intro id hid
    obtain ⟨node, hnode⟩ := Option.isSome_iff_exists.1 (RuleGraph.mem_sortRules.1 hid).2
    rw [hnode, Option.map_some, rule?_id hs hnode]
  rw [List.map_filterMap, List.filterMap_congr hall, List.filterMap_some]

theorem exists_run_iff (hs : s.form.Loaded) {id : String} :
    (∃ run ∈ s.evaluate ids, run.rule = id) ↔
      id ∈ ids ∧ (s.form.graph.rule? id).isSome = true := by
  rw [← RuleGraph.mem_sortRules, ← map_rule_evaluate hs ids, List.mem_map]

/-- What a run of a pass has seen is what some actions of the pass have laid over. -/
theorem seen_of_mem_evaluate {run : RuleRun} (h : run ∈ s.evaluate ids) :
    ∃ actions, actions ⊆ RuleRun.actionsOf (s.evaluate ids) ∧
      run.seen = actions.foldl s.form.overlay s.values := by
  obtain ⟨before, node, after, hnodes, rfl⟩ := Form.exists_of_mem_runRules h
  refine ⟨RuleRun.actionsOf (s.form.runRules s.form.params s.values before), ?_, rfl⟩
  unfold evaluate evaluateWith
  rw [hnodes, Form.runRules_append, RuleRun.actionsOf_append]
  exact List.subset_append_left _ _

/-- A field that a pass does not change looks the same to all its rules and afterwards. -/
theorem same_of_notMem_changed {key : String} (h : key ∉ (s.pass ids).changed) :
    (∀ run ∈ (s.pass ids).runs,
      sameOption (s.values.get? key) (run.seen.get? key) = true) ∧
    sameOption (s.values.get? key) ((s.afterPass (s.pass ids)).values.get? key) = true := by
  constructor
  · intro run hrun
    obtain ⟨actions, hsub, hseen⟩ := seen_of_mem_evaluate hrun
    rw [hseen]
    exact same_overlay_of_notMem_changedBy h hsub
  · have hsame := same_applyAll (SameValues.refl s.values)
      (RuleRun.actionsOf (s.pass ids).runs) key
    rw [sameOption_comm] at hsame
    exact sameOption_trans (same_overlay_of_notMem_changedBy h (List.Subset.refl _)) hsame

/-! ## Warnings -/

theorem exists_of_mem_warnings_evaluateWith {params : Dict Value} {w : Warning}
    (h : w ∈ RuleRun.warningsOf (s.evaluateWith params ids)) :
    ∃ id node scope, s.form.graph.rule? id = some node ∧
      w ∈ (node.rule.condition.evaluate scope).warnings := by
  obtain ⟨run, hrun, hw⟩ := List.mem_flatMap.1 h
  obtain ⟨before, node, after, hnodes, rfl⟩ := Form.exists_of_mem_runRules hrun
  have hmem : node ∈ (s.form.graph.sortRules ids).filterMap s.form.graph.rule? := by
    rw [hnodes]
    exact List.mem_append_right _ List.mem_cons_self
  obtain ⟨id, -, hnode⟩ := List.mem_filterMap.1 hmem
  exact ⟨id, node, _, hnode, hw⟩

/-- A warning of a cascade comes from the condition of a rule. -/
theorem exists_of_mem_warnings_cascade {limit : Nat} {s : Snapshot} {changed : List String}
    {w : Warning} (h : w ∈ (cascade limit s changed).warnings) :
    ∃ id node scope, s.form.graph.rule? id = some node ∧
      w ∈ (node.rule.condition.evaluate scope).warnings := by
  fun_induction cascade limit s changed with
  | case1 limit s => cases h
  | case2 s field others => cases h
  | case3 limit s field others ids hids => cases h
  | case4 limit s field others ids hids p ih =>
    rw [Cascade.warnings_after] at h
    rcases List.mem_append.1 h with h | h
    · exact exists_of_mem_warnings_evaluateWith h
    · have hform : (s.afterPass p).form = s.form := (applyAll_form _ _).1
      rw [← hform]
      exact ih h

end Snapshot

end FormEngine
