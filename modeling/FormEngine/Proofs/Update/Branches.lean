import FormEngine.Proofs.Expr.Dependence
import FormEngine.Proofs.RuleGraph.Reads
import FormEngine.Proofs.Update.Trace

/-!
# The branches that rules take

Without cycles a pass puts every writer before its readers, so the actions of a rule belong to the
branch that its condition takes on the values the pass leaves (`Orderly.supports_pass`), and on the
values of every later state that has the same ones where the rule is indexed
(`Orderly.supports_of_same`).
-/

namespace FormEngine

open Value (sameOption sameOption_refl sameOption_comm sameOption_trans eq_of_sameOption)

/-! ## Values without negative zeros -/

/-- Whether the action sets no negative zero. -/
def Action.noNegativeZero : Action → Bool
  | .setValue _ value => value.noNegativeZero
  | _ => true

/-- No value of a dictionary holds a negative zero. -/
def NoNegativeZeros (d : Dict Value) : Prop := ∀ e ∈ d, e.2.noNegativeZero = true

namespace RuleGraph

/-- Unmarked paths of conditions enter the values of fields by a name. -/
def ReadsByName (g : RuleGraph) : Prop :=
  ∀ id node, g.rule? id = some node → ∀ path ∈ node.reads,
    Address.isContext path = false → Path.leadsWithIndex path = false

/-- No rule sets a value that holds a negative zero. -/
def SetsNoNegativeZero (g : RuleGraph) : Prop :=
  ∀ id node, g.rule? id = some node → ∀ action ∈ node.rule.allActions,
    action.noNegativeZero = true

theorem readsByName_ofSchema {s : Schema} (hs : s.WellNamed)
    (h : ∀ r ∈ s.allRules, ∀ path ∈ r.condition.variablePaths,
      Address.isContext path = false → Path.leadsWithIndex path = false) :
    (ofSchema s).ReadsByName := by
  intro id node hnode
  obtain ⟨r, hr, -, rfl⟩ := (rule?_ofSchema hs).1 hnode
  exact h r hr

theorem setsNoNegativeZero_ofSchema {s : Schema} (hs : s.WellNamed)
    (h : ∀ r ∈ s.allRules, ∀ action ∈ r.allActions, action.noNegativeZero = true) :
    (ofSchema s).SetsNoNegativeZero := by
  intro id node hnode
  obtain ⟨r, hr, -, rfl⟩ := (rule?_ofSchema hs).1 hnode
  exact h r hr

end RuleGraph

namespace Form

/-- Values of declared fields only, none of them with a negative zero. -/
structure PlainValues (f : Form) (d : Dict Value) : Prop where
  declared : ∀ key, f.graph.hasField key = false → d.get? key = none
  zeros : ∀ key value, d.get? key = some value → value.noNegativeZero = true

variable {f : Form} {d : Dict Value}

theorem PlainValues.insert (h : f.PlainValues d) {target : String} {value : Value}
    (htarget : f.graph.hasField target = true) (hvalue : value.noNegativeZero = true) :
    f.PlainValues (d.insert target value) := by
  constructor
  · intro key hkey
    rw [Dict.get?_insert, if_neg]
    · exact h.declared key hkey
    · rintro rfl
      rw [htarget] at hkey
      cases hkey
  · intro key v hv
    rw [Dict.get?_insert] at hv
    split at hv
    · cases hv
      exact hvalue
    · exact h.zeros key v hv

theorem PlainValues.overlay (h : f.PlainValues d) {actions : List Action}
    (hactions : ∀ action ∈ actions, action.noNegativeZero = true) :
    f.PlainValues (actions.foldl f.overlay d) := by
  induction actions generalizing d with
  | nil => exact h
  | cons action rest ih =>
    refine ih ?_ fun other hother => hactions other (List.mem_cons_of_mem _ hother)
    cases action with
    | setValue target value =>
      rw [overlay_setValue]
      split
      · exact h.insert ‹_› (hactions _ List.mem_cons_self)
      · exact h
    | _ => exact h

/-- A condition has one outcome on dictionaries that agree on the fields its rule is indexed under
and on what is no field. -/
theorem evaluate_congr_indexed (hf : f.Loaded) (hnames : f.graph.ReadsByName)
    {params e : Dict Value} {node : RuleNode}
    (hnode : f.graph.rule? node.rule.id = some node)
    (hagree : ∀ key, (f.graph.hasField key = true → node.rule.id ∈ f.graph.rulesFor key) →
      d.get? key = e.get? key) :
    node.rule.condition.evaluate (Snapshot.scopeOver f d params) =
      node.rule.condition.evaluate (Snapshot.scopeOver f e params) := by
  have hnode' := hnode
  rw [hf.graph] at hnode'
  obtain ⟨-, hreads, -⟩ := RuleGraph.reads_of_rule? hf.named hnode'
  refine Expr.evaluate_congr_data fun path hpath hp key hhead => hagree key fun hfield => ?_
  rw [← hreads] at hpath
  have hkey := RuleGraph.mem_readKeys_of_head? hfield hp hhead (hnames _ _ hnode path hpath hp)
  rw [hf.graph] at hkey ⊢
  exact (RuleGraph.mem_rulesFor_of_rule? hf.named hnode').2 ⟨path, hpath, hkey⟩

/-- A condition has one outcome on two dictionaries that agree, up to equality of documents, on the
fields its rule is indexed under. -/
theorem evaluate_congr_same (params : Dict Value) (hf : f.Loaded)
    (hnames : f.graph.ReadsByName) {e : Dict Value} (hd : f.PlainValues d) (he : f.PlainValues e)
    {node : RuleNode}
    (hnode : f.graph.rule? node.rule.id = some node)
    (hsame : ∀ key, node.rule.id ∈ f.graph.rulesFor key →
      sameOption (d.get? key) (e.get? key) = true) :
    node.rule.condition.evaluate (Snapshot.scopeOver f d params) =
      node.rule.condition.evaluate (Snapshot.scopeOver f e params) := by
  refine evaluate_congr_indexed hf hnames hnode fun key hindexed => ?_
  cases hfield : f.graph.hasField key with
  | false => rw [hd.declared key hfield, he.declared key hfield]
  | true => exact eq_of_sameOption (hsame key (hindexed hfield)) (hd.zeros key) (he.zeros key)

theorem runRule_actions_congr (hf : f.Loaded) (hnames : f.graph.ReadsByName)
    {params e : Dict Value} (hd : f.PlainValues d) (he : f.PlainValues e) {node : RuleNode}
    (hnode : f.graph.rule? node.rule.id = some node)
    (hsame : ∀ key, node.rule.id ∈ f.graph.rulesFor key →
      sameOption (d.get? key) (e.get? key) = true) :
    (f.runRule params d node).actions = (f.runRule params e node).actions := by
  unfold runRule
  simp only [evaluate_congr_same params hf hnames hd he hnode hsame]

end Form

namespace Snapshot

theorem plainValues_applyAll {s : Snapshot} (h : s.form.PlainValues s.values)
    {actions : List Action} (hactions : ∀ action ∈ actions, action.noNegativeZero = true) :
    s.form.PlainValues (s.applyAll actions).values := by
  induction actions generalizing s with
  | nil => exact h
  | cons action rest ih =>
    have hform := (apply_form s action).1
    have hfirst : s.form.PlainValues (s.apply action).values := by
      rw [values_apply]
      cases action with
      | setValue target value =>
        simp only
        unfold setValue
        split
        · exact h
        · rename_i hset
          simp only [Bool.or_eq_true, not_or, Bool.not_eq_true', Bool.not_eq_false] at hset
          exact h.insert hset.1 (hactions _ List.mem_cons_self)
      | _ => exact h
    rw [← hform] at hfirst ⊢
    exact ih hfirst fun other hother => hactions other (List.mem_cons_of_mem _ hother)

/-! ## Writers and readers of a pass -/

section Acyclic

variable {s : Snapshot} {ids : List String}

theorem pairwise_nodesOf (hs : s.form.Loaded) (hc : s.form.graph.cycles = [])
    (ids : List String) :
    (s.nodesOf ids).Pairwise fun a b => a.rule.id ∉ s.form.graph.fedBy b.rule.id := by
  unfold nodesOf
  rw [List.pairwise_filterMap]
  have hsorted := RuleGraph.pairwise_sortRules hs.named (by rw [← hs.graph]; exact hc) ids
  rw [← hs.graph] at hsorted
  refine hsorted.imp fun hab x hx y hy => ?_
  rwa [rule?_id hs hx, rule?_id hs hy]

theorem mem_fedBy_of_sets (hs : s.form.Loaded) {writer : RuleNode}
    (hwriter : s.form.graph.rule? writer.rule.id = some writer) {key : String} {value : Value}
    (hset : Action.setValue key value ∈ writer.rule.allActions) {id : String}
    (hid : id ∈ s.form.graph.rulesFor key) : id ∈ s.form.graph.fedBy writer.rule.id := by
  refine RuleGraph.mem_fedBy.2 ⟨writer, hwriter, key, ?_, hid⟩
  rw [hs.graph] at hwriter
  rw [(RuleGraph.reads_of_rule? hs.named hwriter).2.2]
  exact Rule.mem_writes.2 ⟨value, hset⟩

/-- From a rule of a pass on, no action sets what the rule reads. -/
theorem not_set_of_nodesOf_eq (hs : s.form.Loaded) (hc : s.form.graph.cycles = [])
    {before after : List RuleNode} {node : RuleNode}
    (hnodes : s.nodesOf ids = before ++ node :: after) {key : String}
    (hid : node.rule.id ∈ s.form.graph.rulesFor key) (params values : Dict Value)
    (value : Value) :
    Action.setValue key value ∉
      RuleRun.actionsOf (s.form.runRules params values (node :: after)) := by
  intro hmem
  obtain ⟨writer, hwriter, hset⟩ := Form.exists_of_mem_actionsOf hmem
  have hmem : writer ∈ s.nodesOf ids := by
    rw [hnodes]
    exact List.mem_append_right _ hwriter
  have hrule := (rule?_of_mem_nodesOf hs hmem).2
  have hfed := mem_fedBy_of_sets hs hrule hset hid
  rcases List.mem_cons.1 hwriter with rfl | hwriter
  · rw [hs.graph] at hfed
    exact RuleGraph.not_transGen_fedBy hs.named (by rw [← hs.graph]; exact hc) _ (.single hfed)
  · have hpairs := pairwise_nodesOf hs hc ids
    rw [hnodes] at hpairs
    exact List.rel_of_pairwise_cons (List.pairwise_append.1 hpairs).2.1 hwriter hfed

end Acyclic

/-! ## One pass -/

/-- What makes passes predictable: no cycles of rules, conditions that enter fields by name, and no
negative zeros, which are equal to zero as documents but read differently. -/
structure Orderly (s : Snapshot) : Prop where
  loaded : s.form.Loaded
  acyclic : s.form.graph.cycles = []
  names : s.form.graph.ReadsByName
  sets : s.form.graph.SetsNoNegativeZero
  plain : s.form.PlainValues s.values

/-- The actions of a run are those of the branch that its rule takes in this state. -/
def Supports (s : Snapshot) (run : RuleRun) : Prop :=
  ∃ node, s.form.graph.rule? run.rule = some node ∧
    run.actions = node.rule.branch (node.rule.condition.evaluate s.scope).value.truthy

namespace Orderly

variable {s : Snapshot} {ids : List String}

theorem same_seen (h : s.Orderly) {before after : List RuleNode} {node : RuleNode}
    (hnodes : s.nodesOf ids = before ++ node :: after) {key : String}
    (hid : node.rule.id ∈ s.form.graph.rulesFor key) :
    sameOption
      (((RuleRun.actionsOf (s.form.runRules s.form.params s.values before)).foldl
        s.form.overlay s.values).get? key)
      ((s.afterPass (s.pass ids)).values.get? key) = true := by
  have hsame := same_applyAll (SameValues.refl s.values)
    (RuleRun.actionsOf (s.pass ids).runs) key
  rw [show (s.pass ids).runs = _ from evaluate_eq_runRules s ids, hnodes, Form.runRules_append,
    RuleRun.actionsOf_append, List.foldl_append, Form.get?_overlay_of_not_set
      fun _ value => not_set_of_nodesOf_eq h.loaded h.acyclic hnodes hid _ _ value] at hsame
  rw [sameOption_comm]
  unfold afterPass
  rwa [show (s.pass ids).runs = _ from evaluate_eq_runRules s ids, hnodes, Form.runRules_append,
    RuleRun.actionsOf_append]

theorem noNegativeZero_of_mem_actionsOf (h : s.Orderly) {nodes : List RuleNode}
    (hnodes : nodes ⊆ s.nodesOf ids) (params values : Dict Value) :
    ∀ action ∈ RuleRun.actionsOf (s.form.runRules params values nodes),
      action.noNegativeZero = true := by
  intro action hmem
  obtain ⟨node, hnode, haction⟩ := Form.exists_of_mem_actionsOf hmem
  exact h.sets _ _ (rule?_of_mem_nodesOf h.loaded (hnodes hnode)).2 action haction

theorem afterPass (h : s.Orderly) (ids : List String) :
    (s.afterPass (s.pass ids)).Orderly := by
  have hform := form_afterPass s (s.pass ids)
  refine ⟨by rw [hform]; exact h.loaded, by rw [hform]; exact h.acyclic,
    by rw [hform]; exact h.names, by rw [hform]; exact h.sets, ?_⟩
  rw [hform]
  exact plainValues_applyAll h.plain
    (h.noNegativeZero_of_mem_actionsOf (List.Subset.refl _) _ _)

theorem run_of_mem_pass (h : s.Orderly) {run : RuleRun} (hrun : run ∈ (s.pass ids).runs) :
    ∃ node, s.form.graph.rule? node.rule.id = some node ∧
      run = s.form.runRule s.form.params run.seen node ∧ s.form.PlainValues run.seen ∧
      ∀ key, node.rule.id ∈ s.form.graph.rulesFor key →
        sameOption (run.seen.get? key) ((s.afterPass (s.pass ids)).values.get? key) = true := by
  obtain ⟨before, node, after, hnodes, rfl⟩ := Form.exists_of_mem_runRules hrun
  have hsub : before ⊆ s.nodesOf ids := by
    rw [show s.nodesOf ids = _ from hnodes]
    exact List.subset_append_left _ _
  have hmem : node ∈ s.nodesOf ids := by
    rw [show s.nodesOf ids = _ from hnodes]
    exact List.mem_append_right _ List.mem_cons_self
  exact ⟨node, (rule?_of_mem_nodesOf h.loaded hmem).2, rfl,
    h.plain.overlay (h.noNegativeZero_of_mem_actionsOf hsub _ _),
    fun key hid => h.same_seen hnodes hid⟩

theorem supports_of_same (h : s.Orderly) {run : RuleRun} (hrun : run ∈ (s.pass ids).runs)
    {t : Snapshot} (hform : t.form = s.form) (hplain : s.form.PlainValues t.values)
    (hsame : ∀ key, run.rule ∈ s.form.graph.rulesFor key →
      sameOption (run.seen.get? key) (t.values.get? key) = true) : t.Supports run := by
  obtain ⟨node, hnode, hdef, hseen, -⟩ := h.run_of_mem_pass hrun
  have hrule : run.rule = node.rule.id := by rw [hdef]; rfl
  rw [hrule] at hsame
  refine ⟨node, by rw [hform, hrule]; exact hnode, ?_⟩
  rw [hdef, Form.runRule_actions_congr h.loaded h.names hseen hplain hnode hsame]
  unfold Snapshot.scope
  rw [hform]
  rfl

/-- The state after a pass supports the runs of the pass. -/
theorem supports_pass (h : s.Orderly) {run : RuleRun} (hrun : run ∈ (s.pass ids).runs) :
    (s.afterPass (s.pass ids)).Supports run := by
  have hform := form_afterPass s (s.pass ids)
  obtain ⟨node, -, hdef, -, hsame⟩ := h.run_of_mem_pass hrun
  have hrule : run.rule = node.rule.id := by rw [hdef]; rfl
  refine h.supports_of_same hrun hform (hform ▸ (h.afterPass ids).plain) ?_
  rwa [hrule]

end Orderly

end Snapshot

end FormEngine
