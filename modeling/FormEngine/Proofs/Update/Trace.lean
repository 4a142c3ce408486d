import FormEngine.Proofs.Update.Pass

/-!
# Traces of cascades

`Trace s changed ps` says that `ps` are the first passes of a cascade from `s`: each pass takes the
rules that read what has changed before and works on the state that the passes before it leave. A
rule of the pass after `n` others is reached from the first rules by a walk of `n` edges
(`Trace.walk`).
-/

namespace FormEngine

open Value (sameOption sameOption_refl sameOption_trans)

/-! ## Walks -/

namespace RuleGraph

/-- A rule is reached from some rules along so many edges from a rule to one it feeds. -/
inductive Walk (g : RuleGraph) (starts : List String) : Nat → String → Prop where
  | start {id : String} (h : id ∈ starts) : Walk g starts 0 id
  | step {n : Nat} {a b : String} (h : Walk g starts n a) (hb : b ∈ g.fedBy a) :
      Walk g starts (n + 1) b

theorem Walk.from_fed {g : RuleGraph} {starts fed : List String} {n : Nat} {id : String}
    (hfed : ∀ b ∈ fed, ∃ a ∈ starts, b ∈ g.fedBy a) (h : Walk g fed n id) :
    Walk g starts (n + 1) id := by
  induction h with
  | start h =>
    obtain ⟨a, ha, hb⟩ := hfed _ h
    exact .step (.start ha) hb
  | step _ hb ih => exact .step ih hb

end RuleGraph

/-! ## Actions of runs -/

namespace Form

theorem exists_of_mem_actionsOf {f : Form} {params values : Dict Value} {nodes : List RuleNode}
    {action : Action} (h : action ∈ RuleRun.actionsOf (f.runRules params values nodes)) :
    ∃ node ∈ nodes, action ∈ node.rule.allActions := by
  induction nodes generalizing values with
  | nil => cases h
  | cons node rest ih =>
    rw [runRules, RuleRun.actionsOf_cons] at h
    rcases List.mem_append.1 h with h | h
    · exact ⟨node, List.mem_cons_self, Rule.mem_allActions_of_mem_branch h⟩
    · obtain ⟨other, hother, haction⟩ := ih h
      exact ⟨other, List.mem_cons_of_mem _ hother, haction⟩

end Form

namespace Snapshot

variable {s : Snapshot} {ids changed : List String}

/-- The rules of a pass, with what the graph stores about them. -/
def nodesOf (s : Snapshot) (ids : List String) : List RuleNode :=
  (s.form.graph.sortRules ids).filterMap s.form.graph.rule?

theorem evaluate_eq_runRules (s : Snapshot) (ids : List String) :
    s.evaluate ids = s.form.runRules s.form.params s.values (s.nodesOf ids) := rfl

theorem rule?_of_mem_nodesOf (hs : s.form.Loaded) {node : RuleNode} (h : node ∈ s.nodesOf ids) :
    node.rule.id ∈ ids ∧ s.form.graph.rule? node.rule.id = some node := by
  obtain ⟨id, hid, hnode⟩ := List.mem_filterMap.1 h
  rw [rule?_id hs hnode]
  exact ⟨(RuleGraph.mem_sortRules.1 hid).1, hnode⟩

theorem exists_writer_of_mem_changed (hs : s.form.Loaded) {key : String}
    (h : key ∈ (s.pass ids).changed) :
    ∃ node ∈ s.nodesOf ids, key ∈ node.writes := by
  obtain ⟨value, hmem, -, -⟩ := mem_changedBy.1 h
  obtain ⟨node, hnode, haction⟩ := Form.exists_of_mem_actionsOf hmem
  refine ⟨node, hnode, ?_⟩
  have hrule := (rule?_of_mem_nodesOf hs hnode).2
  rw [hs.graph] at hrule
  rw [(RuleGraph.reads_of_rule? hs.named hrule).2.2]
  exact Rule.mem_writes.2 ⟨value, haction⟩

/-- A rule that reads what a pass changes is fed by a rule of the pass. -/
theorem exists_feeder_of_mem_triggered (hs : s.form.Loaded) {id : String}
    (h : id ∈ (s.pass ids).changed.flatMap s.form.graph.rulesFor) :
    ∃ other ∈ ids, id ∈ s.form.graph.fedBy other := by
  obtain ⟨key, hkey, hid⟩ := List.mem_flatMap.1 h
  obtain ⟨node, hnode, hwrites⟩ := exists_writer_of_mem_changed hs hkey
  obtain ⟨hmem, hrule⟩ := rule?_of_mem_nodesOf hs hnode
  exact ⟨node.rule.id, hmem, RuleGraph.mem_fedBy.2 ⟨node, hrule, key, hwrites, hid⟩⟩

/-! ## Traces -/

/-- The state that some passes leave. -/
def afterPasses (s : Snapshot) (ps : List Pass) : Snapshot := ps.foldl afterPass s

/-- The first passes of a cascade from a state in which some fields have changed. -/
inductive Trace : Snapshot → List String → List Pass → Prop where
  | nil (s : Snapshot) (changed : List String) : Trace s changed []
  | cons {s : Snapshot} {changed : List String} {p : Pass} {ps : List Pass}
      (hp : p = s.pass (s.triggered changed)) (h : Trace (s.afterPass p) p.changed ps) :
      Trace s changed (p :: ps)

theorem trace_cascade (limit : Nat) (s : Snapshot) (changed : List String) :
    Trace s changed (cascade limit s changed).passes ∧
      (cascade limit s changed).last = s.afterPasses (cascade limit s changed).passes := by
  fun_induction cascade limit s changed with
  | case1 limit s => exact ⟨.nil _ _, rfl⟩
  | case2 s field others => exact ⟨.nil _ _, rfl⟩
  | case3 limit s field others ids hids => exact ⟨.nil _ _, rfl⟩
  | case4 limit s field others ids hids p ih => exact ⟨.cons rfl ih.1, ih.2⟩

theorem form_afterPass (s : Snapshot) (p : Pass) : (s.afterPass p).form = s.form :=
  (applyAll_form _ _).1

theorem form_afterPasses (s : Snapshot) (ps : List Pass) :
    (s.afterPasses ps).form = s.form := by
  induction ps generalizing s with
  | nil => rfl
  | cons p rest ih => exact (ih (s.afterPass p)).trans (form_afterPass s p)

namespace Trace

variable {before after : List Pass} {p : Pass}

theorem drop (hs : s.form.Loaded) (h : Trace s changed (before ++ after)) :
    ∃ changed', Trace (s.afterPasses before) changed' after ∧
      ∀ n id, RuleGraph.Walk s.form.graph (changed'.flatMap s.form.graph.rulesFor) n id →
        RuleGraph.Walk s.form.graph (changed.flatMap s.form.graph.rulesFor)
          (n + before.length) id := by
  induction before generalizing s changed with
  | nil => exact ⟨changed, h, fun _ _ hwalk => hwalk⟩
  | cons q rest ih =>
    cases h with
    | cons hq h =>
      have hform := form_afterPass s q
      obtain ⟨changed', htrace, hlift⟩ := ih (by rwa [hform]) h
      rw [hform] at hlift
      refine ⟨changed', htrace, fun n id hwalk => ?_⟩
      refine (hlift n id hwalk).from_fed fun b hb => ?_
      rw [hq] at hb
      obtain ⟨a, ha, hfed⟩ := exists_feeder_of_mem_triggered hs hb
      exact ⟨a, List.mem_flatMap.2 (mem_triggered.1 ha), hfed⟩

theorem take (h : Trace s changed (before ++ after)) : Trace s changed before := by
  induction before generalizing s changed with
  | nil => exact .nil _ _
  | cons q rest ih =>
    cases h with
    | cons hq h => exact .cons hq (ih h)

/-- A field that no pass changes keeps its value up to equality. -/
theorem same_of_notMem_changed (h : Trace s changed after) {key : String}
    (hkey : ∀ q ∈ after, key ∉ q.changed) :
    sameOption (s.values.get? key) ((s.afterPasses after).values.get? key) = true := by
  induction h with
  | nil s changed => exact sameOption_refl _
  | cons hp h ih =>
    subst hp
    have hfirst := (Snapshot.same_of_notMem_changed (hkey _ List.mem_cons_self)).2
    exact sameOption_trans hfirst (ih fun q hq => hkey q (List.mem_cons_of_mem _ hq))

/-- A rule that is evaluated after `n` passes is reached by a walk of `n` edges. -/
theorem walk (hs : s.form.Loaded) (h : Trace s changed (before ++ p :: after)) {run : RuleRun}
    (hrun : run ∈ p.runs) :
    RuleGraph.Walk s.form.graph (changed.flatMap s.form.graph.rulesFor) before.length
      run.rule := by
  obtain ⟨changed', htrace, hlift⟩ := h.drop hs
  cases htrace with
  | cons hp _ =>
    have hform := form_afterPasses s before
    rw [hp] at hrun
    have hmem := ((exists_run_iff (by rwa [hform])).1 ⟨run, hrun, rfl⟩).1
    rw [← hform] at hlift ⊢
    have hwalk := hlift 0 run.rule (.start (List.mem_flatMap.2 (mem_triggered.1 hmem)))
    rwa [Nat.zero_add] at hwalk

/-- A rule that reads what a pass changes after `n` others is reached by a walk of `n + 1` edges. -/
theorem walk_of_mem_changed (hs : s.form.Loaded) (h : Trace s changed (before ++ p :: after))
    {key id : String} (hkey : key ∈ p.changed) (hid : id ∈ s.form.graph.rulesFor key) :
    RuleGraph.Walk s.form.graph (changed.flatMap s.form.graph.rulesFor) (before.length + 1)
      id := by
  obtain ⟨changed', htrace, hlift⟩ := h.drop hs
  cases htrace with
  | cons hp _ =>
    have hform := form_afterPasses s before
    rw [← hform] at hid hlift ⊢
    rw [hp] at hkey
    obtain ⟨a, ha, hfed⟩ := exists_feeder_of_mem_triggered (by rwa [hform])
      (List.mem_flatMap.2 ⟨key, hkey, hid⟩)
    have hstart := List.mem_flatMap.2 (mem_triggered.1 ha)
    have hwalk := hlift 1 id (.step (.start hstart) hfed)
    rwa [Nat.add_comm] at hwalk

end Trace

end Snapshot

end FormEngine
