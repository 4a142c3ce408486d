import FormEngine.Proofs.Update.Branches
import Mathlib.Data.List.Induction

/-!
# Passes that are repeated

Without cycles every rule of a pass runs behind the rules that set what it reads. So on the state
that the pass leaves, its rules do the same again: what a rule reads is set anew before it runs, or
no rule of the pass sets it (`evaluate_afterPass`). The first pass of a form is such a pass, and its
actions find nothing left to change (`first_pass_suffices`).
-/

namespace FormEngine

open Value (sameOption_comm sameOption_trans)

/-! ## What actions leave alone -/

theorem Form.get?_overlay_congr {f : Form} {actions : List Action} {d e : Dict Value}
    {key : String} (h : d.get? key = e.get? key ∨
      f.graph.hasField key = true ∧ ∃ value, Action.setValue key value ∈ actions) :
    (actions.foldl f.overlay d).get? key = (actions.foldl f.overlay e).get? key := by
  induction actions generalizing d e with
  | nil => exact h.resolve_right fun ⟨_, _, hmem⟩ => List.not_mem_nil hmem
  | cons action rest ih =>
    refine ih ?_
    by_cases hrest : f.graph.hasField key = true ∧ ∃ value, Action.setValue key value ∈ rest
    · exact .inr hrest
    left
    have hbefore : (f.graph.hasField key = true → ∀ value, action ≠ .setValue key value) →
        d.get? key = e.get? key := by
      refine fun hother => h.resolve_right fun ⟨hfield, value, hmem⟩ => ?_
      rcases List.mem_cons.1 hmem with heq | hmem
      · exact hother hfield value heq.symm
      · exact hrest ⟨hfield, value, hmem⟩
    cases action with
    | setValue target value =>
      rw [overlay_setValue, overlay_setValue]
      by_cases hfield : f.graph.hasField target = true
      · rw [if_pos hfield, if_pos hfield, Dict.get?_insert, Dict.get?_insert]
        split
        · rfl
        · rename_i hne
          refine hbefore fun _ _ heq => ?_
          cases heq
          exact hne rfl
      · rw [if_neg hfield, if_neg hfield]
        refine hbefore fun hkey _ heq => ?_
        cases heq
        exact hfield hkey
    | _ => exact hbefore fun _ _ heq => by cases heq

namespace Snapshot

variable {s : Snapshot} {ids : List String}

/-! ## Repeated passes -/

theorem get?_afterPass_of_read (hs : s.form.Loaded) (hc : s.form.graph.cycles = [])
    {before after : List RuleNode} {node : RuleNode}
    (hnodes : s.nodesOf ids = before ++ node :: after) {key : String}
    (hindexed : s.form.graph.hasField key = true → node.rule.id ∈ s.form.graph.rulesFor key)
    (hset : ¬ (s.form.graph.hasField key = true ∧ ∃ value, Action.setValue key value ∈
      RuleRun.actionsOf (s.form.runRules s.form.params s.values before))) :
    (s.afterPass (s.pass ids)).values.get? key = s.values.get? key := by
  refine get?_applyAll_of_not_set fun hfield value hmem => ?_
  rw [show (s.pass ids).runs = _ from evaluate_eq_runRules s ids, hnodes, Form.runRules_append,
    RuleRun.actionsOf_append] at hmem
  rcases List.mem_append.1 hmem with hmem | hmem
  · exact hset ⟨hfield, value, hmem⟩
  · exact not_set_of_nodesOf_eq hs hc hnodes (hindexed hfield) _ _ value hmem

/-- Up to any rule of a pass, the rules do the same on the values that the pass leaves. -/
theorem runRules_afterPass (hs : s.form.Loaded) (hc : s.form.graph.cycles = [])
    (hnames : s.form.graph.ReadsByName) {before after : List RuleNode}
    (hnodes : s.nodesOf ids = before ++ after) :
    RuleRun.actionsOf (s.form.runRules s.form.params (s.afterPass (s.pass ids)).values before) =
        RuleRun.actionsOf (s.form.runRules s.form.params s.values before) ∧
      RuleRun.warningsOf
          (s.form.runRules s.form.params (s.afterPass (s.pass ids)).values before) =
        RuleRun.warningsOf (s.form.runRules s.form.params s.values before) := by
  induction before using List.reverseRecOn generalizing after with
  | nil => exact ⟨rfl, rfl⟩
  | append_singleton before node ih =>
    rw [List.append_assoc, List.singleton_append] at hnodes
    obtain ⟨hactions, hwarnings⟩ := ih hnodes
    have hmem : node ∈ s.nodesOf ids := by
      rw [hnodes]
      exact List.mem_append_right _ List.mem_cons_self
    have hnode := (rule?_of_mem_nodesOf hs hmem).2
    have houtcome : node.rule.condition.evaluate (scopeOver s.form
          ((RuleRun.actionsOf (s.form.runRules s.form.params s.values before)).foldl
            s.form.overlay (s.afterPass (s.pass ids)).values) s.form.params) =
        node.rule.condition.evaluate (scopeOver s.form
          ((RuleRun.actionsOf (s.form.runRules s.form.params s.values before)).foldl
            s.form.overlay s.values) s.form.params) :=
      Form.evaluate_congr_indexed hs hnames hnode fun key hindexed =>
        Form.get?_overlay_congr (or_iff_not_imp_right.2
          (get?_afterPass_of_read hs hc hnodes hindexed))
    rw [Form.runRules_append, Form.runRules_append, RuleRun.actionsOf_append,
      RuleRun.actionsOf_append, RuleRun.warningsOf_append, RuleRun.warningsOf_append, hactions,
      hwarnings]
    simp only [Form.runRules, Form.runRule, houtcome]
    exact ⟨rfl, rfl⟩

theorem evaluate_afterPass (hs : s.form.Loaded) (hc : s.form.graph.cycles = [])
    (hnames : s.form.graph.ReadsByName) :
    RuleRun.actionsOf ((s.afterPass (s.pass ids)).evaluate ids) =
        RuleRun.actionsOf (s.evaluate ids) ∧
      RuleRun.warningsOf ((s.afterPass (s.pass ids)).evaluate ids) =
        RuleRun.warningsOf (s.evaluate ids) := by
  have hruns := runRules_afterPass hs hc hnames (List.append_nil (s.nodesOf ids)).symm
  rw [← evaluate_eq_runRules] at hruns
  rw [evaluate_eq_runRules (s.afterPass (s.pass ids)), nodesOf, form_afterPass]
  exact hruns

theorem same_applyAll_again {t : Snapshot} {actions : List Action} (hform : t.form = s.form)
    (hvalues : t.values = (s.applyAll actions).values) :
    SameValues (t.applyAll actions).values t.values := by
  intro key
  have hfirst := same_applyAll (SameValues.refl s.values) actions key
  have hagain := same_applyAll (SameValues.refl t.values) actions key
  have hlaid : (actions.foldl s.form.overlay t.values).get? key =
      (actions.foldl s.form.overlay s.values).get? key := by
    refine Form.get?_overlay_congr (or_iff_not_imp_right.2 fun hset => ?_)
    rw [hvalues]
    exact get?_applyAll_of_not_set fun hfield value hmem => hset ⟨hfield, value, hmem⟩
  rw [hform, hlaid] at hagain
  rw [← hvalues, sameOption_comm] at hfirst
  exact sameOption_trans hagain hfirst

/-! ## The first pass -/

theorem start_eq_applyAll {f : Form}
    (h : f.discards (RuleRun.warningsOf f.startRuns) = false) :
    f.start = { f.blank.applyAll (RuleRun.actionsOf f.startRuns) with
      warnings := f.graph.cycleWarnings ++ RuleRun.warningsOf f.startRuns } := by
  unfold Form.start
  simp only [h, Bool.false_eq_true, if_false]

/-- Without cycles, and where conditions enter fields by name, one pass is enough at the start. The
first snapshot is what the actions of its first pass lead to; evaluated again on it, all rules do
the same and warn about the same, and applying the actions once more changes no value. -/
theorem first_pass_suffices {schema : Schema} {globals params : Dict Value} {config : Config}
    (h : build schema globals params config = .ok s) (hc : s.form.graph.cycles = [])
    (hnames : s.form.graph.ReadsByName)
    (hkept : s.form.discards (RuleRun.warningsOf s.form.startRuns) = false) :
    s = { s.form.blank.applyAll (RuleRun.actionsOf s.form.startRuns) with
      warnings := s.warnings } ∧
    RuleRun.actionsOf (s.evaluate s.form.graph.order) = RuleRun.actionsOf s.form.startRuns ∧
    RuleRun.warningsOf (s.evaluate s.form.graph.order) = RuleRun.warningsOf s.form.startRuns ∧
    SameValues (s.applyAll (RuleRun.actionsOf s.form.startRuns)).values s.values := by
  obtain ⟨hnamed, rfl⟩ := build_ok h
  have hloaded : (Form.ofSchema schema globals params config).Loaded := ⟨hnamed, rfl⟩
  generalize Form.ofSchema schema globals params config = f at *
  rw [Form.form_start] at hc hnames hkept ⊢
  have hvalues : f.start.values = (f.blank.applyAll (RuleRun.actionsOf f.startRuns)).values := by
    rw [start_eq_applyAll hkept]
  refine ⟨by rw [start_eq_applyAll hkept], ?_⟩
  have hagain : RuleRun.actionsOf ((f.blank.afterPass (f.blank.pass f.graph.order)).evaluate
        f.graph.order) = RuleRun.actionsOf f.startRuns ∧
      RuleRun.warningsOf ((f.blank.afterPass (f.blank.pass f.graph.order)).evaluate
        f.graph.order) = RuleRun.warningsOf f.startRuns :=
    evaluate_afterPass hloaded hc hnames
  have hevaluate : f.start.evaluate f.graph.order =
      (f.blank.afterPass (f.blank.pass f.graph.order)).evaluate f.graph.order := by
    rw [start_eq_applyAll hkept]
    rfl
  rw [hevaluate]
  exact ⟨hagain.1, hagain.2, same_applyAll_again (Form.form_start f) hvalues⟩

/-- A note for dollars, and a rule behind it that sets the currency of a country. -/
def currencyForm : Schema where
  sections := [{
    id := "main"
    fields := [
      { id := "country", kind := .text, defaultValue := some (.string "FR") },
      { id := "currency", kind := .text },
      { id := "note", kind := .text }] }]
  rules := [
    { id := "note_for_dollars"
      condition := .op (.relation .equal) [.var "currency" none, .literal (.string "USD")]
      actions := [.setVisible .field "note" true]
      otherwise := [.setVisible .field "note" false] },
    { id := "currency_of_country"
      condition := .op (.relation .equal) [.var "country" none, .literal (.string "FR")]
      actions := [.setValue "currency" (.string "EUR")]
      otherwise := [.setValue "currency" (.string "USD")] }]

/-- The note runs behind the currency, and both are done with after the first pass. -/
theorem currencyForm_first_pass :
    ∃ s, build currencyForm [] [] {} = .ok s ∧
      (s.values.get? "currency").any (·.same (.string "EUR")) = true ∧
      (RuleRun.actionsOf s.form.startRuns).length = 2 ∧
      RuleRun.actionsOf (s.evaluate s.form.graph.order) =
        RuleRun.actionsOf s.form.startRuns ∧
      SameValues (s.applyAll (RuleRun.actionsOf s.form.startRuns)).values s.values := by
  have hbuild : build currencyForm [] [] {} = .ok _ := build_eq_start (by decide +kernel)
  have hnamed := (build_ok hbuild).1
  have hform := Form.form_start (Form.ofSchema currencyForm [] [] {})
  have hc : (RuleGraph.ofSchema currencyForm).cycles = [] :=
    Digraph.loops_eq_nil_iff.2 (Digraph.not_transGen_of_rank
      (fun id => if id = "currency_of_country" then 0 else 1) (by decide +kernel))
  obtain ⟨-, hactions, -, hsame⟩ := first_pass_suffices hbuild
    (by rw [hform]; exact hc)
    (by rw [hform]; exact RuleGraph.readsByName_ofSchema hnamed (by decide +kernel))
    (by rw [hform]; decide +kernel)
  exact ⟨_, hbuild, by decide +kernel, by decide +kernel, hactions, hsame⟩

end Snapshot

end FormEngine
