import FormEngine.Proofs.Update.Branches

/-!
# Rules one at a time

A list of rules is evaluated as a whole: the values that rules set are laid over those of the state,
and the actions are applied behind the last rule. Where no value holds a negative zero, laying over
and applying give the same values (`values_applyAll`). So the list comes to the same as its sorted
rules evaluated one at a time, each on the state that the actions before it have led to
(`evaluateEach_eq`).
-/

namespace FormEngine

open Value (eq_of_same)

namespace Snapshot

/-- Evaluates rules one at a time: the actions of each are applied before the next is evaluated. -/
def evaluateEach (params : Dict Value) : Snapshot → List String → List RuleRun × Snapshot
  | s, [] => ([], s)
  | s, id :: rest =>
    let runs := s.evaluateWith params [id]
    let others := evaluateEach params (s.applyAll (RuleRun.actionsOf runs)) rest
    (runs ++ others.1, others.2)

/-! ## Applied and laid over -/

/-- No value that is found in a dictionary holds a negative zero. -/
def FindsNoNegativeZero (d : Dict Value) : Prop :=
  ∀ key value, d.get? key = some value → value.noNegativeZero = true

section

variable {s : Snapshot} {a : Action}

theorem findsNoNegativeZero_overlay {f : Form} {d : Dict Value} (hd : FindsNoNegativeZero d)
    (ha : a.noNegativeZero = true) : FindsNoNegativeZero (f.overlay d a) := by
  cases a with
  | setValue target value =>
    rw [Form.overlay_setValue]
    split
    · intro key v hv
      rw [Dict.get?_insert] at hv
      split at hv
      · cases hv
        exact ha
      · exact hd key v hv
    · exact hd
  | _ => exact hd

theorem values_apply_eq_overlay (hzeros : FindsNoNegativeZero s.values)
    (ha : a.noNegativeZero = true) : (s.apply a).values = s.form.overlay s.values a := by
  rw [values_apply]
  cases a with
  | setValue target value =>
    simp only [Form.overlay_setValue, setValue]
    by_cases hfield : s.form.graph.hasField target = true
    · rw [if_pos hfield]
      split
      · rename_i hskip
        simp only [hfield, Bool.not_true, Bool.false_or, Option.any_eq_true] at hskip
        obtain ⟨old, hold, hsame⟩ := hskip
        rw [eq_of_same old value hsame (hzeros target old hold) ha] at hold
        rw [Dict.insert_get? hold]
      · rfl
    · simp [hfield]
  | _ => rfl

theorem values_applyAll_eq_overlay {actions : List Action} (hzeros : FindsNoNegativeZero s.values)
    (hactions : ∀ a ∈ actions, a.noNegativeZero = true) :
    (s.applyAll actions).values = actions.foldl s.form.overlay s.values ∧
      FindsNoNegativeZero (s.applyAll actions).values := by
  induction actions generalizing s with
  | nil => exact ⟨rfl, hzeros⟩
  | cons a rest ih =>
    have hfirst := values_apply_eq_overlay hzeros (hactions a List.mem_cons_self)
    have hnext : FindsNoNegativeZero (s.apply a).values := by
      rw [hfirst]
      exact findsNoNegativeZero_overlay hzeros (hactions a List.mem_cons_self)
    obtain ⟨hvalues, hfinds⟩ := ih hnext fun b hb => hactions b (List.mem_cons_of_mem _ hb)
    rw [(apply_form s a).1, hfirst] at hvalues
    exact ⟨hvalues, hfinds⟩

end

/-! ## One rule at a time -/

theorem sortRules_singleton {g : RuleGraph} {id : String} (h : (g.rule? id).isSome = true) :
    g.sortRules [id] = [id] := by
  have hcandidates : g.candidates [id] = [id] := by
    simp [RuleGraph.candidates, h, distinct]
  have hperm := g.sortRules_perm [id]
  rw [hcandidates] at hperm
  exact List.perm_singleton.1 hperm

theorem evaluateWith_singleton {s : Snapshot} (params : Dict Value) {id : String} {node : RuleNode}
    (h : s.form.graph.rule? id = some node) :
    s.evaluateWith params [id] = [s.form.runRule params s.values node] := by
  rw [evaluateWith, sortRules_singleton (by rw [h]; rfl), List.filterMap_cons_some h]
  rfl

/-- Known rules one at a time come to what their run in this order comes to. -/
theorem evaluateEach_eq_runRules (params : Dict Value) {s : Snapshot} {ids : List String}
    (hknown : ∀ id ∈ ids, (s.form.graph.rule? id).isSome = true)
    (hzeros : FindsNoNegativeZero s.values)
    (hsets : ∀ id ∈ ids, ∀ node, s.form.graph.rule? id = some node →
      ∀ a ∈ node.rule.allActions, a.noNegativeZero = true) :
    evaluateEach params s ids =
      (s.form.runRules params s.values (ids.filterMap s.form.graph.rule?),
        s.applyAll (RuleRun.actionsOf
          (s.form.runRules params s.values (ids.filterMap s.form.graph.rule?)))) := by
  induction ids generalizing s with
  | nil => rfl
  | cons id rest ih =>
    obtain ⟨node, hnode⟩ := Option.isSome_iff_exists.1 (hknown id List.mem_cons_self)
    let run := s.form.runRule params s.values node
    have hactions : ∀ a ∈ run.actions, a.noNegativeZero = true := fun a ha =>
      hsets id List.mem_cons_self node hnode a (Rule.mem_allActions_of_mem_branch ha)
    have hruns : RuleRun.actionsOf [run] = run.actions := List.append_nil _
    obtain ⟨hvalues, hfinds⟩ := values_applyAll_eq_overlay hzeros hactions
    have hform := (applyAll_form s run.actions).1
    have hrest := ih (s := s.applyAll run.actions)
      (fun other hother => by rw [hform]; exact hknown other (List.mem_cons_of_mem _ hother))
      hfinds
      (fun other hother => by rw [hform]; exact hsets other (List.mem_cons_of_mem _ hother))
    rw [hform, hvalues] at hrest
    rw [evaluateEach, evaluateWith_singleton params hnode, hruns, hrest,
      List.filterMap_cons_some hnode, Form.runRules, RuleRun.actionsOf_cons, applyAll_append]
    rfl

/-- A list of rules comes to the same as its sorted rules one at a time: the same evaluations, with
the same actions and warnings, and the same state after all actions. -/
theorem evaluateEach_eq (s : Snapshot) (params : Dict Value) (ids : List String)
    (hzeros : NoNegativeZeros s.values)
    (hsets : ∀ id ∈ ids, ∀ node, s.form.graph.rule? id = some node →
      ∀ a ∈ node.rule.allActions, a.noNegativeZero = true) :
    evaluateEach params s (s.form.graph.sortRules ids) =
      (s.evaluateWith params ids,
        s.applyAll (RuleRun.actionsOf (s.evaluateWith params ids))) :=
  evaluateEach_eq_runRules params (fun _ hid => (RuleGraph.mem_sortRules.1 hid).2)
    (fun _ _ hvalue => hzeros _ (Dict.mem_of_get? hvalue))
    (fun id hid => hsets id (RuleGraph.mem_sortRules.1 hid).1)

/-- A form in which a plan sets the seats, and the seats decide about the invoice. -/
def officeForm : Schema where
  sections := [{
    id := "office"
    fields := [
      { id := "plan", kind := .text, defaultValue := some (.string "team") },
      { id := "seats", kind := .number, defaultValue := some (.number (.int 1)) },
      { id := "invoice", kind := .text }] }]
  rules := [
    { id := "bill",
      condition := .op (.relation .greater) [.var "seats" none, .literal (.number (.int 1))],
      actions := [.setVisible .field "invoice" true],
      otherwise := [.setVisible .field "invoice" false] },
    { id := "staff",
      condition := .op (.relation .equal) [.var "plan" none, .literal (.string "team")],
      actions := [.setValue "seats" (.number (.int 5)), .setValue "desks" (.number (.int 5))] }]

theorem officeForm_evaluateEach :
    ∃ s : Snapshot, s = ((Form.ofSchema officeForm [] [] {}).start).applyAll
        [.setValue "seats" (.number (.int 1)), .setVisible .field "invoice" false] ∧
      s.form.graph.sortRules ["bill", "lost", "staff", "bill"] = ["staff", "bill"] ∧
      evaluateEach [] s ["staff", "bill"] =
        (s.evaluateWith [] ["bill", "lost", "staff", "bill"],
          s.applyAll (RuleRun.actionsOf (s.evaluateWith [] ["bill", "lost", "staff", "bill"]))) ∧
      (evaluateEach [] s ["staff", "bill"]).2.isVisible "invoice" = true := by
  have hnamed := (build_ok (build_eq_start
    (show (build officeForm [] [] {}).toOption.isSome = true by decide +kernel))).1
  have hsorted : (RuleGraph.ofSchema officeForm).sortRules ["bill", "lost", "staff", "bill"] =
      ["staff", "bill"] := by decide +kernel
  have hform : (((Form.ofSchema officeForm [] [] {}).start).applyAll
      [.setValue "seats" (.number (.int 1)), .setVisible .field "invoice" false]).form =
      Form.ofSchema officeForm [] [] {} :=
    (applyAll_form _ _).1.trans (Form.form_start _)
  have heach := evaluateEach_eq
    (((Form.ofSchema officeForm [] [] {}).start).applyAll
      [.setValue "seats" (.number (.int 1)), .setVisible .field "invoice" false])
    [] ["bill", "lost", "staff", "bill"] (by unfold NoNegativeZeros; decide +kernel)
    (fun id _ => by
      rw [hform]
      exact RuleGraph.setsNoNegativeZero_ofSchema hnamed (by decide +kernel) id)
  rw [hform] at heach
  have hids : (Form.ofSchema officeForm [] [] {}).graph.sortRules
      ["bill", "lost", "staff", "bill"] = ["staff", "bill"] := hsorted
  rw [hids] at heach
  exact ⟨_, rfl, by rw [hform]; exact hids, heach, by decide +kernel⟩

end Snapshot

end FormEngine
