import FormEngine.Proofs.Snapshot.Consistent
import FormEngine.Proofs.Update.Branches
import FormEngine.Proofs.Update.Freshness

/-!
# Updates without cycles

Without cycles every pass of an update takes the branches that belong to the values it leaves, and
what a rule did is right at the end unless a later pass changes what the rule reads. A rule that
reads the edited field and a field that is set two rules later is evaluated early and again later,
and what it did early stays (`chainForm`). Where no rule is reached by walks whose lengths differ by
two or more, this cannot happen.
-/

namespace FormEngine

open Value (sameOption sameOption_refl sameOption_trans)

namespace Snapshot

variable {s : Snapshot} {changed : List String} {before after : List Pass} {p : Pass}

/-! ## Traces of orderly states -/

theorem Orderly.afterPasses (h : s.Orderly) (htrace : Trace s changed after) :
    (s.afterPasses after).Orderly := by
  induction htrace with
  | nil s changed => exact h
  | cons hp _ ih =>
    subst hp
    exact ih (h.afterPass _)

theorem Orderly.pass_of_trace (h : s.Orderly) (htrace : Trace s changed (before ++ p :: after)) :
    (s.afterPasses before).Orderly ∧ (∃ ids, p = (s.afterPasses before).pass ids) ∧
      Trace ((s.afterPasses before).afterPass p) p.changed after := by
  obtain ⟨changed', hrest, -⟩ := htrace.drop h.loaded
  cases hrest with
  | cons hp hlater => exact ⟨h.afterPasses htrace.take, ⟨_, hp⟩, hlater⟩

theorem afterPasses_append_cons :
    s.afterPasses (before ++ p :: after) =
      ((s.afterPasses before).afterPass p).afterPasses after := by
  unfold afterPasses
  rw [List.foldl_append, List.foldl_cons]

theorem Orderly.supports_end (h : s.Orderly) (htrace : Trace s changed (before ++ p :: after))
    {run : RuleRun} (hrun : run ∈ p.runs)
    (hsame : ∀ key, run.rule ∈ s.form.graph.rulesFor key →
      sameOption (run.seen.get? key)
        ((s.afterPasses (before ++ p :: after)).values.get? key) = true) :
    (s.afterPasses (before ++ p :: after)).Supports run := by
  have hform := form_afterPasses s before
  have hformEnd := form_afterPasses s (before ++ p :: after)
  have hplain := (h.afterPasses htrace).plain
  obtain ⟨hfirst, ⟨ids, rfl⟩, -⟩ := h.pass_of_trace htrace
  refine hfirst.supports_of_same hrun (hformEnd.trans hform.symm) ?_ ?_
  · rwa [hform, ← hformEnd]
  · rwa [hform]

/-- What a pass did is right after the pass, and still at the end of the trace if no later pass
changes a field under which the rule is indexed. -/
theorem Orderly.supports_of_trace (h : s.Orderly)
    (htrace : Trace s changed (before ++ p :: after)) {run : RuleRun} (hrun : run ∈ p.runs) :
    (s.afterPasses (before ++ [p])).Supports run ∧
      ((∀ q ∈ after, ∀ key ∈ q.changed, run.rule ∉ s.form.graph.rulesFor key) →
        (s.afterPasses (before ++ p :: after)).Supports run) := by
  have hform := form_afterPasses s before
  obtain ⟨hfirst, ⟨ids, rfl⟩, hlater⟩ := h.pass_of_trace htrace
  constructor
  · rw [afterPasses_append_cons]
    exact hfirst.supports_pass hrun
  · intro hkept
    refine h.supports_end htrace hrun fun key hid => ?_
    have hkey : ∀ q ∈ after, key ∉ q.changed := fun q hq hmem => hkept q hq key hmem hid
    obtain ⟨node, -, hdef, -, hsame⟩ := hfirst.run_of_mem_pass hrun
    rw [← hform, hdef] at hid
    rw [afterPasses_append_cons]
    exact sameOption_trans (hsame key hid) (hlater.same_of_notMem_changed hkey)

/-- A rule that is read again after a run is reached by a walk longer by two at least. So without
such walks every run is right at the end of the trace. -/
theorem Orderly.supports_of_walks (h : s.Orderly)
    (hwalks : ∀ m n id,
      RuleGraph.Walk s.form.graph (changed.flatMap s.form.graph.rulesFor) m id →
      RuleGraph.Walk s.form.graph (changed.flatMap s.form.graph.rulesFor) n id → n ≤ m + 1)
    (htrace : Trace s changed (before ++ p :: after)) {run : RuleRun} (hrun : run ∈ p.runs) :
    (s.afterPasses (before ++ p :: after)).Supports run := by
  refine (h.supports_of_trace htrace hrun).2 fun q hq key hkey hid => ?_
  obtain ⟨mid, rest, rfl⟩ := List.append_of_mem hq
  have hsplit : Trace s changed ((before ++ p :: mid) ++ q :: rest) := by
    rwa [List.append_assoc]
  have hreach := htrace.walk h.loaded hrun
  have hagain := hsplit.walk_of_mem_changed h.loaded hkey hid
  have hlength := hwalks _ _ _ hreach hagain
  rw [List.length_append, List.length_cons] at hlength
  omega

/-! ## Updates -/

theorem trace_cascadeOf (s : Snapshot) (field : String) (value : Value) :
    Trace (s.edited field value) [field] (s.cascadeOf field value).passes ∧
      (s.cascadeOf field value).last =
        (s.edited field value).afterPasses (s.cascadeOf field value).passes :=
  trace_cascade _ _ _

theorem Consistent.plainValues (h : s.Consistent) (hzeros : NoNegativeZeros s.values) :
    s.form.PlainValues s.values := by
  constructor
  · intro key hkey
    refine Dict.get?_eq_none_iff.2 fun hmem => ?_
    rw [h.loaded.hasField_iff.2 (h.values.mem_iff.1 hmem)] at hkey
    cases hkey
  · intro key value hvalue
    exact hzeros _ (Dict.mem_of_get? hvalue)

/-- An update of a form without cycles whose conditions enter fields by name, with no negative zeros
around. Every run of a pass has the actions of the branch that its rule takes on the values that the
pass leaves. They are those of the branch the rule takes at the end of the update unless a later
pass changes a field under which the rule is indexed; so the last run of every rule is right at the
end. And all runs are right at the end if no rule is reached from those of the edited field by two
walks whose lengths differ by more than one. -/
theorem branches_of_acyclic_update {s t : Snapshot} (hs : s.Reachable)
    (hacyclic : s.form.graph.cycles = []) (hnames : s.form.graph.ReadsByName)
    (hsets : s.form.graph.SetsNoNegativeZero) (hzeros : NoNegativeZeros s.values)
    {field : String} {value : Value} (hvalue : value.noNegativeZero = true)
    (ht : s.update field value = .ok t)
    (hlimit : ∀ f passes, Warning.passLimit f passes ∉ t.warnings) :
    (∀ before p after, (s.cascadeOf field value).passes = before ++ p :: after →
      ∀ run ∈ p.runs, ((s.edited field value).afterPasses (before ++ [p])).Supports run ∧
        ((∀ q ∈ after, ∀ key ∈ q.changed, run.rule ∉ s.form.graph.rulesFor key) →
          t.Supports run)) ∧
    (∀ id run, (s.cascadeOf field value).lastRun? id = some run → t.Supports run) ∧
    ((∀ m n id, RuleGraph.Walk s.form.graph (s.form.graph.rulesFor field) m id →
        RuleGraph.Walk s.form.graph (s.form.graph.rulesFor field) n id → n ≤ m + 1) →
      ∀ run ∈ (s.cascadeOf field value).runs, t.Supports run) := by
  have hlimited := not_limited_of_update ht hlimit
  obtain ⟨hfield, -, hend⟩ := update_eq_ok_iff.1 ht
  obtain ⟨htrace, hlast⟩ := trace_cascadeOf s field value
  have hsettles : Cascade.Settles (s.edited field value) [field] (s.cascadeOf field value) :=
    settles_cascade hs.loaded hlimited
  have horderly : (s.edited field value).Orderly :=
    ⟨hs.loaded, hacyclic, hnames, hsets,
      (hs.consistent.plainValues hzeros).insert hfield hvalue⟩
  have hsupports : ∀ {run}, (s.cascadeOf field value).last.Supports run → t.Supports run := by
    intro run h
    rw [hend]
    exact h
  have hpass : ∀ run ∈ (s.cascadeOf field value).runs, ∃ before p after,
      (s.cascadeOf field value).passes = before ++ p :: after ∧ run ∈ p.runs := by
    intro run hmem
    obtain ⟨p, hp, hrun⟩ := List.mem_flatMap.1 hmem
    obtain ⟨before, after, hpasses⟩ := List.append_of_mem hp
    exact ⟨before, p, after, hpasses, hrun⟩
  refine ⟨?_, ?_, ?_⟩
  · intro before p after hpasses run hrun
    rw [hpasses] at htrace hlast
    obtain ⟨hafter, hkept⟩ := horderly.supports_of_trace htrace hrun
    exact ⟨hafter, fun h => hsupports (hlast ▸ hkept h)⟩
  · intro id run hrun
    obtain ⟨hmem, hid⟩ := Cascade.evaluated_of_lastRun? hrun
    obtain ⟨before, p, after, hpasses, hrunp⟩ := hpass run hmem
    rw [hpasses] at htrace hlast
    refine hsupports (hlast ▸ horderly.supports_end htrace hrunp fun key hkey => ?_)
    rw [← hlast]
    rw [hid] at hkey
    exact hsettles.fresh id run hrun key hkey
  · intro hwalks run hmem
    obtain ⟨before, p, after, hpasses, hrun⟩ := hpass run hmem
    rw [hpasses] at htrace hlast
    rw [← List.flatMap_singleton s.form.graph.rulesFor field] at hwalks
    exact hsupports (hlast ▸ horderly.supports_of_walks hwalks htrace hrun)

/-! ## What stays of early evaluations -/

/-- Some reachable snapshot of a form without cycles has an update, not cut off by the limit, that
applies an action from a branch which its rule does not take on the finished values. -/
def KeepsUnsupported (schema : Schema) : Prop :=
  ∃ (s t : Snapshot) (field : String) (value : Value),
    build schema [] [] {} = .ok s ∧ s.form.graph.cycles = [] ∧ s.update field value = .ok t ∧
    (∀ f passes, Warning.passLimit f passes ∉ t.warnings) ∧
    ∃ run ∈ (s.cascadeOf field value).runs, ∃ node, s.form.graph.rule? run.rule = some node ∧
      ∃ action ∈ run.actions,
        action ∉ node.rule.branch (node.rule.condition.evaluate t.scope).value.truthy

/-- Whether an update, without a warning, applies actions of a rule that takes the empty branch in
the end. -/
def leavesUnsupported (s : Snapshot) (field : String) (value : Value) : Bool :=
  (s.update field value).toOption.any fun t =>
    t.warnings.isEmpty && (s.cascadeOf field value).runs.any fun run =>
      !run.actions.isEmpty && (s.form.graph.rule? run.rule).any fun node =>
        (node.rule.branch (node.rule.condition.evaluate t.scope).value.truthy).isEmpty

theorem keepsUnsupported_of_check {schema : Schema} (field : String) (value : Value)
    (hbuild : (build schema [] [] {}).toOption.isSome = true)
    (hlater : ∀ a ∈ (RuleGraph.ofSchema schema).order,
      ∀ b ∈ (RuleGraph.ofSchema schema).fedBy a,
        (RuleGraph.ofSchema schema).order.idxOf a < (RuleGraph.ofSchema schema).order.idxOf b)
    (h : (Form.ofSchema schema [] [] {}).start.leavesUnsupported field value = true) :
    KeepsUnsupported schema := by
  have hform := Form.form_start (Form.ofSchema schema [] [] {})
  have hcycles := RuleGraph.cycles_eq_nil_of_feeds_later hlater
  unfold leavesUnsupported at h
  obtain ⟨t, ht, h⟩ := exists_ok_of_any h
  rw [Bool.and_eq_true, List.isEmpty_iff, List.any_eq_true] at h
  obtain ⟨hwarnings, run, hrun, h⟩ := h
  rw [Bool.and_eq_true, Bool.not_eq_true'] at h
  obtain ⟨node, hnode, hbranch⟩ := (Option.any_eq_true _ _).1 h.2
  obtain ⟨action, haction⟩ := List.exists_mem_of_ne_nil run.actions (by
    intro hnil
    rw [hnil] at h
    cases h.1)
  refine ⟨_, t, field, value, build_eq_start hbuild, by rw [hform]; exact hcycles, ht,
    by simp [hwarnings], run, hrun, node, hnode, action, haction, ?_⟩
  rw [List.isEmpty_iff.1 hbranch]
  exact List.not_mem_nil

/-- The condition that a field holds `on`. -/
def isOn (path : String) : Expr := .op (.relation .equal) [.var path none, .literal (.string "on")]

/-- A form of text fields, a number that starts as zero, and a note. -/
def noteForm (texts : List String) (rules : List Rule) : Schema where
  sections := [{
    id := "main"
    fields := texts.map (fun id => { id := id, kind := .text }) ++
      [{ id := "zero", kind := .number, defaultValue := some (.number (.float ⟨false, 0⟩)) },
       { id := "note", kind := .text }] }]
  rules := rules

/-- Switching `a` on switches `b` on, and that `c`; the note is hidden while only `a` is on. -/
def chainForm : Schema :=
  noteForm ["a", "b", "c"] [
    { id := "a_sets_b", condition := isOn "a", actions := [.setValue "b" (.string "on")] },
    { id := "b_sets_c", condition := isOn "b", actions := [.setValue "c" (.string "on")] },
    { id := "hide_note", condition := .op .and [isOn "a", .op .not [isOn "c"]],
      actions := [.setVisible .field "note" false] }]

/-- The note is hidden by a condition that reads the field `5` by an index. -/
def indexForm : Schema :=
  noteForm ["a", "5"] [
    { id := "hide_note", condition := .op .and [isOn "a", .op .not [isOn "[5]"]],
      actions := [.setVisible .field "note" false] },
    { id := "a_sets_5", condition := isOn "a", actions := [.setValue "5" (.string "on")] }]

/-- The note is hidden by a condition on the sign of a zero, which another rule changes. -/
def zeroForm : Schema :=
  noteForm ["a"] [
    { id := "a_sets_zero", condition := isOn "a",
      actions := [.setValue "zero" (.number (.float ⟨true, 0⟩))] },
    { id := "hide_note"
      condition := .op .and [isOn "a",
        .op (.relation .startsWith) [.var "zero" none, .literal (.string "-")]]
      actions := [.setVisible .field "note" false] }]

/-- A rule can fire before a later pass sets what it reads; besides, a field that is read by an
index does not order its reader behind its writer, and a negative zero is not kept for a zero. -/
theorem acyclic_update_keepsUnsupported :
    KeepsUnsupported chainForm ∧ KeepsUnsupported indexForm ∧ KeepsUnsupported zeroForm := by
  refine ⟨?_, ?_, ?_⟩
  · exact keepsUnsupported_of_check "a" (.string "on") (by decide +kernel)
      (by decide +kernel) (by decide +kernel)
  · exact keepsUnsupported_of_check "a" (.string "on") (by decide +kernel)
      (by decide +kernel) (by decide +kernel)
  · exact keepsUnsupported_of_check "a" (.string "on") (by decide +kernel)
      (by decide +kernel) (by decide +kernel)

theorem walk_chainForm {n : Nat} {id : String}
    (h : RuleGraph.Walk (RuleGraph.ofSchema chainForm)
      ((RuleGraph.ofSchema chainForm).rulesFor "b") n id) :
    n = 0 ∧ id = "b_sets_c" ∨ n = 1 ∧ id = "hide_note" := by
  have hstart : (RuleGraph.ofSchema chainForm).rulesFor "b" = ["b_sets_c"] := by decide +kernel
  have hnext : (RuleGraph.ofSchema chainForm).fedBy "b_sets_c" = ["hide_note"] := by
    decide +kernel
  have hlast : (RuleGraph.ofSchema chainForm).fedBy "hide_note" = [] := by decide +kernel
  induction h with
  | start h =>
    rw [hstart] at h
    exact .inl ⟨rfl, List.mem_singleton.1 h⟩
  | step _ hb ih =>
    rcases ih with ⟨rfl, rfl⟩ | ⟨rfl, rfl⟩
    · rw [hnext] at hb
      exact .inr ⟨rfl, List.mem_singleton.1 hb⟩
    · rw [hlast] at hb
      cases hb

theorem chainForm_supports_edit_in_the_middle :
    ∃ t, (Form.ofSchema chainForm [] [] {}).start.update "b" (.string "on") = .ok t ∧
      ((Form.ofSchema chainForm [] [] {}).start.cascadeOf "b" (.string "on")).runs.map
        (·.rule) = ["b_sets_c", "hide_note"] ∧
      ∀ run ∈ ((Form.ofSchema chainForm [] [] {}).start.cascadeOf "b" (.string "on")).runs,
        t.Supports run := by
  have hbuild : build chainForm [] [] {} = .ok _ := build_eq_start (by decide +kernel)
  obtain ⟨t, ht, hnone⟩ := exists_ok_of_any (show ((Form.ofSchema chainForm [] [] {}).start.update
    "b" (.string "on")).toOption.any (·.warnings.isEmpty) = true by decide +kernel)
  have hnamed := (build_ok hbuild).1
  have hnames := RuleGraph.readsByName_ofSchema hnamed (by decide +kernel)
  have hsets := RuleGraph.setsNoNegativeZero_ofSchema hnamed (by decide +kernel)
  have hform := Form.form_start (Form.ofSchema chainForm [] [] {})
  have hparts := branches_of_acyclic_update ⟨chainForm, [], [], {}, _, hbuild, .refl⟩
    (by rw [hform]; exact RuleGraph.cycles_eq_nil_of_feeds_later (by decide +kernel))
    (by rw [hform]; exact hnames) (by rw [hform]; exact hsets)
    (by unfold NoNegativeZeros; decide +kernel) rfl ht (by simp [List.isEmpty_iff.1 hnone])
  refine ⟨t, ht, by decide +kernel, hparts.2.2 fun m n id hm hn => ?_⟩
  rw [hform] at hm hn
  rcases walk_chainForm hm with ⟨rfl, rfl⟩ | ⟨rfl, rfl⟩ <;>
    rcases walk_chainForm hn with ⟨rfl, h⟩ | ⟨rfl, h⟩ <;> omega

end Snapshot

end FormEngine
