import FormEngine.Snapshot.Update

/-!
# Cascades as sequences of actions

A cascade ends in the state that the actions of all its runs lead to, one after another
(`last_cascade`). So it leaves the fixed part of the form alone.
-/

namespace FormEngine

namespace RuleRun

theorem actionsOf_cons (run : RuleRun) (rest : List RuleRun) :
    actionsOf (run :: rest) = run.actions ++ actionsOf rest := rfl

theorem actionsOf_append (as bs : List RuleRun) :
    actionsOf (as ++ bs) = actionsOf as ++ actionsOf bs := List.flatMap_append

theorem warningsOf_cons (run : RuleRun) (rest : List RuleRun) :
    warningsOf (run :: rest) = run.warnings ++ warningsOf rest := rfl

theorem warningsOf_append (as bs : List RuleRun) :
    warningsOf (as ++ bs) = warningsOf as ++ warningsOf bs := List.flatMap_append

end RuleRun

namespace Cascade

/-- Every evaluation of a rule in a cascade, in order. -/
def runs (c : Cascade) : List RuleRun := c.passes.flatMap (·.runs)

theorem runs_after (p : Pass) (c : Cascade) : (c.after p).runs = p.runs ++ c.runs := rfl

theorem warnings_after (p : Pass) (c : Cascade) :
    (c.after p).warnings = RuleRun.warningsOf p.runs ++ c.warnings := rfl

end Cascade

namespace Snapshot

theorem last_cascade (limit : Nat) (s : Snapshot) (changed : List String) :
    (cascade limit s changed).last =
      s.applyAll (RuleRun.actionsOf (cascade limit s changed).runs) := by
  fun_induction cascade limit s changed with
  | case1 limit s => rfl
  | case2 s field others => rfl
  | case3 limit s field others ids hids => rfl
  | case4 limit s field others ids hids p ih =>
    rw [Cascade.runs_after, RuleRun.actionsOf_append, applyAll_append]
    exact ih

/-- An update that succeeds ends its cascade with all warnings of the update. -/
theorem update_eq_ok_iff {s t : Snapshot} {field : String} {value : Value} :
    s.update field value = .ok t ↔
      s.form.graph.hasField field = true ∧
        s.form.discards (s.updateWarnings field (s.cascadeOf field value)) = false ∧
        t = { (s.cascadeOf field value).last with
          warnings := s.updateWarnings field (s.cascadeOf field value) } := by
  unfold update
  by_cases hfield : s.form.graph.hasField field = true
  · cases hd : s.form.discards (s.updateWarnings field (s.cascadeOf field value)) with
    | true => simp [hfield, hd]
    | false => simp [hfield, hd, eq_comm]
  · simp [hfield]

/-- An update fails for a field that is not declared, or for its warnings. -/
theorem update_eq_error_iff {s : Snapshot} {field : String} {value : Value} {e : EngineError} :
    s.update field value = .error e ↔
      s.form.graph.hasField field = false ∧ e = .unknownField field ∨
      s.form.graph.hasField field = true ∧
        s.form.discards (s.updateWarnings field (s.cascadeOf field value)) = true ∧
        e = .evaluationDiscarded (s.updateWarnings field (s.cascadeOf field value)) := by
  unfold update
  cases hfield : s.form.graph.hasField field with
  | false =>
    simp only [Bool.false_eq_true, if_false, Except.error.injEq, true_and, false_and, or_false]
    exact eq_comm
  | true =>
    cases hd : s.form.discards (s.updateWarnings field (s.cascadeOf field value)) with
    | true =>
      simp only [hd, if_true, Except.error.injEq, Bool.true_eq_false, true_and, false_and,
        false_or]
      exact eq_comm
    | false => simp [hd]

/-- The state after an update is the edited one with the actions of all runs applied. -/
theorem update_eq_applyAll {s t : Snapshot} {field : String} {value : Value}
    (h : s.update field value = .ok t) :
    t = { (s.edited field value).applyAll
      (RuleRun.actionsOf (s.cascadeOf field value).runs) with warnings := t.warnings } := by
  obtain ⟨-, -, rfl⟩ := update_eq_ok_iff.1 h
  unfold cascadeOf
  rw [last_cascade]

theorem form_update {s t : Snapshot} {field : String} {value : Value}
    (h : s.update field value = .ok t) : t.form = s.form := by
  rw [update_eq_applyAll h]
  exact (applyAll_form _ _).1

end Snapshot

end FormEngine
