import FormEngine.Proofs.Expr.Connectives
import FormEngine.Proofs.Expr.Vocabulary

/-!
# Warnings of evaluation

An operator that runs takes its warnings over from its operands (`Operator.mem_warnings_run?`), and
one that cannot run warns about itself. So every warning of an evaluation is the complaint of some
operator node of the expression (`Expr.exists_node_of_mem_warnings`): it is of one of the two kinds
an operator raises (`Expr.isEvaluation_of_mem_warnings`), and a known expression raises no warning
about unknown operators (`Expr.Known.not_unknownOperator`).
-/

namespace FormEngine

namespace Outcome

variable {os : List Outcome} {w : Warning}

theorem mem_warnings_firstStop {stop : Value → Bool} {o : Outcome}
    (h : w ∈ (firstStop stop o os).warnings) : ∃ x ∈ o :: os, w ∈ x.warnings := by
  fun_induction firstStop stop o os with
  | case1 o => exact ⟨o, List.mem_singleton_self o, h⟩
  | case2 o _ _ _ => exact ⟨o, List.mem_cons_self, h⟩
  | case3 o next rest _ ih =>
    rcases List.mem_append.1 h with h | h
    · exact ⟨o, List.mem_cons_self, h⟩
    · obtain ⟨x, hx, hw⟩ := ih h
      exact ⟨x, List.mem_cons_of_mem _ hx, hw⟩

theorem mem_warnings_all (h : w ∈ (all os).warnings) : ∃ o ∈ os, w ∈ o.warnings := by
  cases os with
  | nil => cases h
  | cons o rest => exact mem_warnings_firstStop (all_cons o rest ▸ h)

theorem mem_warnings_any (h : w ∈ (any os).warnings) : ∃ o ∈ os, w ∈ o.warnings := by
  cases os with
  | nil => cases h
  | cons o rest => exact mem_warnings_firstStop (any_cons o rest ▸ h)

theorem mem_warnings_choose (h : w ∈ (choose os).warnings) : ∃ o ∈ os, w ∈ o.warnings := by
  fun_induction choose os with
  | case1 => cases h
  | case2 fallback => exact ⟨fallback, List.mem_singleton_self _, h⟩
  | case3 condition result rest ih =>
    rcases List.mem_append.1 h with h | h
    · exact ⟨condition, List.mem_cons_self, h⟩
    · split at h
      · exact ⟨result, List.mem_cons_of_mem _ List.mem_cons_self, h⟩
      · obtain ⟨x, hx, hw⟩ := ih h
        exact ⟨x, List.mem_cons_of_mem _ (List.mem_cons_of_mem _ hx), hw⟩

end Outcome

namespace Operator

variable {o : Operator} {operands : List Outcome} {w : Warning}

/-- An operator that runs raises no warning of its own. -/
theorem mem_warnings_run? {outcome : Outcome} (h : o.run? operands = some outcome)
    (hw : w ∈ outcome.warnings) : ∃ x ∈ operands, w ∈ x.warnings := by
  unfold run? at h
  split at h
  · rename_i a b
    cases h
    rcases List.mem_append.1 hw with hw | hw
    · exact ⟨a, List.mem_cons_self, hw⟩
    · exact ⟨b, List.mem_cons_of_mem _ List.mem_cons_self, hw⟩
  · cases h
    exact Outcome.mem_warnings_all hw
  · cases h
    exact Outcome.mem_warnings_any hw
  · rename_i x
    cases h
    exact ⟨x, List.mem_cons_self, hw⟩
  · rename_i x
    cases h
    exact ⟨x, List.mem_cons_self, hw⟩
  · rename_i x
    cases h
    exact ⟨x, List.mem_cons_self, hw⟩
  · cases h
    exact Outcome.mem_warnings_choose hw
  · cases h

theorem isEvaluation_of_mem_refuse {found : Nat} (h : w ∈ (o.refuse found).warnings) :
    w.isEvaluation = true := by
  unfold refuse at h
  split at h <;>
  · rw [List.mem_singleton.1 h]
    rfl

theorem eq_unknown_of_mem_refuse {found : Nat} {name : String}
    (h : Warning.unknownOperator name ∈ (o.refuse found).warnings) : o = .unknown name := by
  cases o <;> simp_all [refuse, arity?, Operator.name]

/-- The warnings of an operator are those of its operands, or about the operator itself. -/
theorem mem_warnings_apply (h : w ∈ (o.apply operands).warnings) :
    (∃ x ∈ operands, w ∈ x.warnings) ∨ w ∈ (o.refuse operands.length).warnings := by
  unfold apply at h
  cases hrun : o.run? operands with
  | some outcome =>
    rw [hrun] at h
    exact .inl (mem_warnings_run? hrun h)
  | none =>
    rw [hrun] at h
    exact .inr h

end Operator

namespace Expr

mutual

/-- Every warning of an evaluation is the complaint of an operator node that cannot run. -/
theorem exists_node_of_mem_warnings {s : Scope} {w : Warning} : ∀ e : Expr,
    w ∈ (e.evaluate s).warnings →
      ∃ o args, Node (.op o args) e ∧ w ∈ (o.refuse args.length).warnings
  | .literal _, h => by cases h
  | .list items, h => by
    obtain ⟨x, hx, hw⟩ := List.mem_flatMap.1 h
    obtain ⟨e, he, o, args, hnode, hrefuse⟩ := exists_node_of_mem_evaluateAll items x hx hw
    exact ⟨o, args, .item he hnode, hrefuse⟩
  | .var _ _, h => by cases h
  | .op o args, h => by
    rcases Operator.mem_warnings_apply h with ⟨x, hx, hw⟩ | hw
    · obtain ⟨e, he, o', args', hnode, hrefuse⟩ := exists_node_of_mem_evaluateAll args x hx hw
      exact ⟨o', args', .operand he hnode, hrefuse⟩
    · rw [evaluateAll_eq_map, List.length_map] at hw
      exact ⟨o, args, .self _, hw⟩

theorem exists_node_of_mem_evaluateAll {s : Scope} {w : Warning} : ∀ es : List Expr,
    ∀ outcome ∈ evaluateAll s es, w ∈ outcome.warnings →
      ∃ e ∈ es, ∃ o args, Node (.op o args) e ∧ w ∈ (o.refuse args.length).warnings
  | [], _, h, _ => by cases h
  | e :: rest, outcome, h, hw => by
    rcases List.mem_cons.1 h with rfl | h
    · exact ⟨e, List.mem_cons_self, exists_node_of_mem_warnings e hw⟩
    · obtain ⟨e', he', hnode⟩ := exists_node_of_mem_evaluateAll rest outcome h hw
      exact ⟨e', List.mem_cons_of_mem _ he', hnode⟩

end

theorem isEvaluation_of_mem_warnings {s : Scope} {w : Warning} (e : Expr)
    (h : w ∈ (e.evaluate s).warnings) : w.isEvaluation = true := by
  obtain ⟨o, args, -, hrefuse⟩ := exists_node_of_mem_warnings e h
  exact Operator.isEvaluation_of_mem_refuse hrefuse

/-- Evaluation of a known expression meets no unknown operator. -/
theorem Known.not_unknownOperator {e : Expr} (h : e.Known) (s : Scope) (name : String) :
    Warning.unknownOperator name ∉ (e.evaluate s).warnings := by
  intro hw
  obtain ⟨o, args, hnode, hrefuse⟩ := exists_node_of_mem_warnings e hw
  rw [Operator.eq_unknown_of_mem_refuse hrefuse] at hnode
  exact h name args hnode

end Expr

end FormEngine
