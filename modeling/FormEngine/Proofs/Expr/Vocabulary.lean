import FormEngine.Expr.Evaluate

/-!
# The vocabulary of expressions

The nodes of an expression are the expression itself and the nodes of its items and operands
(`Expr.Node`); a default of a variable is a value and has none. An expression is known when no node
applies an unknown operator (`Expr.Known`). The walk `unknownOperators` reports exactly the unknown
operators of nodes, so an expression is known when it reports none (`known_iff`).
-/

namespace FormEngine

namespace Expr

/-- Parts of an expression that evaluation may meet. -/
inductive Node : Expr → Expr → Prop where
  | self (e : Expr) : Node e e
  | item {n e : Expr} {items : List Expr} (he : e ∈ items) (h : Node n e) : Node n (.list items)
  | operand {n e : Expr} {o : Operator} {args : List Expr} (he : e ∈ args) (h : Node n e) :
    Node n (.op o args)

/-- No part applies an unknown operator. -/
def Known (e : Expr) : Prop := ∀ name args, ¬ Node (.op (.unknown name) args) e

/-! ## The walk over an expression -/

mutual

theorem mem_unknowns {name : String} : ∀ e : Expr,
    name ∈ e.unknowns ↔ ∃ args, Node (.op (.unknown name) args) e
  | .literal v => by
    constructor
    · intro h
      cases h
    · rintro ⟨args, h⟩
      cases h
  | .var path fallback => by
    constructor
    · intro h
      cases h
    · rintro ⟨args, h⟩
      cases h
  | .list items => by
    rw [unknowns, mem_unknownsOf items]
    constructor
    · rintro ⟨e, he, args, h⟩
      exact ⟨args, .item he h⟩
    · rintro ⟨args, h⟩
      cases h with
      | item he h => exact ⟨_, he, args, h⟩
  | .op o args => by
    have hargs : name ∈ (op o args).unknowns ↔ o = .unknown name ∨ name ∈ unknownsOf args := by
      cases o <;> simp [unknowns, eq_comm]
    rw [hargs, mem_unknownsOf args]
    constructor
    · rintro (rfl | ⟨e, he, args', h⟩)
      · exact ⟨args, .self _⟩
      · exact ⟨args', .operand he h⟩
    · rintro ⟨args', h⟩
      cases h with
      | self => exact .inl rfl
      | operand he h => exact .inr ⟨_, he, args', h⟩

theorem mem_unknownsOf {name : String} : ∀ es : List Expr,
    name ∈ unknownsOf es ↔ ∃ e ∈ es, ∃ args, Node (.op (.unknown name) args) e
  | [] => by simp [unknownsOf]
  | e :: rest => by
    rw [unknownsOf, List.mem_append, mem_unknowns e, mem_unknownsOf rest]
    simp only [List.mem_cons, or_and_right, exists_or, exists_eq_left]

end

theorem known_iff {e : Expr} : e.Known ↔ e.unknownOperators = [] := by
  rw [List.eq_nil_iff_forall_not_mem]
  refine forall_congr' fun name => ?_
  rw [unknownOperators, mem_distinct, mem_unknowns, not_exists]

end Expr

end FormEngine
