import FormEngine.Expr.Basic
import FormEngine.Expr.Scope

/-!
# Evaluation

Every expression has an `Outcome` in every scope: a value and the warnings that came up on the way
to it. An operator combines the outcomes of its operands, and `and`, `or` and `if` take over the
warnings of those operands only that decide the result. A node with a wrong number of operands is
null, and one with an unknown operator is false; both warn and take over nothing.
-/

namespace FormEngine

/-- The value of an expression and the warnings it raised. -/
structure Outcome where
  value : Value
  warnings : List Warning

namespace Outcome

def pure (v : Value) : Outcome := ⟨v, []⟩

/-- The second outcome, after the warnings of the first. -/
def andThen (first second : Outcome) : Outcome :=
  ⟨second.value, first.warnings ++ second.warnings⟩

/-- A function of one value. -/
def map (f : Value → Value) (o : Outcome) : Outcome := ⟨f o.value, o.warnings⟩

/-- The first operand that is not true, or else the last one. -/
def all : List Outcome → Outcome
  | [] => pure (.bool true)
  | [o] => o
  | o :: rest => if o.value.truthy then o.andThen (all rest) else o

/-- The first operand that is true, or else the last one. -/
def any : List Outcome → Outcome
  | [] => pure (.bool false)
  | [o] => o
  | o :: rest => if o.value.truthy then o else o.andThen (any rest)

/-- Pairs of a condition and a result, then at most one default. -/
def choose : List Outcome → Outcome
  | [] => pure .null
  | [fallback] => fallback
  | condition :: result :: rest =>
    condition.andThen (if condition.value.truthy then result else choose rest)

end Outcome

namespace Operator

/-- The outcome of an operator on fitting operands; none when their number does not fit. -/
def run? : Operator → List Outcome → Option Outcome
  | .relation r, [a, b] => some ⟨.bool (r.holds a.value b.value), a.warnings ++ b.warnings⟩
  | .and, o :: rest => some (Outcome.all (o :: rest))
  | .or, o :: rest => some (Outcome.any (o :: rest))
  | .not, [o] => some (o.map fun v => .bool !v.truthy)
  | .empty, [o] => some (o.map fun v => .bool v.isEmpty)
  | .count, [o] => some (o.map fun v => .number (.int v.count))
  | .choose, a :: b :: rest => some (Outcome.choose (a :: b :: rest))
  | _, _ => none

/-- The outcome of an operator that cannot run on so many operands. -/
def refuse (o : Operator) (found : Nat) : Outcome :=
  match o.arity? with
  | some arity => ⟨.null, [.arity o.name arity found]⟩
  | none => ⟨.bool false, [.unknownOperator o.name]⟩

/-- The outcome of an operator. -/
def apply (o : Operator) (operands : List Outcome) : Outcome :=
  (o.run? operands).getD (o.refuse operands.length)

theorem run?_isSome (o : Operator) (operands : List Outcome) :
    (o.run? operands).isSome = o.arity?.any (·.accepts operands.length) := by
  rcases operands with _ | ⟨a, _ | ⟨b, _ | ⟨c, rest⟩⟩⟩ <;> cases o <;>
    simp [run?, arity?, Arity.accepts]

end Operator

namespace Expr

mutual

/-- The outcome of an expression in a scope. -/
def evaluate (s : Scope) : Expr → Outcome
  | .literal v => .pure v
  | .list items =>
    let outcomes := evaluateAll s items
    ⟨.array (outcomes.map (·.value)), outcomes.flatMap (·.warnings)⟩
  | .var path fallback => .pure (((s.resolve? path).or fallback).getD .null)
  | .op o args => o.apply (evaluateAll s args)

def evaluateAll (s : Scope) : List Expr → List Outcome
  | [] => []
  | e :: rest => e.evaluate s :: evaluateAll s rest

end

theorem evaluateAll_eq_map (s : Scope) (es : List Expr) :
    evaluateAll s es = es.map (evaluate s) := by
  induction es with
  | nil => rfl
  | cons e rest ih => simp [evaluateAll, ih]

end Expr

end FormEngine
