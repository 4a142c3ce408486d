import FormEngine.Expr.Evaluate

/-!
# Connectives of many operands

`and` and `or` walk over their operands up to the first one that decides (`firstStop`), and differ
only in what decides (`Operator.Walks`). So one law holds of both: the operands after the first may
be grouped (`Walks.evaluate_cons`), and a negation goes to the operands, where it turns the one walk
into the other (`Walks.evaluate_negated`). A choice walks over its pairs. All laws are about
outcomes: the value, and the warnings of the operands that were reached.

By these laws a connective of many operands is a nest of binary ones (`Walks.evaluate_nested`), and
a choice of many pairs a nest of choices of one pair (`evaluate_branches`).
-/

namespace FormEngine

namespace Outcome

/-- The first outcome whose value stops the walk, or else the last one, after the warnings of those
before it. -/
def firstStop (stop : Value → Bool) (o : Outcome) : List Outcome → Outcome
  | [] => o
  | next :: rest => if stop o.value then o else o.andThen (firstStop stop next rest)

theorem all_cons (o : Outcome) (rest : List Outcome) :
    all (o :: rest) = firstStop (fun v => !v.truthy) o rest := by
  induction rest generalizing o with
  | nil => rfl
  | cons next rest ih =>
    rw [all, firstStop, ih next]
    · cases o.value.truthy <;> rfl
    · exact List.cons_ne_nil _ _

theorem any_cons (o : Outcome) (rest : List Outcome) :
    any (o :: rest) = firstStop Value.truthy o rest := by
  induction rest generalizing o with
  | nil => rfl
  | cons next rest ih =>
    rw [any, firstStop, ih next]
    exact List.cons_ne_nil _ _

theorem map_firstStop {stop stop' : Value → Bool} {f : Value → Value}
    (hstop : ∀ v, stop' (f v) = stop v) (o : Outcome) (rest : List Outcome) :
    (firstStop stop o rest).map f = firstStop stop' (o.map f) (rest.map (map f)) := by
  induction rest generalizing o with
  | nil => rfl
  | cons next rest ih =>
    rw [List.map_cons, firstStop, firstStop, ← ih next]
    simp only [map, hstop]
    split <;> rfl

end Outcome

namespace Operator

/-- The operator walks over its operands up to the first one that stops. -/
def Walks (o : Operator) (stop : Value → Bool) : Prop :=
  ∀ first rest, o.apply (first :: rest) = Outcome.firstStop stop first rest

theorem walks_and : Walks .and fun v => !v.truthy := Outcome.all_cons

theorem walks_or : Walks .or Value.truthy := Outcome.any_cons

end Operator

namespace Expr

theorem evaluate_op (s : Scope) (o : Operator) (args : List Expr) :
    (op o args).evaluate s = o.apply (args.map (evaluate s)) := by
  rw [evaluate, evaluateAll_eq_map]

theorem evaluate_not (s : Scope) (e : Expr) :
    (op .not [e]).evaluate s = (e.evaluate s).map fun v => .bool !v.truthy :=
  rfl

/-- A nest of nodes with two operands. -/
def nested (o : Operator) : Expr → List Expr → Expr
  | x, [] => x
  | x, y :: rest => op o [x, nested o y rest]

/-- A nest of choices of one pair. -/
def branches : Expr → Expr → List Expr → Expr
  | c, v, c' :: v' :: rest => op .choose [c, v, branches c' v' rest]
  | c, v, fallback => op .choose (c :: v :: fallback)

end Expr

/-! ## Walks -/

namespace Operator.Walks

open FormEngine.Expr (evaluate_op evaluate_not nested)

variable {o o' : Operator} {stop stop' : Value → Bool}

/-- The operands after the first may be grouped. -/
theorem evaluate_cons (h : o.Walks stop) (s : Scope) (x : Expr) {rest : List Expr}
    (hrest : rest ≠ []) :
    (Expr.op o (x :: rest)).evaluate s = (Expr.op o [x, .op o rest]).evaluate s := by
  obtain ⟨y, rest, rfl⟩ := List.exists_cons_of_ne_nil hrest
  simp only [evaluate_op, List.map_cons, List.map_nil]
  rw [h, h, h]
  rfl

/-- A negated walk is a walk over negated operands, with what stops it negated too. -/
theorem evaluate_negated (h : o.Walks stop) (h' : o'.Walks stop')
    (hstop : ∀ v : Value, stop' (.bool !v.truthy) = stop v) (s : Scope) (x : Expr)
    (rest : List Expr) :
    (Expr.op .not [.op o (x :: rest)]).evaluate s =
      (Expr.op o' ((x :: rest).map fun e => .op .not [e])).evaluate s := by
  rw [evaluate_not, evaluate_op, evaluate_op]
  simp only [List.map_cons, List.map_map]
  rw [h, h', Outcome.map_firstStop hstop, List.map_map]
  rfl

/-- An operator of many operands is a nest of operators of two. -/
theorem evaluate_nested (h : o.Walks stop) (s : Scope) (x : Expr) (rest : List Expr) :
    (Expr.op o (x :: rest)).evaluate s = (nested o x rest).evaluate s := by
  induction rest generalizing x with
  | nil =>
    rw [evaluate_op]
    exact h (x.evaluate s) []
  | cons y rest ih =>
    rw [h.evaluate_cons s x (List.cons_ne_nil y rest), nested, evaluate_op, evaluate_op]
    simp only [List.map_cons, List.map_nil, ih]

end Operator.Walks

namespace Expr

/-! ## Choices -/

theorem evaluate_choose_cons (s : Scope) (c v : Expr) {rest : List Expr}
    (hrest : 2 ≤ rest.length) :
    (op .choose (c :: v :: rest)).evaluate s =
      (op .choose [c, v, op .choose rest]).evaluate s := by
  match rest with
  | _ :: _ :: _ => rfl
  | [_] => simp at hrest
  | [] => simp at hrest

/-- A choice of many pairs is a nest of choices of one. -/
theorem evaluate_branches (s : Scope) (c v : Expr) (rest : List Expr) :
    (op .choose (c :: v :: rest)).evaluate s = (branches c v rest).evaluate s := by
  fun_induction branches c v rest with
  | case1 c v c' v' rest ih =>
    rw [evaluate_choose_cons s c v (by simp), evaluate_op, evaluate_op]
    simp only [List.map_cons, List.map_nil, ih]
  | case2 => rfl

/-! ## The laws of the connectives -/

/-- The operands of a connective after the first may be grouped, and so may what follows the first
pair of a choice; a negation goes to the operands of a connective. Both sides have the same value
and the same warnings in the same order, in every scope. -/
theorem connectives_nest (s : Scope) :
    (∀ x rest, rest ≠ [] →
      (op .and (x :: rest)).evaluate s = (op .and [x, op .and rest]).evaluate s ∧
        (op .or (x :: rest)).evaluate s = (op .or [x, op .or rest]).evaluate s) ∧
    (∀ c v rest, 2 ≤ rest.length →
      (op .choose (c :: v :: rest)).evaluate s =
        (op .choose [c, v, op .choose rest]).evaluate s) ∧
    ∀ x rest,
      (op .not [op .and (x :: rest)]).evaluate s =
          (op .or ((x :: rest).map fun e => op .not [e])).evaluate s ∧
        (op .not [op .or (x :: rest)]).evaluate s =
          (op .and ((x :: rest).map fun e => op .not [e])).evaluate s := by
  have hand := Operator.walks_and
  have hor := Operator.walks_or
  refine ⟨fun x rest hrest => ?_, fun c v rest hrest => ?_, fun x rest => ⟨?_, ?_⟩⟩
  · exact ⟨hand.evaluate_cons s x hrest, hor.evaluate_cons s x hrest⟩
  · exact evaluate_choose_cons s c v hrest
  · exact hand.evaluate_negated hor (fun _ => rfl) s x rest
  · exact hor.evaluate_negated hand (fun _ => Bool.not_not _) s x rest

/-- An operator nobody knows, a count of nothing, and a text. -/
def nearby : List Expr :=
  [op (.unknown "near") [.var "city" none], op .count [], .literal (.string "far")]

theorem connectives_nest_nearby :
    nearby ≠ [] ∧ 2 ≤ nearby.length ∧
      (op .and [.literal (.bool true), op .and nearby]).evaluate ⟨[], [], [], .strict⟩ =
        ⟨.bool false, [.unknownOperator "near"]⟩ ∧
      (op .choose [.var "paid" none, .literal .null, op .choose nearby]).evaluate
        ⟨[], [], [], .strict⟩ = ⟨.string "far", [.unknownOperator "near"]⟩ := by
  have hnil : nearby ≠ [] := List.cons_ne_nil _ _
  have hlength : 2 ≤ nearby.length := by decide
  obtain ⟨hgroup, hchoice, -⟩ := connectives_nest ⟨[], [], [], .strict⟩
  refine ⟨hnil, hlength, ?_, ?_⟩
  · rw [← (hgroup _ nearby hnil).1]
    rfl
  · rw [← hchoice _ _ nearby hlength]
    rfl

end Expr

end FormEngine
