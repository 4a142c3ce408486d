import FormEngine.Expr.Evaluate
import FormEngine.Proofs.Double.Integers
import FormEngine.Validation.Check

/-!
# Comparing integers

Relations of expressions, the search for an item and the bounds of validators look at numbers as
doubles. `ComparesAs a b o` says that all of them take the integers `a` and `b` to stand in the
order `o`. The order they take is that of the integers, but integers that are rounded to one number
are equal (`integers_compare_rounded`), which happens from `2 ^ 53` on
(`integers_compare_not_exactly`).
-/

namespace FormEngine

/-- What a relation that compares says of two numbers that stand in an order. -/
def Relation.ofOrdering? : Relation → Ordering → Option Bool
  | .equal, o | .strictEqual, o => some (o == .eq)
  | .notEqual, o | .strictNotEqual, o => some (o != .eq)
  | .greater, o => some (o == .gt)
  | .greaterOrEqual, o => some (o != .lt)
  | .less, o => some (o == .lt)
  | .lessOrEqual, o => some (o != .gt)
  | .memberOf, _ | .contains, _ | .startsWith, _ | .endsWith, _ => none

/-- A document is an expression that has this truth value in every scope, without a warning. -/
def Expr.Answers (document : Value) (answer : Bool) : Prop :=
  ∃ e, ofJson document = .ok e ∧ ∀ s, e.evaluate s = .pure (.bool answer)

theorem Expr.Answers.unique {document : Value} {answer answer' : Bool}
    (h : Answers document answer) (h' : Answers document answer') : answer = answer' := by
  obtain ⟨e, he, hvalue⟩ := h
  obtain ⟨e', he', hvalue'⟩ := h'
  rw [he] at he'
  cases he'
  have hpure := (hvalue ⟨[], [], [], .fallback⟩).symm.trans (hvalue' _)
  exact Value.bool.inj (congrArg Outcome.value hpure)

theorem Validator.boundOrNull_of_eq_some {v : Validator} {bound : Value}
    (h : v.bound = some bound) : v.boundOrNull = bound := by
  rw [boundOrNull, h]
  rfl

namespace Number

open Double FormEngine.Expr

/-- The expression that applies an operator to an integer and another operand. -/
def applied (name : String) (a : Int) (operand : Value) : Value :=
  .object [(name, .array [.number (.int a), operand])]

/-- Every comparison of `a` with `b` comes out as the order `o` says. -/
structure ComparesAs (a b : Int) (o : Ordering) : Prop where
  relation : ∀ (r : Relation) (answer : Bool), r.ofOrdering? o = some answer →
    Answers (applied r.name a (.number (.int b))) answer
  member : Answers (applied "in" a (.array [.number (.int b)])) (o == .eq)
  least : ∀ v : Validator, v.kind = .min → v.bound = some (.number (.int b)) →
    ∀ checks values field,
      v.judge checks values field (.number (.int a)) = .ofBool (o != .lt)
  most : ∀ v : Validator, v.kind = .max → v.bound = some (.number (.int b)) →
    ∀ checks values field,
      v.judge checks values field (.number (.int a)) = .ofBool (o != .gt)

section Values

variable (a b : Int)

theorem order?_int :
    (Value.number (.int a)).order? (.number (.int b)) =
      some (compare (ofInt a).key (ofInt b).key) := rfl

theorem strictEqual_int :
    (Value.number (.int a)).strictEqual (.number (.int b)) =
      (compare (ofInt a).key (ofInt b).key == .eq) := by
  show ((ofInt a).key == (ofInt b).key) = _
  rw [Bool.eq_iff_iff, beq_iff_eq, beq_iff_eq, compare_eq_iff_eq]

theorem looseEqual_int :
    (Value.number (.int a)).looseEqual (.number (.int b)) =
      (compare (ofInt a).key (ofInt b).key == .eq) := by
  rw [← strictEqual_int]
  exact Bool.or_self _

theorem holds_int {r : Relation} {answer : Bool}
    (h : r.ofOrdering? (compare (ofInt a).key (ofInt b).key) = some answer) :
    r.holds (.number (.int a)) (.number (.int b)) = answer := by
  generalize ho : compare (ofInt a).key (ofInt b).key = o at h
  cases r <;>
    simp only [Relation.ofOrdering?, Option.some.injEq, reduceCtorEq] at h <;>
    simp only [Relation.holds, strictEqual_int, looseEqual_int, order?_int, ho, ← h] <;>
    cases o <;> rfl

theorem holds_member_int :
    Relation.memberOf.holds (.number (.int a)) (.array [.number (.int b)]) =
      (compare (ofInt a).key (ofInt b).key == .eq) := by
  show ([Value.number (.int b)].any fun item => item.looseEqual (.number (.int a))) = _
  rw [List.any_cons, List.any_nil, Bool.or_false, looseEqual_int, Bool.eq_iff_iff, beq_iff_eq,
    beq_iff_eq, compare_eq_iff_eq, compare_eq_iff_eq, eq_comm]

end Values

theorem answers_applied {r : Relation} {a : Int} {operand v : Value} {e : Expr}
    (he : ofJson operand = .ok e) (hv : ∀ s, e.evaluate s = .pure v) :
    Answers (applied r.name a operand) (r.holds (.number (.int a)) v) := by
  refine ⟨.op (.relation r) [.literal (.number (.int a)), e], ?_, fun s => ?_⟩
  · have hname : r.name ≠ "var" := by cases r <;> decide
    have hitems : ofItems [.number (.int a), operand] = .ok [.literal (.number (.int a)), e] := by
      rw [ofItems, ofItems, he]
      rfl
    rw [applied, ofJson, ofMembers, if_neg hname, ofOperand, hitems]
    exact congrArg (fun o => Except.ok (op o _)) (Operator.ofName_name (o := .relation r) rfl)
  · rw [evaluate, evaluateAll, evaluateAll, evaluateAll, hv]
    rfl

/-- Integers are compared as their doubles. -/
theorem comparesAs_keys (a b : Int) : ComparesAs a b (compare (ofInt a).key (ofInt b).key) where
  relation r answer h := by
    rw [← holds_int a b h]
    exact answers_applied rfl fun _ => rfl
  member := by
    rw [← holds_member_int]
    exact answers_applied (r := .memberOf) (e := .list [.literal (.number (.int b))]) rfl
      fun _ => rfl
  least v hkind hbound checks values field := by
    unfold Validator.judge Validator.judgeGiven
    rw [hkind, Validator.boundOrNull_of_eq_some hbound]
    rfl
  most v hkind hbound checks values field := by
    unfold Validator.judge Validator.judgeGiven
    rw [hkind, Validator.boundOrNull_of_eq_some hbound]
    rfl

/-- Two integers compare in their own order, except that integers that are rounded to one number
are equal to every comparison. Such integers lie beyond `2 ^ 53`, but for one of them that may lie
on it, and are at most 2048 apart. -/
theorem integers_compare_rounded {a b : Int} (ha : InRange a) (hb : InRange b) :
    ComparesAs a b (if significant a = significant b then .eq else compare a b) ∧
    (significant a = significant b → a ≠ b →
      2 ^ 53 ≤ a.natAbs ∧ 2 ^ 53 ≤ b.natAbs ∧ (2 ^ 53 < a.natAbs ∨ 2 ^ 53 < b.natAbs) ∧
        (a - b).natAbs ≤ 2048) := by
  constructor
  · rw [← compare_ofInt ha hb]
    exact comparesAs_keys a b
  · intro h hne
    obtain ⟨hla, hlb, hone⟩ := large_of_significant_eq h hne
    exact ⟨hla, hlb, hone, close_of_significant_eq ha hb h⟩

theorem greatest_integers_compare_rounded :
    InRange (2 ^ 64 - 1) ∧ InRange (2 ^ 64 - 2) ∧ ComparesAs (2 ^ 64 - 1) (2 ^ 64 - 2) .eq := by
  have ha : InRange (2 ^ 64 - 1) := by unfold InRange; omega
  have hb : InRange (2 ^ 64 - 2) := by unfold InRange; omega
  refine ⟨ha, hb, ?_⟩
  have h := (integers_compare_rounded ha hb).1
  rwa [if_pos (by decide)] at h

/-- Comparisons do not tell `2 ^ 53` from the next integer. -/
theorem integers_compare_not_exactly :
    ¬ ∀ a b, InRange a → InRange b → ComparesAs a b (compare a b) := by
  intro h
  have hlt : compare (2 ^ 53 : Int) (2 ^ 53 + 1) = .lt := compare_lt_iff_lt.2 (by omega)
  have hkeys := (comparesAs_keys (2 ^ 53) (2 ^ 53 + 1)).relation .strictEqual
  have hexact := (h (2 ^ 53) (2 ^ 53 + 1) (by unfold InRange; omega)
    (by unfold InRange; omega)).relation .strictEqual false (by rw [hlt]; rfl)
  have hmerged : compare (ofInt (2 ^ 53)).key (ofInt (2 ^ 53 + 1)).key = .eq := by
    rw [compare_ofInt (by unfold InRange; omega) (by unfold InRange; omega), if_pos (by decide)]
  exact Bool.noConfusion (hexact.unique (hkeys true (by rw [hmerged]; rfl)))

end Number

end FormEngine
