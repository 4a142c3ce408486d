import FormEngine.Expr.Coercion
import FormEngine.Warning

/-!
# Operators

An operator is a relation between two values, a connective, a test of one value or a choice. A
name outside the vocabulary is an operator too, one that no list of arguments satisfies.
-/

namespace FormEngine

/-- Relations between two values. -/
inductive Relation where
  | equal
  | strictEqual
  | notEqual
  | strictNotEqual
  | greater
  | greaterOrEqual
  | less
  | lessOrEqual
  | memberOf
  | contains
  | startsWith
  | endsWith
  deriving DecidableEq, Repr

namespace Relation

def name : Relation → String
  | .equal => "=="
  | .strictEqual => "==="
  | .notEqual => "!="
  | .strictNotEqual => "!=="
  | .greater => ">"
  | .greaterOrEqual => ">="
  | .less => "<"
  | .lessOrEqual => "<="
  | .memberOf => "in"
  | .contains => "contains"
  | .startsWith => "startsWith"
  | .endsWith => "endsWith"

/-- Whether the relation holds; an order relation needs comparable values. -/
def holds : Relation → Value → Value → Bool
  | .equal, a, b => a.looseEqual b
  | .notEqual, a, b => !a.looseEqual b
  | .strictEqual, a, b => a.strictEqual b
  | .strictNotEqual, a, b => !a.strictEqual b
  | .greater, a, b => a.order? b == some .gt
  | .greaterOrEqual, a, b => a.order? b == some .gt || a.order? b == some .eq
  | .less, a, b => a.order? b == some .lt
  | .lessOrEqual, a, b => a.order? b == some .lt || a.order? b == some .eq
  | .memberOf, a, b => b.holds a
  | .contains, a, b => a.holds b
  | .startsWith, a, b => a.textRelation Text.startsWith b
  | .endsWith, a, b => a.textRelation Text.endsWith b

end Relation

/-- The operators of expressions. -/
inductive Operator where
  | relation (r : Relation)
  | and
  | or
  | not
  | empty
  | count
  | choose
  | unknown (name : String)
  deriving DecidableEq, Repr

namespace Operator

/-- The operator of a name; `!` and `?:` are second names of `not` and `if`. -/
def ofName (name : String) : Operator :=
  match name with
  | "==" => .relation .equal
  | "===" => .relation .strictEqual
  | "!=" => .relation .notEqual
  | "!==" => .relation .strictNotEqual
  | ">" => .relation .greater
  | ">=" => .relation .greaterOrEqual
  | "<" => .relation .less
  | "<=" => .relation .lessOrEqual
  | "in" => .relation .memberOf
  | "contains" => .relation .contains
  | "startsWith" => .relation .startsWith
  | "endsWith" => .relation .endsWith
  | "and" => .and
  | "or" => .or
  | "not" | "!" => .not
  | "empty" => .empty
  | "count" => .count
  | "if" | "?:" => .choose
  | other => .unknown other

def name : Operator → String
  | .relation r => r.name
  | .and => "and"
  | .or => "or"
  | .not => "not"
  | .empty => "empty"
  | .count => "count"
  | .choose => "if"
  | .unknown name => name

/-- How many arguments the operator takes; an unknown one takes none at all. -/
def arity? : Operator → Option Arity
  | .relation _ => some (.exactly 2)
  | .not | .empty | .count => some (.exactly 1)
  | .and | .or => some (.atLeast 1)
  | .choose => some (.atLeast 2)
  | .unknown _ => none

def isUnknown : Operator → Bool
  | .unknown _ => true
  | _ => false

theorem ofName_name {o : Operator} (h : o.isUnknown = false) : ofName o.name = o := by
  cases o with
  | relation r => cases r <;> rfl
  | unknown name => simp [isUnknown] at h
  | _ => rfl

end Operator

end FormEngine
