/-!
# Warnings

What a form reports besides its state. Evaluation warnings come from malformed operator nodes;
the others come from the rule graph, from the limit on passes and from validators.
-/

namespace FormEngine

/-- How many arguments an operator takes. -/
inductive Arity where
  | exactly (n : Nat)
  | atLeast (n : Nat)
  deriving DecidableEq, Repr

namespace Arity

def accepts : Arity → Nat → Bool
  | .exactly n, found => found == n
  | .atLeast n, found => n ≤ found

def text : Arity → String
  | .exactly n => toString n
  | .atLeast n => "at least " ++ toString n

end Arity

/-- A condition that does not stop the form. -/
inductive Warning where
  | unknownOperator (operator : String)
  | arity (operator : String) (expected : Arity) (found : Nat)
  | cycle (rules : List String)
  | passLimit (field : String) (passes : Nat)
  | invalidPattern (field : String) (pattern : String)
  | unknownCheck (field : String) (name : String)
  deriving DecidableEq, Repr

namespace Warning

/-- Whether the warning was raised while an expression was evaluated. -/
def isEvaluation : Warning → Bool
  | .unknownOperator _ => true
  | .arity _ _ _ => true
  | _ => false

/-- Rules in a row, with an arrow between two. -/
def chain (rules : List String) : String := String.intercalate " -> " rules

def message : Warning → String
  | .unknownOperator operator => s!"unknown operator '{operator}' evaluated as false"
  | .arity operator expected found =>
    s!"operator '{operator}' expects {expected.text} argument(s), got {found}"
  | .cycle rules => s!"rule cycle: {chain rules}"
  | .passLimit field passes =>
    s!"update of '{field}' stopped after {passes} cascading pass(es)"
  | .invalidPattern field pattern => s!"invalid pattern '{pattern}' on field '{field}'"
  | .unknownCheck field name => s!"unknown custom validator '{name}' on field '{field}'"

end Warning

end FormEngine
