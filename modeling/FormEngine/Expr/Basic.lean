import FormEngine.Expr.Operator
import FormEngine.Distinct
import FormEngine.Unicode.NextEdition

/-!
# Expressions

An expression is written as a JSON value: scalars and the empty object are literals, arrays are
lists of expressions, and an object with one member is a node. The node `var` reads a variable and
may carry a default, which is kept as it is; any other node applies an operator to one operand or
to an array of operands. `toJson` writes the one canonical form.
-/

namespace FormEngine

/-- A condition or computed value. -/
inductive Expr where
  | literal (v : Value)
  | list (items : List Expr)
  | var (path : String) (fallback : Option Value)
  | op (o : Operator) (args : List Expr)
  deriving Inhabited, Repr

/-- Why a value is not an expression. -/
inductive ExprError where
  /-- A node needs exactly one member; these keys were found. -/
  | notAnOperator (keys : List String)
  | invalidVar (operand : String)
  deriving DecidableEq, Repr

def ExprError.message : ExprError → String
  | .notAnOperator keys =>
    "expression object must have exactly one operator key, found [" ++
      String.intercalate ", " (keys.map Unicode.quoted) ++ "]"
  | .invalidVar operand => s!"invalid var reference: {operand}"

namespace Expr

/-- The variable node of an operand: a path, or an array of a path and at most one default. -/
def var? : Value → Except ExprError Expr
  | .string path => .ok (.var path none)
  | .array [.string path] => .ok (.var path none)
  | .array [.string path, fallback] => .ok (.var path (some fallback))
  | .array _ => .error (.invalidVar "expected [path, default?]")
  | other => .error (.invalidVar other.text)

mutual

/-- Reads an expression. -/
def ofJson : Value → Except ExprError Expr
  | .array items => (ofItems items).map .list
  | .object members => ofMembers members
  | scalar => .ok (.literal scalar)

/-- Reads the members of an object: none for a literal, one for a node. -/
def ofMembers : List (String × Value) → Except ExprError Expr
  | [] => .ok (.literal (.object []))
  | [(name, operand)] =>
    if name = "var" then var? operand
    else (ofOperand operand).map (.op (Operator.ofName name))
  | members => .error (.notAnOperator (Dict.keys members))

/-- Reads the operands of a node. -/
def ofOperand : Value → Except ExprError (List Expr)
  | .array items => ofItems items
  | .object members => (ofMembers members).map ([·])
  | scalar => .ok [.literal scalar]

def ofItems : List Value → Except ExprError (List Expr)
  | [] => .ok []
  | v :: rest => do
    let e ← ofJson v
    let es ← ofItems rest
    return e :: es

end

mutual

/-- Writes the canonical form: operands always in an array, operators by their first name. -/
def toJson : Expr → Value
  | .literal v => v
  | .list items => .array (toItems items)
  | .var path none => .object [("var", .string path)]
  | .var path (some fallback) => .object [("var", .array [.string path, fallback])]
  | .op o args => .object [(o.name, .array (toItems args))]

def toItems : List Expr → List Value
  | [] => []
  | e :: rest => e.toJson :: toItems rest

end

/-! ## Nodes -/

mutual

/-- Paths of the variable nodes, in order, with repetitions. -/
def mentions : Expr → List String
  | .literal _ => []
  | .list items => mentionsOf items
  | .var path _ => [path]
  | .op _ args => mentionsOf args

def mentionsOf : List Expr → List String
  | [] => []
  | e :: rest => e.mentions ++ mentionsOf rest

end

mutual

/-- Names of operators outside the vocabulary, in order, with repetitions. -/
def unknowns : Expr → List String
  | .literal _ => []
  | .list items => unknownsOf items
  | .var _ _ => []
  | .op (.unknown name) args => name :: unknownsOf args
  | .op _ args => unknownsOf args

def unknownsOf : List Expr → List String
  | [] => []
  | e :: rest => e.unknowns ++ unknownsOf rest

end

/-- Every path the expression reads, in the order of first occurrence. -/
def variablePaths (e : Expr) : List String := distinct e.mentions

/-- Every operator name the evaluator does not know, in the order of first occurrence. -/
def unknownOperators (e : Expr) : List String := distinct e.unknowns

end Expr

end FormEngine
