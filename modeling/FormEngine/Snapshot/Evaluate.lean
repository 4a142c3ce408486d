import FormEngine.Snapshot.Apply
import FormEngine.Expr.Evaluate

/-!
# Evaluating rules

Rules are evaluated one after another, writers before readers, and a value that a rule sets is seen
by the rules after it. Nothing is applied: a run of rules is a list of what each rule saw and did.
-/

namespace FormEngine

/-- One evaluation of a rule. -/
structure RuleRun where
  rule : String
  /-- The values of fields that the condition was evaluated on. -/
  seen : Dict Value
  fired : Bool
  actions : List Action
  warnings : List Warning

/-- The actions of a run of rules, in order. -/
def RuleRun.actionsOf (runs : List RuleRun) : List Action := runs.flatMap (·.actions)

/-- The warnings of a run of rules, in order. -/
def RuleRun.warningsOf (runs : List RuleRun) : List Warning := runs.flatMap (·.warnings)

namespace Form

/-- Evaluates a rule on some values of fields. -/
def runRule (f : Form) (params values : Dict Value) (node : RuleNode) : RuleRun :=
  let outcome := node.rule.condition.evaluate (Snapshot.scopeOver f values params)
  { rule := node.rule.id
    seen := values
    fired := outcome.value.truthy
    actions := node.rule.branch outcome.value.truthy
    warnings := outcome.warnings }

/-- The values of fields after what an action sets. -/
def overlay (f : Form) (values : Dict Value) : Action → Dict Value
  | .setValue target value =>
    if f.graph.hasField target then values.insert target value else values
  | _ => values

/-- Evaluates rules in order. -/
def runRules (f : Form) (params : Dict Value) : Dict Value → List RuleNode → List RuleRun
  | _, [] => []
  | values, node :: rest =>
    let run := f.runRule params values node
    run :: runRules f params (run.actions.foldl f.overlay values) rest

end Form

namespace Snapshot

/-- Evaluates the rules of a list of ids with some params, writers first. -/
def evaluateWith (s : Snapshot) (params : Dict Value) (ids : List String) : List RuleRun :=
  s.form.runRules params s.values ((s.form.graph.sortRules ids).filterMap s.form.graph.rule?)

/-- Evaluates the rules of a list of ids, writers first. -/
def evaluate (s : Snapshot) (ids : List String) : List RuleRun :=
  s.evaluateWith s.form.params ids

/-- The declared fields that actions would change, in the order of first mention. -/
def changedBy (s : Snapshot) (actions : List Action) : List String :=
  distinct (actions.filterMap fun
    | .setValue target value =>
      if s.form.graph.hasField target &&
          !(s.values.get? target).any fun old => old.same value then some target else none
    | _ => none)

end Snapshot

end FormEngine
