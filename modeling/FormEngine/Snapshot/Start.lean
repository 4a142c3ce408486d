import FormEngine.Snapshot.Evaluate
import FormEngine.Template

/-!
# The first snapshot

A form starts with the defaults of its fields, resolved in document order, with everything visible,
and with one evaluation of all its rules.
-/

namespace FormEngine

/-- Why a step of a form fails. -/
inductive EngineError where
  | schema (e : SchemaError)
  | config (e : ConfigError)
  | unknownField (id : String)
  | evaluationDiscarded (warnings : List Warning)
  | unknownTransform (name : String)
  | transform (name : String) (message : String)
  deriving DecidableEq, Repr

def EngineError.message : EngineError → String
  | .schema e => e.message
  | .config e => e.message
  | .unknownField id => s!"unknown field '{id}'"
  | .evaluationDiscarded warnings =>
    s!"evaluation pass discarded after {warnings.length} warning(s)"
  | .unknownTransform name => s!"unknown transform '{name}'"
  | .transform name message => s!"transform '{name}' failed: {message}"

namespace Schema

/-- The states of groups at the start. -/
def sectionUis (s : Schema) : List (String × SectionUi) :=
  s.sections.flatMap fun g =>
    (g.id, ⟨true, g.disabled⟩) :: g.subsections.map fun h => (h.key, ⟨true, h.disabled⟩)

/-- The state of a field at the start. -/
def fieldUi (f : Field) : FieldUi :=
  { visible := true, disabled := f.disabled, choices := f.listed? }

/-- What a form shows before any rule is evaluated. -/
def startUi (s : Schema) : Ui :=
  ⟨Dict.ofList s.sectionUis, Dict.ofList (s.fields.map fun f => (f.id, fieldUi f))⟩

end Schema

namespace Form

/-- The first value of a field, with the values of earlier fields. -/
def startValue (f : Form) (values : Dict Value) (d : Field) : Value :=
  match d.defaultValue with
  | some v => Template.relaxed (Snapshot.scopeOver f values f.params) v
  | none => d.kind.emptyValue

/-- The first values of all fields. -/
def startValues (f : Form) : Dict Value :=
  f.schema.fields.foldl (fun values d => values.insert d.id (f.startValue values d)) []

/-- The state before any rule is evaluated. -/
def blank (f : Form) : Snapshot :=
  { form := f, values := f.startValues, ui := f.schema.startUi, errors := [], warnings := [] }

/-- The evaluation of all rules at the start. -/
def startRuns (f : Form) : List RuleRun := f.blank.evaluate f.graph.order

/-- Whether warnings undo the step that raised them. -/
def discards (f : Form) (warnings : List Warning) : Bool :=
  f.config.discardOnWarning && warnings.any Warning.isEvaluation

/-- The first snapshot. If evaluation warnings undo a step, the actions of the rules are left out,
but the warnings stay. -/
def start (f : Form) : Snapshot :=
  let warnings := RuleRun.warningsOf f.startRuns
  let s := if f.discards warnings then f.blank
    else f.blank.applyAll (RuleRun.actionsOf f.startRuns)
  { s with warnings := f.graph.cycleWarnings ++ warnings }

/-- The fixed part of a form; globals of the caller override those of the schema. -/
def load (schema : Schema) (globals params : Dict Value) (config : Config) :
    Except EngineError Form := do
  config.validate.mapError .config
  let graph ← (RuleGraph.build schema config).mapError .schema
  return ⟨schema, graph, Dict.insertAll schema.globals globals, params, config⟩

end Form

namespace Snapshot

/-- The first snapshot of a form. -/
def build (schema : Schema) (globals params : Dict Value) (config : Config) :
    Except EngineError Snapshot :=
  (Form.load schema globals params config).map Form.start

/-- A new first snapshot for the same form. -/
def reset (s : Snapshot) : Except EngineError Snapshot :=
  build s.form.schema s.form.globals s.form.params s.form.config

end Snapshot

end FormEngine
