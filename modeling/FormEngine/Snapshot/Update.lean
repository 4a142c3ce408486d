import FormEngine.Snapshot.Start

/-!
# Updates

An update sets one field and evaluates the rules that read it, then the rules that read what those
have changed, and so on: a cascade of passes. It ends when nothing more has changed, when nothing
reads what has changed, or at the limit on passes.
-/

namespace FormEngine

/-- One pass of a cascade: the evaluation of its rules and the fields that their actions change. -/
structure Pass where
  runs : List RuleRun
  changed : List String

/-- The passes of an update, the state they lead to, and whether the limit cut them off. -/
structure Cascade where
  passes : List Pass
  last : Snapshot
  limited : Bool

namespace Cascade

def warnings (c : Cascade) : List Warning :=
  c.passes.flatMap fun p => RuleRun.warningsOf p.runs

/-- The cascade with one more pass in front. -/
def after (p : Pass) (c : Cascade) : Cascade := { c with passes := p :: c.passes }

end Cascade

namespace Snapshot

/-- The rules that read one of some fields, in the order of first mention. -/
def triggered (s : Snapshot) (changed : List String) : List String :=
  distinct (changed.flatMap s.form.graph.rulesFor)

/-- One pass over some rules. -/
def pass (s : Snapshot) (ids : List String) : Pass :=
  let runs := s.evaluate ids
  ⟨runs, s.changedBy (RuleRun.actionsOf runs)⟩

/-- The state after a pass. -/
def afterPass (s : Snapshot) (p : Pass) : Snapshot := s.applyAll (RuleRun.actionsOf p.runs)

/-- The cascade from some changed fields, with at most so many passes. -/
def cascade : Nat → Snapshot → List String → Cascade
  | _, s, [] => ⟨[], s, false⟩
  | 0, s, _ :: _ => ⟨[], s, true⟩
  | limit + 1, s, field :: others =>
    let ids := s.triggered (field :: others)
    if ids.isEmpty then ⟨[], s, false⟩
    else
      let p := s.pass ids
      (cascade limit (s.afterPass p) p.changed).after p

/-- The state in which the cascade of an update begins. -/
def edited (s : Snapshot) (field : String) (value : Value) : Snapshot :=
  { s with values := s.values.insert field value, warnings := [] }

/-- The cascade of an update. -/
def cascadeOf (s : Snapshot) (field : String) (value : Value) : Cascade :=
  cascade s.form.config.maxPasses (s.edited field value) [field]

/-- All warnings of an update: those of its passes, and one if the limit cut it off. -/
def updateWarnings (s : Snapshot) (field : String) (c : Cascade) : List Warning :=
  c.warnings ++ if c.limited then [.passLimit field s.form.config.maxPasses] else []

/-- Sets a field and lets the rules follow. -/
def update (s : Snapshot) (field : String) (value : Value) : Except EngineError Snapshot :=
  if s.form.graph.hasField field then
    let c := s.cascadeOf field value
    let warnings := s.updateWarnings field c
    if s.form.discards warnings then .error (.evaluationDiscarded warnings)
    else .ok { c.last with warnings := warnings }
  else .error (.unknownField field)

end Snapshot

end FormEngine
