import FormEngine.RuleGraph.Encode
import FormEngine.Snapshot.Start
import FormEngine.Validation.Check
import FormEngine.Validation.Message

/-!
# Validation reports

A validator is active when its field is live and its gate holds; its bound is then filled in from
the snapshot. A report names the first active validator of each field that fails. Writing a report
into a snapshot gives every field the error of the report or none.
-/

namespace FormEngine

/-- The first failing validator of a field. -/
structure FieldError where
  kind : ValidatorKind
  message : String
  deriving DecidableEq, Repr

/-- The errors by field, and the warnings of gates and validators. -/
structure Report where
  errors : Dict FieldError
  warnings : List Warning
  deriving DecidableEq, Repr

namespace Report

open Encode

def valid (r : Report) : Bool := r.errors.isEmpty

/-- An error as a document. -/
def errorValue (e : FieldError) : Value :=
  object [always "kind" (.string e.kind.name), always "message" (.string e.message)]

def encode (r : Report) : Value :=
  object [
    always "valid" (.bool r.valid),
    always "errors" (.object (r.errors.mapValues errorValue)),
    whenAny "warnings" Warning.encode r.warnings]

end Report

namespace Validator

/-- Whether the gate of a validator holds. -/
def isOpen (s : Scope) (v : Validator) : Bool :=
  v.gate.all fun e => (e.evaluate s).value.truthy

/-- The warnings of evaluating a gate. -/
def gateWarnings (s : Scope) (v : Validator) : List Warning :=
  v.gate.toList.flatMap fun e => (e.evaluate s).warnings

/-- The validator with its bound filled in. -/
def filledIn (s : Scope) (v : Validator) : Validator :=
  { v with bound := v.bound.map (Template.relaxed s) }

/-- The first validator that a judge fails, and the warnings of the judge up to there. -/
def firstFailure (judge : Validator → Verdict) : List Validator → Option Validator × List Warning
  | [] => (none, [])
  | v :: rest =>
    match judge v with
    | .failed => (some v, [])
    | .passed => firstFailure judge rest
    | .skipped w =>
      let (failure, warnings) := firstFailure judge rest
      (failure, w :: warnings)

end Validator

namespace Snapshot

/-- The active validators of a field. -/
def activeOf (s : Snapshot) (f : Field) : List Validator :=
  (f.validators.filter (·.isOpen s.scope)).map (·.filledIn s.scope)

/-- The live fields that have active validators, with these, by id. -/
def activeFields (s : Snapshot) : Dict (Field × List Validator) :=
  Dict.ofList ((s.liveFields.map fun f => (f.id, f, s.activeOf f)).filter fun e =>
    !e.2.2.isEmpty)

/-- The active validators by field. -/
def activeValidators (s : Snapshot) : Dict (List Validator) :=
  s.activeFields.mapValues Prod.snd

/-- The warnings of all gates of live fields. -/
def gateWarnings (s : Snapshot) : List Warning :=
  s.liveFields.flatMap fun f => f.validators.flatMap (·.gateWarnings s.scope)

/-- The value of a field, null if it has none. -/
def valueOrNull (s : Snapshot) (field : String) : Value := (s.values.get? field).getD .null

/-- The first failing validator among some of a field, and the warnings up to there. -/
def failureOf (s : Snapshot) (checks : Dict HostCheck) (f : Field) (vs : List Validator) :
    Option Validator × List Warning :=
  Validator.firstFailure (fun v => v.judge checks s.values f (s.valueOrNull f.id)) vs

/-- Validates all live fields. -/
def validate (s : Snapshot) (checks : Dict HostCheck) : Report :=
  let outcomes := s.activeFields.map fun (id, f, vs) => (id, s.failureOf checks f vs)
  { errors := outcomes.filterMap fun (id, failure, _) =>
      failure.map fun v => (id, ⟨v.kind, v.failureMessage⟩)
    warnings := s.gateWarnings ++ outcomes.flatMap fun (_, _, warnings) => warnings }

/-- The actions that write a report. -/
def reportActions (s : Snapshot) (r : Report) : List Action :=
  s.form.schema.fields.map fun f =>
    match r.errors.get? f.id with
    | some e => .setError f.id e.message
    | none => .clearError f.id

/-- Writes a report into the snapshot. -/
def withReport (s : Snapshot) (r : Report) : Snapshot := s.applyAll (s.reportActions r)

/-- The messages of a report, in document order. -/
def reportMessages (s : Snapshot) (r : Report) : List String :=
  s.form.schema.fields.filterMap fun f => (r.errors.get? f.id).map (·.message)

end Snapshot

end FormEngine
