import FormEngine.Choices.Request
import FormEngine.FieldText
import FormEngine.RuleGraph.Encode
import FormEngine.Snapshot.Update
import FormEngine.Submission
import FormEngine.Validation.Report

/-!
# Sessions

A session holds the present snapshot of a form, the first one, and what the host has registered.
Every operation gives a reply and the session after it; one that fails leaves the session as it was.
-/

namespace FormEngine

/-- What is wrong with a patch. -/
inductive PatchFault where
  | notAnObject
  | empty
  deriving DecidableEq, Repr

def PatchFault.message : PatchFault → String
  | .notAnObject => "patch_json must be a JSON object of field id -> value"
  | .empty => "patch_json cannot be empty"

/-- Why an operation of a session fails. -/
inductive SessionError where
  | json
  | schema (e : SchemaError)
  | config (e : ConfigError)
  | engine (e : EngineError)
  | choices (e : ChoiceError)
  | template (e : MissingPath)
  | notAnObject (name : String)
  | invalidPatch (fault : PatchFault)
  deriving DecidableEq, Repr

def SessionError.message : SessionError → String
  | .json => "json parse error"
  | .schema e => e.message
  | .config e => e.message
  | .engine e => e.message
  | .choices e => e.message
  | .template e => e.message
  | .notAnObject name => s!"{name} must be a JSON object"
  | .invalidPatch fault => s!"invalid patch: {fault.message}"

/-- What a session is made from, as texts. -/
structure SessionSource where
  schema : String
  globals : Option String := none
  params : Option String := none
  /-- Settings in TOML, which come before `config`. -/
  toml : Option String := none
  config : Config := {}

/-- A form that is being filled in. -/
structure Session where
  first : Snapshot
  snapshot : Snapshot
  checks : Dict HostCheck := []
  transforms : Dict Transform := []

/-- What a patch has done: the fields it set, and the requests for choices it calls for. -/
structure PatchOutcome where
  changed : List String
  requests : List ChoiceRequest

namespace PatchOutcome

open Encode

def encode (o : PatchOutcome) : Value :=
  object [
    always "changed" (.strings o.changed),
    always "optionRequests" (.array (o.requests.map ChoiceRequest.encode))]

end PatchOutcome

namespace Session

/-- A document from a JSON text. -/
def document (text : String) : Except SessionError Value :=
  match Json.read? text with
  | some v => .ok v
  | none => .error .json

/-- An object from a JSON text that may be absent; null counts as empty. -/
def objectOf (name : String) : Option String → Except SessionError (Dict Value)
  | none => .ok []
  | some text => do
    match ← document text with
    | .object members => return members
    | .null => return []
    | _ => throw (.notAnObject name)

/-- The settings of a session. -/
def configOf (source : SessionSource) : Except SessionError Config :=
  match source.toml with
  | some toml => (Config.ofToml toml).mapError .config
  | none => .ok source.config

/-- Begins a session. -/
def start (source : SessionSource) (checks : Dict HostCheck) (transforms : Dict Transform) :
    Except SessionError Session := do
  let schema ← (Schema.ofText source.schema).mapError .schema
  let globals ← objectOf "globals_json" source.globals
  let params ← objectOf "params_json" source.params
  let config ← configOf source
  let s ← (Snapshot.build schema globals params config).mapError .engine
  return ⟨s, s, checks, transforms⟩

/-- The reply of an operation with the session after it: a new snapshot is kept if there is one. -/
def commit {α : Type} (s : Session) (outcome : Except SessionError (α × Snapshot)) :
    Except SessionError α × Session :=
  match outcome with
  | .ok (reply, next) => (.ok reply, { s with snapshot := next })
  | .error e => (.error e, s)

/-- The snapshot after one field is set. -/
def edit (s : Snapshot) (field : String) (value : Value) : Except SessionError Snapshot :=
  (s.update field value).mapError .engine

/-- The snapshot after fields are set one after another. -/
def editAll (s : Snapshot) (entries : List (String × Value)) : Except SessionError Snapshot :=
  entries.foldlM (fun s e => edit s e.1 e.2) s

/-- Sets one field. -/
def set (s : Session) (field : String) (value : Value) : Except SessionError Unit × Session :=
  s.commit ((edit s.snapshot field value).map fun next => ((), next))

/-- Sets one field to the value of a JSON text. -/
def setText (s : Session) (field text : String) : Except SessionError Unit × Session :=
  s.commit do
    let value ← document text
    let next ← edit s.snapshot field value
    return ((), next)

/-- The requests without those for a field that an earlier one is for. -/
def onePerField : List ChoiceRequest → List ChoiceRequest
  | [] => []
  | r :: rest => r :: (onePerField rest).filter fun other => other.field != r.field

/-- The entries of a patch, in the order of their fields. -/
def patchEntries (text : String) : Except SessionError (Dict Value) := do
  match ← document text with
  | .object [] => throw (.invalidPatch .empty)
  | .object entries => return entries
  | _ => throw (.invalidPatch .notAnObject)

/-- Sets the fields of a patch, all of them or none. -/
def patch (s : Session) (text : String) : Except SessionError PatchOutcome × Session :=
  s.commit do
    let entries ← patchEntries text
    let next ← editAll s.snapshot entries
    let changed := Dict.keys entries
    return (⟨changed, onePerField (changed.flatMap next.pendingRequests)⟩, next)

section Loading

variable {σ : Type}

/-- Answers some requests and replies with their number. -/
def answer (s : Session) (loader : ChoiceLoader σ) (requests : List ChoiceRequest) (host : σ) :
    (Except SessionError Nat × Session) × σ :=
  let (outcome, host) := s.snapshot.load loader requests host
  (s.commit ((outcome.mapError .choices).map fun next => (requests.length, next)), host)

/-- Loads the choices of the fields that depend on a field. -/
def refresh (s : Session) (changed : String) (loader : ChoiceLoader σ) (host : σ) :
    (Except SessionError Nat × Session) × σ :=
  s.answer loader (s.snapshot.pendingRequests changed) host

/-- Loads the choices of all fields whose dependencies are filled in. -/
def loadAll (s : Session) (loader : ChoiceLoader σ) (host : σ) :
    (Except SessionError Nat × Session) × σ :=
  s.answer loader s.snapshot.initialRequests host

end Loading

/-- Goes back to the first snapshot. -/
def reset (s : Session) : Session := { s with snapshot := s.first }

/-- Validates and writes the report into the snapshot. -/
def validate (s : Session) : Report × Session :=
  let report := s.snapshot.validate s.checks
  (report, { s with snapshot := s.snapshot.withReport report })

/-- The payload as the schema wants it submitted. -/
def submit (s : Session) : Except SessionError (Dict Value) :=
  (s.snapshot.submit s.transforms).mapError .engine

/-- The texts of the fields that have any, by field. -/
def texts (s : Session) : Except SessionError (Dict FieldText) := do
  let all ← (s.snapshot.form.schema.fields.mapM fun f =>
    (FieldText.ofField s.snapshot.scope .relaxed f).map fun t => (f.id, t)).mapError .template
  return Dict.ofList (all.filter fun e => !e.2.isBlank)

/-- What a renderer needs: the snapshot and the texts of its fields. -/
def view (s : Session) : Except SessionError Value := do
  let texts ← s.texts
  return .object (Dict.ofList
    (("text", .object (texts.mapValues FieldText.encode)) :: s.snapshot.members))

end Session

end FormEngine
