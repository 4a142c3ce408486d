import FormEngine.Schema.Encode
import FormEngine.Snapshot.Apply
import FormEngine.Template

/-!
# Requests for choices

A remote source with its templates filled in is a request. The host answers it with a document, from
which the request extracts the choices. A snapshot has a request for every remote field whose
dependencies are filled in, and a loader answers the requests in order.
-/

namespace FormEngine

/-- A request for the choices of a field. -/
structure ChoiceRequest where
  field : String
  url : String
  method : String
  headers : Dict String
  body : Option Value
  itemsPath : Option String
  labelKey : String
  valueKey : String

/-- Why choices are not loaded. -/
inductive ChoiceError where
  | notRemote (field : String)
  | template (e : MissingPath)
  | fetch (field : String) (message : String)
  deriving DecidableEq, Repr

def ChoiceError.message : ChoiceError → String
  | .notRemote field => s!"field '{field}' has no remote options"
  | .template e => e.message
  | .fetch field message => s!"options for '{field}' could not be loaded: {message}"

namespace RemoteSource

/-- The headers of a source, filled in. -/
def resolveHeaders (s : Scope) (mode : TemplateMode) :
    Dict String → Except MissingPath (Dict String)
  | [] => .ok []
  | (name, template) :: rest => do
    let text ← Template.resolve s mode template
    return (name, text) :: (← resolveHeaders s mode rest)

/-- The body of a source, filled in. -/
def resolveBody (s : Scope) (mode : TemplateMode) : Option Value → Except MissingPath (Option Value)
  | none => .ok none
  | some body => (Template.resolveValue s mode body).map some

/-- The request of a source: headers are filled in first, then the address, then the body. -/
def resolve (r : RemoteSource) (field : String) (s : Scope) (mode : TemplateMode) :
    Except MissingPath ChoiceRequest := do
  let headers ← resolveHeaders s mode r.headers
  let url ← Template.resolve s mode r.url
  let body ← resolveBody s mode r.body
  return {
    field := field
    url := url
    method := Text.upperAscii r.method
    headers := headers
    body := body
    itemsPath := r.itemsPath
    labelKey := r.labelKey
    valueKey := r.valueKey }

end RemoteSource

namespace ChoiceRequest

open Encode

/-- The headers as a document. -/
def headersValue (r : ChoiceRequest) : Value := .object (Dict.mapValues Value.string r.headers)

/-- What is sent, as a text. How choices are taken from the response is not part of it. -/
def key (r : ChoiceRequest) : String :=
  (object [
    always "body" (r.body.getD .null),
    always "headers" r.headersValue,
    always "method" (.string r.method),
    always "url" (.string r.url)]).text

/-- The choice of an item: an object gives its value and label, anything but null is both. -/
def choice? (r : ChoiceRequest) : Value → Option Choice
  | .object members =>
    (Dict.get? members r.valueKey).map fun value =>
      ⟨((Dict.get? members r.labelKey).getD value).display, value⟩
  | .null => none
  | item => some ⟨item.display, item⟩

/-- The choices of a response; a response without a list has none. -/
def extract (r : ChoiceRequest) (response : Value) : List Choice :=
  let found := match r.itemsPath with
    | some path => Path.get? response path
    | none => some response
  (found.getD .null).items.filterMap r.choice?

def encode (r : ChoiceRequest) : Value :=
  object [
    always "field" (.string r.field),
    always "url" (.string r.url),
    always "method" (.string r.method),
    always "headers" r.headersValue,
    whenSome "body" (fun v => v) r.body,
    whenSome "itemsPath" .string r.itemsPath,
    always "labelKey" (.string r.labelKey),
    always "valueKey" (.string r.valueKey)]

end ChoiceRequest

namespace Snapshot

/-- Whether a field has a value that is not empty. -/
def isFilled (s : Snapshot) (field : String) : Bool :=
  (s.values.get? field).any fun v => !v.isEmpty

/-- The request of a field, if it is remote and all that it depends on is filled in. -/
def choiceRequest? (s : Snapshot) (f : Field) : Option ChoiceRequest :=
  match f.remote? with
  | none => none
  | some source =>
    if source.dependsOn.all s.isFilled then (source.resolve f.id s.scope .relaxed).toOption
    else none

/-- The requests of all fields. -/
def initialRequests (s : Snapshot) : List ChoiceRequest :=
  s.form.schema.fields.filterMap s.choiceRequest?

/-- The requests of the fields that depend on a field. -/
def pendingRequests (s : Snapshot) (changed : String) : List ChoiceRequest :=
  ((s.form.graph.choicesFor changed).filterMap s.form.schema.field?).filterMap s.choiceRequest?

/-- The request of one field, whatever it depends on; every path has to be there. -/
def requestFor (s : Snapshot) (field : String) : Except ChoiceError ChoiceRequest :=
  match (s.form.schema.field? field).bind Field.remote? with
  | none => .error (.notRemote field)
  | some source => (source.resolve field s.scope .strict).mapError .template

end Snapshot

/-! ## Loading -/

/-- The host's side of loading: answers requests for choices, with a state of its own. -/
abbrev ChoiceLoader (σ : Type) := ChoiceRequest → σ → Except ChoiceError (List Choice) × σ

/-- Answers requests one after another and stores the choices; the first that fails ends it. -/
def Snapshot.load {σ : Type} (loader : ChoiceLoader σ) :
    Snapshot → List ChoiceRequest → σ → Except ChoiceError Snapshot × σ
  | s, [], host => (.ok s, host)
  | s, r :: rest, host =>
    match loader r host with
    | (.error e, host) => (.error e, host)
    | (.ok choices, host) => load loader (s.setChoices r.field choices) rest host

end FormEngine
