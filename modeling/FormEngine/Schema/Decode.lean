import FormEngine.Schema.Basic
import FormEngine.Json.Decode

/-!
# Reading fields and rules

Decoders of the parts of a schema. Actions are written one by one or in a list, choices as a list or
as a remote source, and an action names its type by a member `type`.
-/

namespace FormEngine

open Decode

/-- An expression inside a document. -/
def Expr.decode? (v : Value) : Option Expr := (Expr.ofJson v.normalize).toOption

def Choice.decode? (v : Value) : Option Choice := do
  let m ← record? ["label", "value"] v
  return ⟨← need text? m "label", ← need value? m "value"⟩

namespace Action

/-- The types of actions, in the order by which a number can stand for one. -/
def typeNames : List String :=
  ["SHOW_FIELD", "HIDE_FIELD", "SHOW_SECTION", "HIDE_SECTION", "ENABLE", "DISABLE",
   "ENABLE_FIELD", "DISABLE_FIELD", "ENABLE_SECTION", "DISABLE_SECTION", "SET_VALUE",
   "SET_OPTIONS", "SET_ERROR", "CLEAR_ERROR", "ENABLE_OPTION", "DISABLE_OPTION"]

/-- The type of an action: a name, or its place among the names. -/
def typeName? : Value → Option String
  | .string s => some s
  | .number (.int i) => if 0 ≤ i then some (typeNames[i.toNat]?.getD "UNKNOWN") else none
  | _ => none

/-- The members of an action in which no group of these keys is repeated. -/
def contents? (groups : List (List String)) (m : Dict Value) : Option (Dict Value) :=
  if unrepeated groups m then some m else none

/-- An action that has a target only. -/
def plain? (make : String → Action) (m : Dict Value) : Option Action := do
  let m ← contents? [["target"]] m
  return make (← need text? m "target")

/-- An action about one choice. -/
def choice? (enabled : Bool) (m : Dict Value) : Option Action := do
  let m ← contents? [["target"], ["value"]] m
  return .setChoiceEnabled (← need text? m "target") (← need value? m "value") enabled

/-- An error message, which may also be called a value. -/
def error? (m : Dict Value) : Option Action := do
  let m ← contents? [["target"], ["message", "value"]] m
  let target ← need text? m "target"
  let message ← (need text? m "message").or (need text? m "value")
  return .setError target message

/-- An action of a type, from its other members. -/
def ofType? (type : String) (m : Dict Value) : Option Action :=
  match type with
  | "SHOW_FIELD" => plain? (.setVisible .field · true) m
  | "HIDE_FIELD" => plain? (.setVisible .field · false) m
  | "SHOW_SECTION" => plain? (.setVisible .group · true) m
  | "HIDE_SECTION" => plain? (.setVisible .group · false) m
  | "ENABLE" => plain? (.setEnabled none · true) m
  | "DISABLE" => plain? (.setEnabled none · false) m
  | "ENABLE_FIELD" => plain? (.setEnabled (some .field) · true) m
  | "DISABLE_FIELD" => plain? (.setEnabled (some .field) · false) m
  | "ENABLE_SECTION" => plain? (.setEnabled (some .group) · true) m
  | "DISABLE_SECTION" => plain? (.setEnabled (some .group) · false) m
  | "SET_VALUE" => do
    let m ← contents? [["target"], ["value"]] m
    return .setValue (← need text? m "target") (← orElse value? m "value" .null)
  | "SET_OPTIONS" => do
    let m ← contents? [["target"], ["options"]] m
    return .setChoices (← need text? m "target") (← orElse (list? Choice.decode?) m "options" [])
  | "SET_ERROR" => error? m
  | "CLEAR_ERROR" => plain? .clearError m
  | "ENABLE_OPTION" => choice? true m
  | "DISABLE_OPTION" => choice? false m
  | _ => some .unknown

def decode? (v : Value) : Option Action := do
  let m ← record? ["type"] v
  let type ← need typeName? m "type"
  ofType? type (m.filter fun e => e.1 ≠ "type")

/-- One action or a list of them. -/
def decodeList? : Value → Option (List Action)
  | .object m => (decode? (.object m)).map ([·])
  | v => list? decode? v

end Action

def Rule.decode? (v : Value) : Option Rule := do
  let m ← record? ["id", "when", "then", "else"] v
  return {
    id := ← need text? m "id"
    condition := ← need Expr.decode? m "when"
    actions := ← need Action.decodeList? m "then"
    otherwise := ← orElse Action.decodeList? m "else" [] }

def Validator.decode? (v : Value) : Option Validator := do
  let m ← record? ["type", "value", "message", "when"] v
  return {
    kind := ← need (fun v => (caseName? v).bind ValidatorKind.ofName?) m "type"
    bound := ← maybe value? m "value"
    message := ← maybe text? m "message"
    gate := ← maybe Expr.decode? m "when" }

def RemoteSource.decode? (v : Value) : Option RemoteSource := do
  let m ← record? ["url", "method", "headers", "body", "dependsOn", "itemsPath", "labelKey",
    "valueKey"] v
  return {
    url := ← need text? m "url"
    method := ← orElse text? m "method" "GET"
    headers := ← orElse (dict? text?) m "headers" []
    body := ← maybe value? m "body"
    dependsOn := ← orElse (list? text?) m "dependsOn" []
    itemsPath := ← maybe text? m "itemsPath"
    labelKey := ← orElse text? m "labelKey" "label"
    valueKey := ← orElse text? m "valueKey" "value" }

def ChoiceSource.decode? : Value → Option ChoiceSource
  | .array items => (list? Choice.decode? (.array items)).map .listed
  | v => (RemoteSource.decode? v).map .remote

def Field.decode? (v : Value) : Option Field := do
  let m ← record? ["id", "type", "label", "placeholder", "helpText", "defaultValue", "disabled",
    "visibilityRule", "rules", "validators", "options"] v
  return {
    id := ← need text? m "id"
    kind := ← need (fun v => (caseName? v).bind FieldKind.ofName?) m "type"
    label := ← maybe text? m "label"
    placeholder := ← maybe text? m "placeholder"
    helpText := ← maybe text? m "helpText"
    defaultValue := ← maybe value? m "defaultValue"
    disabled := ← orElse flag? m "disabled" false
    visibleWhen := ← maybe Expr.decode? m "visibilityRule"
    rules := ← orElse (list? Rule.decode?) m "rules" []
    validators := ← orElse (list? Validator.decode?) m "validators" []
    choices := ← maybe ChoiceSource.decode? m "options" }

end FormEngine
