import FormEngine.Schema.Basic
import FormEngine.Json.Decode

/-!
# Writing schemas

Encoders of the parts of a schema. Absent members and empty lists are left out; defaults are
written.
-/

namespace FormEngine

open Encode

def Choice.encode (c : Choice) : Value :=
  object [always "label" (.string c.label), always "value" c.value]

namespace Action

/-- An action with a target and further members. -/
def tagged (type target : String) (rest : List (String × Value)) : Value :=
  object [always "type" (.string type), always "target" (.string target), rest]

/-- The type of an enabling or disabling action. -/
def enablingType (element : Option Element) (enabled : Bool) : String :=
  (if enabled then "ENABLE" else "DISABLE") ++ match element with
    | none => ""
    | some .field => "_FIELD"
    | some .group => "_SECTION"

/-- The type of a showing or hiding action. -/
def showingType (element : Element) (visible : Bool) : String :=
  (if visible then "SHOW" else "HIDE") ++ match element with
    | .field => "_FIELD"
    | .group => "_SECTION"

def encode : Action → Value
  | .setVisible element target visible => tagged (showingType element visible) target []
  | .setEnabled element target enabled => tagged (enablingType element enabled) target []
  | .setValue target value => tagged "SET_VALUE" target (always "value" value)
  | .setChoices target choices =>
    tagged "SET_OPTIONS" target (always "options" (.array (choices.map Choice.encode)))
  | .setError target message => tagged "SET_ERROR" target (always "message" (.string message))
  | .clearError target => tagged "CLEAR_ERROR" target []
  | .setChoiceEnabled target value enabled =>
    tagged (if enabled then "ENABLE_OPTION" else "DISABLE_OPTION") target (always "value" value)
  | .unknown => object [always "type" (.string "UNKNOWN")]

end Action

def Rule.encode (r : Rule) : Value :=
  object [
    always "id" (.string r.id),
    always "when" r.condition.toJson,
    always "then" (.array (r.actions.map Action.encode)),
    whenAny "else" Action.encode r.otherwise]

def Validator.encode (v : Validator) : Value :=
  object [
    always "type" (.string v.kind.name),
    whenSome "value" (fun v => v) v.bound,
    whenSome "message" .string v.message,
    whenSome "when" Expr.toJson v.gate]

def RemoteSource.encode (r : RemoteSource) : Value :=
  object [
    always "url" (.string r.url),
    always "method" (.string r.method),
    if r.headers.isEmpty then [] else
      always "headers" (.object (Dict.mapValues Value.string r.headers)),
    whenSome "body" (fun v => v) r.body,
    whenAny "dependsOn" .string r.dependsOn,
    whenSome "itemsPath" .string r.itemsPath,
    always "labelKey" (.string r.labelKey),
    always "valueKey" (.string r.valueKey)]

def ChoiceSource.encode : ChoiceSource → Value
  | .listed choices => .array (choices.map Choice.encode)
  | .remote source => source.encode

def Field.encode (f : Field) : Value :=
  object [
    always "id" (.string f.id),
    always "type" (.string f.kind.name),
    whenSome "label" .string f.label,
    whenSome "placeholder" .string f.placeholder,
    whenSome "helpText" .string f.helpText,
    whenSome "defaultValue" (fun v => v) f.defaultValue,
    always "disabled" (.bool f.disabled),
    whenSome "visibilityRule" Expr.toJson f.visibleWhen,
    whenAny "rules" Rule.encode f.rules,
    whenAny "validators" Validator.encode f.validators,
    whenSome "options" ChoiceSource.encode f.choices]

def Row.encode (r : Row) : Value := object [always "fields" (.strings r.fields)]

def Subsection.encode (s : Subsection) : Value :=
  object [
    always "id" (.string s.id),
    whenSome "title" .string s.title,
    whenSome "visibilityRule" Expr.toJson s.visibleWhen,
    always "disabled" (.bool s.disabled),
    whenAny "fields" Field.encode s.fields,
    whenAny "rows" Row.encode s.rows]

def Section.encode (s : Section) : Value :=
  object [
    always "id" (.string s.id),
    whenSome "title" .string s.title,
    whenSome "description" .string s.description,
    whenSome "visibilityRule" Expr.toJson s.visibleWhen,
    always "disabled" (.bool s.disabled),
    whenAny "fields" Field.encode s.fields,
    whenAny "rows" Row.encode s.rows,
    whenAny "subsections" Subsection.encode s.subsections]

def Submission.encode (s : Submission) : Value :=
  object [
    always "stripHidden" (.bool s.stripHidden),
    always "stripDisabled" (.bool s.stripDisabled),
    whenSome "transform" .string s.transform]

def Schema.encode (s : Schema) : Value :=
  object [
    always "version" (.string s.version),
    whenSome "id" .string s.id,
    whenSome "title" .string s.title,
    always "sections" (.array (s.sections.map Section.encode)),
    whenAny "formRules" Rule.encode s.rules,
    if s.globals.isEmpty then [] else always "globals" (.object s.globals),
    whenSome "navigation" (fun v => v) s.navigation,
    always "submission" s.submission.encode]

end FormEngine
