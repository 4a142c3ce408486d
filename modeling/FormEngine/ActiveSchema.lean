import FormEngine.Validation.Report

/-!
# The active schema

A JSON Schema of the payload that a form accepts at the moment: the live fields, with constraints
from their active validators. Of two validators that set the same keyword the later one counts.
-/

namespace FormEngine

open Encode

namespace FieldKind

/-- The values of some choices. -/
def enumOf (choices : Option (List Choice)) : List (String × Value) :=
  whenSome "enum" (fun cs => .array (cs.map (·.value))) choices

/-- A text of some format. -/
def formatted (format : String) : List (String × Value) :=
  always "type" (.string "string") ++ always "format" (.string format)

/-- The keywords of a kind of field with some choices. -/
def keywords (choices : Option (List Choice)) : FieldKind → List (String × Value)
  | .number | .currency => always "type" (.string "number")
  | .integer => always "type" (.string "integer")
  | .checkbox | .switch => always "type" (.string "boolean")
  | .multiselect | .checkboxGroup | .tags | .file =>
    always "type" (.string "array") ++ always "items" (object [enumOf choices])
  | .select | .radio => enumOf choices
  | .email => formatted "email"
  | .url => formatted "uri"
  | .date => formatted "date"
  | .time => formatted "time"
  | .datetime => formatted "date-time"
  | .text | .textarea | .password | .phone | .hidden => always "type" (.string "string")

/-- The keywords for the least and the greatest length. -/
def lengthKeywords (k : FieldKind) : String × String :=
  if k.isMulti then ("minItems", "maxItems") else ("minLength", "maxLength")

end FieldKind

namespace Value

/-- A value as a bound of numbers; numbers are kept as they are. -/
def numberBound? : Value → Option Value
  | .number n => some (.number n)
  | v =>
    match v.toNumber? with
    | some (.real d) => if d.isFinite then some (.number (.float d)) else none
    | _ => none

/-- A bound of lengths as a number. -/
def lengthKeyword (key : String) (bound : Option Value) : List (String × Value) :=
  whenSome key (fun n => .number (.int (n : Nat))) (bound.bind lengthBound?)

end Value

namespace Validator

/-- The keywords of a validator on a kind of field. -/
def keywords (k : FieldKind) (v : Validator) : List (String × Value) :=
  let (least, most) := k.lengthKeywords
  match v.kind with
  | .min => whenSome "minimum" (fun n => n) (v.bound.bind Value.numberBound?)
  | .max => whenSome "maximum" (fun n => n) (v.bound.bind Value.numberBound?)
  | .minLength => Value.lengthKeyword least v.bound
  | .maxLength => Value.lengthKeyword most v.bound
  | .length =>
    match v.bound with
    | some (.object range) =>
      Value.lengthKeyword least (Dict.get? range "min") ++
        Value.lengthKeyword most (Dict.get? range "max")
    | exact => Value.lengthKeyword least exact ++ Value.lengthKeyword most exact
  | .pattern => whenSome "pattern" .string (v.bound.bind Value.string?)
  | .email => always "format" (.string "email")
  | .url => always "format" (.string "uri")
  | .required | .custom => []

end Validator

namespace Snapshot

/-- The choices that a field shows. -/
def shownChoices (s : Snapshot) (field : String) : Option (List Choice) :=
  (s.ui.fields.get? field).bind (·.choices)

/-- The schema of a field with some active validators. -/
def fieldSchema (s : Snapshot) (f : Field) (vs : List Validator) : Value :=
  object [
    f.kind.keywords (s.shownChoices f.id),
    whenSome "title" .string f.label,
    whenSome "description" .string f.helpText,
    vs.flatMap (·.keywords f.kind),
    whenSome "default" (Template.relaxed s.scope) f.defaultValue]

/-- The live fields that have an active `required` validator, in document order. -/
def requiredFields (s : Snapshot) : List String :=
  (s.liveFields.filter fun f => (s.activeOf f).any fun v => v.kind == .required).map (·.id)

/-- The schema of the payload. -/
def activeSchema (s : Snapshot) : Value :=
  let properties := s.liveFields.map fun f => (f.id, s.fieldSchema f (s.activeOf f))
  object [
    always "type" (.string "object"),
    whenSome "title" .string s.form.schema.title,
    always "properties" (.object (Dict.ofList properties)),
    whenAny "required" .string s.requiredFields]

end Snapshot

end FormEngine
