import FormEngine.Schema.Decode

/-!
# Reading schema documents

Decoders of the sections of a schema and of whole documents, and the outline of such documents: the
members they may have, those they must have, and the kinds of parts they are made of.
-/

namespace FormEngine

open Decode

def Row.decode? (v : Value) : Option Row := do
  let m ← record? ["fields"] v
  return ⟨← need (list? text?) m "fields"⟩

def Subsection.decode? (v : Value) : Option Subsection := do
  let m ← record? ["id", "title", "visibilityRule", "disabled", "fields", "rows"] v
  return {
    id := ← need text? m "id"
    title := ← maybe text? m "title"
    visibleWhen := ← maybe Expr.decode? m "visibilityRule"
    disabled := ← orElse flag? m "disabled" false
    fields := ← orElse (list? Field.decode?) m "fields" []
    rows := ← orElse (list? Row.decode?) m "rows" [] }

def Section.decode? (v : Value) : Option Section := do
  let m ← record? ["id", "title", "description", "visibilityRule", "disabled", "fields", "rows",
    "subsections"] v
  return {
    id := ← need text? m "id"
    title := ← maybe text? m "title"
    description := ← maybe text? m "description"
    visibleWhen := ← maybe Expr.decode? m "visibilityRule"
    disabled := ← orElse flag? m "disabled" false
    fields := ← orElse (list? Field.decode?) m "fields" []
    rows := ← orElse (list? Row.decode?) m "rows" []
    subsections := ← orElse (list? Subsection.decode?) m "subsections" [] }

def Submission.decode? (v : Value) : Option Submission := do
  let m ← record? ["stripHidden", "stripDisabled", "transform"] v
  return {
    stripHidden := ← orElse flag? m "stripHidden" true
    stripDisabled := ← orElse flag? m "stripDisabled" false
    transform := ← maybe text? m "transform" }

/-- The members that a schema may have. -/
def Schema.keys : List String :=
  ["formRules", "globals", "id", "navigation", "sections", "submission", "title", "version"]

/-- Reads a schema from a document, whose objects may still repeat keys. -/
def Schema.decode? (v : Value) : Option Schema := do
  let m ← record? Schema.keys v
  return {
    version := ← orElse text? m "version" "1.0"
    id := ← maybe text? m "id"
    title := ← maybe text? m "title"
    sections := ← need (list? Section.decode?) m "sections"
    rules := ← orElse (list? Rule.decode?) m "formRules" []
    globals := ← orElse (dict? value?) m "globals" []
    navigation := ← maybe value? m "navigation"
    submission := ← orElse Submission.decode? m "submission" {} }

/-! ## The outline -/

namespace Schema

open Encode

/-- The kinds of parts that schema documents are made of. -/
def partNames : List String :=
  ["Action", "Actions", "Expression", "Field", "FieldType", "LayoutRow", "OptionItem",
   "OptionsSource", "RemoteOptions", "Rule", "Section", "SubmissionConfig", "Subsection",
   "Validator", "ValidatorKind"]

/-- The members that a schema must have. -/
def requiredKeys : List String := ["sections"]

/-- The outline as a document. -/
def outline : Value :=
  object [
    always "type" (.string "object"),
    always "required" (.strings requiredKeys),
    always "properties" (.strings keys),
    always "definitions" (.strings partNames)]

end Schema

end FormEngine
