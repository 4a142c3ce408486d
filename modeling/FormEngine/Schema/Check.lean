import FormEngine.Schema.Outline
import FormEngine.Json.Reader
import FormEngine.Config

/-!
# Well-formed schemas

Ids of fields and keys of groups are used once, rows name fields of their own group, and under the
strict setting conditions and actions stay inside the vocabulary. `check` reports the first fault:
fields first, then sections with their rows, then subsections with theirs, then the vocabulary.
-/

namespace FormEngine

/-- Why a schema is refused. -/
inductive SchemaError where
  | malformed
  | duplicateField (id : String)
  | duplicateSection (id : String)
  | duplicateRule (id : String)
  | unknownLayoutField (group : String) (field : String)
  | unknownOperator (owner : String) (operator : String)
  | unknownAction (rule : String)
  | cycle (rules : List String)
  deriving DecidableEq, Repr

def SchemaError.message : SchemaError → String
  | .malformed => "schema json error"
  | .duplicateField id => s!"duplicate field id '{id}'"
  | .duplicateSection id => s!"duplicate section id '{id}'"
  | .duplicateRule id => s!"duplicate rule id '{id}'"
  | .unknownLayoutField group field =>
    s!"layout row in '{group}' references unknown field '{field}'"
  | .unknownOperator owner operator => s!"unknown operator '{operator}' in {owner}"
  | .unknownAction rule => s!"unknown action type in rule '{rule}'"
  | .cycle rules => s!"rule cycle detected: {Warning.chain rules}"

/-- The first element of a list that occurs before in it. -/
def firstRepeated? : List String → List String → Option String
  | _, [] => none
  | seen, a :: rest => if a ∈ seen then some a else firstRepeated? (a :: seen) rest

namespace Schema

/-- Refuses a row that names a field outside its group. -/
def checkRows (group : String) (rows : List Row) (fields : List Field) : Except SchemaError Unit :=
  match (rows.flatMap (·.fields)).find? fun id => !(fields.any fun f => f.id == id) with
  | some id => .error (.unknownLayoutField group id)
  | none => .ok ()

/-- A group as the check sees it: its key, its id, its rows and its own fields. -/
structure Group where
  key : String
  id : String
  rows : List Row
  fields : List Field

/-- The groups of a schema: all sections, then all subsections. -/
def groups (s : Schema) : List Group :=
  s.sections.map (fun g => ⟨g.id, g.id, g.rows, g.fields⟩) ++
    s.subsections.map fun g => ⟨g.key, g.id, g.rows, g.fields⟩

/-- Refuses a group whose key is taken or whose rows do not fit. -/
def checkGroups : List String → List Group → Except SchemaError Unit
  | _, [] => .ok ()
  | seen, g :: rest =>
    if g.key ∈ seen then .error (.duplicateSection g.id)
    else do
      checkRows g.id g.rows g.fields
      checkGroups (g.key :: seen) rest

/-- Conditions of a field with what they belong to. -/
def fieldConditions (f : Field) : List (String × Expr) :=
  f.visibleWhen.toList.map (fun e => (s!"field '{f.id}'", e)) ++
    f.validators.filterMap fun v => v.gate.map fun e => (s!"validator on '{f.id}'", e)

/-- Conditions of groups and fields with what they belong to. -/
def conditions (s : Schema) : List (String × Expr) :=
  s.sections.filterMap (fun g => g.visibleWhen.map fun e => (s!"section '{g.id}'", e)) ++
  s.subsections.filterMap (fun g => g.visibleWhen.map fun e => (s!"subsection '{g.id}'", e)) ++
  s.fields.flatMap fieldConditions

/-- Every condition of a schema, those of rules last. -/
def allConditions (s : Schema) : List (String × Expr) :=
  s.conditions ++ s.declaredRules.map fun r => (s!"rule '{r.id}'", r.condition)

/-- The fault of a condition that uses an unknown operator. -/
def conditionFault? (c : String × Expr) : Option SchemaError :=
  c.2.unknownOperators.head?.map (.unknownOperator c.1)

/-- Refuses unknown actions, then unknown operators. -/
def checkVocabulary (s : Schema) : Except SchemaError Unit :=
  match s.declaredRules.find? Rule.hasUnknownActions with
  | some r => .error (.unknownAction r.id)
  | none =>
    match s.allConditions.findSome? conditionFault? with
    | some e => .error e
    | none => .ok ()

/-- Refuses a schema that is not well-formed. -/
def check (s : Schema) (c : Config) : Except SchemaError Unit := do
  match firstRepeated? [] (s.fields.map (·.id)) with
  | some id => throw (.duplicateField id)
  | none => checkGroups [] s.groups
  if c.strictSchema then s.checkVocabulary

/-- A schema from a document, checked with the default settings. -/
def ofValue (v : Value) : Except SchemaError Schema := do
  match decode? v with
  | none => throw .malformed
  | some s =>
    s.check {}
    return s

/-- A schema from a JSON text, checked with the default settings. -/
def ofText (text : String) : Except SchemaError Schema :=
  match Json.parse? text with
  | none => .error .malformed
  | some v => ofValue v

end Schema

end FormEngine
