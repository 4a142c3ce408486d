import FormEngine.Schema.Encode
import FormEngine.Snapshot.Basic

/-!
# Writing rule graphs and snapshots

Encoders of what a form shows from outside: its rule graph, warnings, and what is in a snapshot.
-/

namespace FormEngine

open Encode

def Location.encode (l : Location) : Value :=
  object [
    always "section" (.string l.sectionId),
    whenSome "subsection" .string l.subsectionId]

def RuleNode.encode (n : RuleNode) : Value :=
  object [
    always "rule" n.rule.encode,
    always "reads" (.strings n.reads),
    always "writes" (.strings n.writes)]

def RuleGraph.encode (g : RuleGraph) : Value :=
  object [
    always "byField" (.object (Dict.mapValues Value.strings g.byField)),
    always "rules" (.object (Dict.mapValues RuleNode.encode g.rules)),
    always "order" (.strings g.order),
    always "cycles" (.array (g.cycles.map Value.strings)),
    always "fields" (.object (Dict.mapValues Location.encode g.fields)),
    always "optionsByField" (.object (Dict.mapValues Value.strings g.choicesByField))]

/-! ## Snapshots -/

def Warning.encode : Warning → Value
  | .unknownOperator operator =>
    object [always "kind" (.string "unknown_operator"), always "operator" (.string operator)]
  | .arity operator expected found =>
    object [always "kind" (.string "arity"), always "operator" (.string operator),
      always "expected" (.string expected.text), always "found" (.number (.int (found : Nat)))]
  | .cycle rules => object [always "kind" (.string "cycle"), always "rules" (.strings rules)]
  | .passLimit field passes =>
    object [always "kind" (.string "pass_limit"), always "field" (.string field),
      always "passes" (.number (.int (passes : Nat)))]
  | .invalidPattern field pattern =>
    object [always "kind" (.string "invalid_pattern"), always "field" (.string field),
      always "pattern" (.string pattern)]
  | .unknownCheck field name =>
    object [always "kind" (.string "unknown_custom_validator"), always "field" (.string field),
      always "name" (.string name)]

def SectionUi.encode (g : SectionUi) : Value :=
  object [always "visible" (.bool g.visible), always "disabled" (.bool g.disabled)]

def FieldUi.encode (f : FieldUi) : Value :=
  object [
    always "visible" (.bool f.visible),
    always "disabled" (.bool f.disabled),
    whenSome "error" .string f.error,
    whenSome "options" (fun cs => .array (cs.map Choice.encode)) f.choices,
    whenAny "disabledOptions" (fun v => v) f.disabledChoices]

def Ui.encode (u : Ui) : Value :=
  object [
    always "sections" (.object (u.sections.mapValues SectionUi.encode)),
    always "fields" (.object (u.fields.mapValues FieldUi.encode))]

/-- Values, ui, errors and warnings, as members of an object. -/
def Snapshot.members (s : Snapshot) : List (String × Value) := [
  ("values", .object s.values),
  ("ui", s.ui.encode),
  ("errors", .object (s.errors.mapValues Value.string)),
  ("warnings", .array (s.warnings.map Warning.encode))]

end FormEngine
