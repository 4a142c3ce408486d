import FormEngine.Digraph.Search
import FormEngine.Digraph.Sorting
import FormEngine.Schema.Check

/-!
# The rule graph

The rules of a form are its declared rules and one rule for every visibility condition. Each rule is
indexed under the keys its condition reads; a rule feeds another when it sets the value of a field
under which the other is indexed.
-/

namespace FormEngine

/-- A rule with the paths its condition reads and the fields it may set. -/
structure RuleNode where
  rule : Rule
  reads : List String
  writes : List String
  deriving Inhabited

/-- Where a field stands. -/
structure Location where
  sectionId : String
  subsectionId : Option String := none
  deriving DecidableEq, Repr

/-- The rules of a form and what must run again when a field changes. -/
structure RuleGraph where
  /-- For every key, the rules that read it. -/
  byField : Dict (List String)
  rules : Dict RuleNode
  /-- All rule ids: visibility rules first, then declared rules, in document order. -/
  order : List String
  /-- Classes of rules that feed one another, and rules that feed themselves. -/
  cycles : List (List String)
  fields : Dict Location
  /-- For every field, the fields whose remote choices depend on it. -/
  choicesByField : Dict (List String)

/-! ## Visibility rules -/

/-- The kinds of owners of visibility conditions. -/
inductive Owner where
  | mainSection
  | subsection
  | field
  deriving DecidableEq, Repr

namespace Owner

def name : Owner → String
  | .mainSection => "section"
  | .subsection => "subsection"
  | .field => "field"

/-- What a visibility rule of this owner shows and hides. -/
def element : Owner → Element
  | .field => .field
  | _ => .group

/-- The id of the rule of an owner's visibility condition. -/
def ruleId (o : Owner) (id : String) : String := "__visibility:" ++ o.name ++ ":" ++ id

/-- The rule that shows its target while a condition is true and hides it otherwise. -/
def rule (o : Owner) (id target : String) (condition : Expr) : Rule where
  id := o.ruleId id
  condition := condition
  actions := [.setVisible o.element target true]
  otherwise := [.setVisible o.element target false]

end Owner

namespace Schema

/-- Visibility rules of a section and its subsections. -/
def groupVisibility (s : Section) : List Rule :=
  (s.visibleWhen.map (Owner.mainSection.rule s.id s.id)).toList ++
    s.subsections.filterMap fun g => g.visibleWhen.map (Owner.subsection.rule g.id g.key)

/-- Visibility rules: those of sections with their subsections, then those of fields. -/
def visibilityRules (s : Schema) : List Rule :=
  s.sections.flatMap groupVisibility ++
    s.fields.filterMap fun f => f.visibleWhen.map (Owner.field.rule f.id f.id)

/-- Every rule of a form. -/
def allRules (s : Schema) : List Rule := s.visibilityRules ++ s.declaredRules

/-- The locations of the fields of a section. -/
def sectionLocations (s : Section) : List (String × Location) :=
  s.fields.map (fun f => (f.id, ⟨s.id, none⟩)) ++
    s.subsections.flatMap fun g => g.fields.map fun f => (f.id, ⟨s.id, some g.id⟩)

/-- Where every field stands. -/
def locations (s : Schema) : Dict Location := Dict.ofList (s.sections.flatMap sectionLocations)

end Schema

/-! ## Indexes -/

/-- For every key, the ids that are listed with it, in order. -/
def invert (entries : List (String × List String)) : Dict (List String) :=
  Dict.ofList ((distinct (entries.flatMap (·.2))).map fun key =>
    (key, (entries.filter fun e => key ∈ e.2).map (·.1)))

namespace RuleGraph

/-- The keys under which a read of a path is indexed: the last name of the path, and the field it
points into. Paths into globals and params have none. -/
def readKeys (fields : Dict Location) (path : String) : List String :=
  if Address.isContext path then []
  else
    distinct ((Path.lastKey? path).toList ++ ((Path.rootKey? path).filter (Dict.has fields)).toList)

/-- The keys under which a rule is indexed. -/
def ruleKeys (fields : Dict Location) (r : Rule) : List String :=
  r.condition.variablePaths.flatMap (readKeys fields)

/-- The rules to evaluate when a field changes. -/
def rulesFor (g : RuleGraph) (field : String) : List String := (g.byField.get? field).getD []

/-- The fields whose choices depend on a field. -/
def choicesFor (g : RuleGraph) (field : String) : List String :=
  (g.choicesByField.get? field).getD []

def rule? (g : RuleGraph) (id : String) : Option RuleNode := g.rules.get? id

def hasField (g : RuleGraph) (field : String) : Bool := g.fields.has field

/-- The rules that a rule feeds. -/
def fedBy (g : RuleGraph) (id : String) : List String :=
  match g.rule? id with
  | some node => distinct (node.writes.flatMap g.rulesFor)
  | none => []

/-- Warnings about the cycles of the graph. -/
def cycleWarnings (g : RuleGraph) : List Warning := g.cycles.map .cycle

/-- The known ids of a list, without repetitions. -/
def candidates (g : RuleGraph) (ids : List String) : List String :=
  distinct (ids.filter fun id => (g.rule? id).isSome)

/-- The known ids of a list with every rule behind the rules that feed it, and rules on cycles and
behind them last. Rules that do not depend on one another keep their order. -/
def sortRules (g : RuleGraph) (ids : List String) : List String :=
  Digraph.sort g.fedBy (g.candidates ids)

/-! ## Building -/

/-- The graph of a schema's rules before its cycles are looked for. -/
def indexed (s : Schema) : RuleGraph :=
  let fields := s.locations
  let rules := s.allRules
  { byField := invert (rules.map fun r => (r.id, ruleKeys fields r))
    rules := Dict.ofList (rules.map fun r => (r.id, ⟨r, r.condition.variablePaths, r.writes⟩))
    order := rules.map (·.id)
    cycles := []
    fields := fields
    choicesByField := invert (s.fields.filterMap fun f =>
      f.remote?.map fun source => (f.id, source.dependsOn)) }

/-- The graph of a schema's rules. -/
def ofSchema (s : Schema) : RuleGraph :=
  let g := indexed s
  { g with cycles := Digraph.loops g.fedBy g.order }

/-- The graph of a well-formed schema: no rule id is used twice, and under the rejecting policy no
rule feeds itself, directly or through others. -/
def build (s : Schema) (c : Config) : Except SchemaError RuleGraph := do
  s.check c
  match firstRepeated? [] (s.allRules.map (·.id)) with
  | some id => throw (.duplicateRule id)
  | none =>
    let g := ofSchema s
    match c.cyclePolicy, g.cycles with
    | .reject, cycle :: _ => throw (.cycle cycle)
    | _, _ => return g

end RuleGraph

end FormEngine
