import FormEngine.Schema.Field

/-!
# Schemas

A schema is the document that declares a form: sections with fields and one level of subsections,
rules of fields and of the whole form, and what happens to a payload on submission.
-/

namespace FormEngine

/-- Fields shown side by side, by id. -/
structure Row where
  fields : List String
  deriving Repr

/-- A group of fields inside a section. -/
structure Subsection where
  id : String
  title : Option String := none
  visibleWhen : Option Expr := none
  disabled : Bool := false
  fields : List Field := []
  rows : List Row := []
  deriving Repr

/-- A group of fields and of subsections. -/
structure Section where
  id : String
  title : Option String := none
  description : Option String := none
  visibleWhen : Option Expr := none
  disabled : Bool := false
  fields : List Field := []
  rows : List Row := []
  subsections : List Subsection := []
  deriving Repr

/-- How a payload is made for submission. -/
structure Submission where
  stripHidden : Bool := true
  stripDisabled : Bool := false
  /-- The name of a transformation that the host knows. -/
  transform : Option String := none
  deriving Repr

/-- A form document. -/
structure Schema where
  version : String := "1.0"
  id : Option String := none
  title : Option String := none
  sections : List Section
  rules : List Rule := []
  globals : Dict Value := []
  /-- Carried for renderers. -/
  navigation : Option Value := none
  submission : Submission := {}
  deriving Repr

/-- The key of a subsection among the groups of a form, where sections stand under their id. -/
def Subsection.keyOf (id : String) : String := "subsection_" ++ id

def Subsection.key (s : Subsection) : String := keyOf s.id

namespace Section

/-- The fields of a section, those of its subsections last. -/
def allFields (s : Section) : List Field := s.fields ++ s.subsections.flatMap (·.fields)

end Section

namespace Schema

/-- Every field, in document order. -/
def fields (s : Schema) : List Field := s.sections.flatMap Section.allFields

def field? (s : Schema) (id : String) : Option Field := s.fields.find? fun f => f.id == id

/-- Every subsection, in document order. -/
def subsections (s : Schema) : List Subsection := s.sections.flatMap (·.subsections)

/-- Every declared rule: those of fields, then those of the form. -/
def declaredRules (s : Schema) : List Rule := s.fields.flatMap (·.rules) ++ s.rules

end Schema

end FormEngine
