import FormEngine.RuleGraph.Basic

/-!
# Snapshots

A `Form` is what stays fixed while a form is filled in: its schema, rules, globals, params and
settings. A `Snapshot` is the state of a form at one moment: the values of its fields, what is shown
and enabled, errors, and the warnings of the step that led to it. Snapshots are never changed; every
step makes a new one.
-/

namespace FormEngine

/-- Whether a section or subsection is shown and enabled. -/
structure SectionUi where
  visible : Bool
  disabled : Bool
  deriving DecidableEq, Repr

/-- How a field is shown. -/
structure FieldUi where
  visible : Bool
  disabled : Bool
  error : Option String := none
  choices : Option (List Choice) := none
  /-- Values of choices that cannot be selected. -/
  disabledChoices : List Value := []

namespace FieldUi

/-- Equality of optional lists of choices. -/
def sameChoices : Option (List Choice) → Option (List Choice) → Bool
  | some a, some b => Choice.sameList a b
  | none, none => true
  | _, _ => false

def same (a b : FieldUi) : Bool :=
  a.visible == b.visible && a.disabled == b.disabled && a.error == b.error &&
    sameChoices a.choices b.choices && Value.sameItems a.disabledChoices b.disabledChoices

end FieldUi

/-- How groups and fields are shown. Sections stand under their id, subsections under their key. -/
structure Ui where
  sections : Dict SectionUi
  fields : Dict FieldUi

/-- What does not change while a form is filled in. -/
structure Form where
  schema : Schema
  graph : RuleGraph
  globals : Dict Value
  params : Dict Value
  config : Config

/-- The state of a form at one moment. -/
structure Snapshot where
  form : Form
  values : Dict Value
  ui : Ui
  errors : Dict String
  /-- Warnings of the step that led here. -/
  warnings : List Warning

/-- Equality of dictionaries of states of fields. -/
def sameFieldUis : Dict FieldUi → Dict FieldUi → Bool
  | [], [] => true
  | (k, a) :: as, (l, b) :: bs => k == l && a.same b && sameFieldUis as bs
  | _, _ => false

def Ui.same (a b : Ui) : Bool := a.sections == b.sections && sameFieldUis a.fields b.fields

namespace Snapshot

/-- Equality of snapshots: state, warnings, globals and params. -/
def same (a b : Snapshot) : Bool :=
  Value.sameMembers a.values b.values && a.ui.same b.ui && a.errors == b.errors &&
    a.warnings == b.warnings && Value.sameMembers a.form.globals b.form.globals &&
    Value.sameMembers a.form.params b.form.params

/-- What expressions read, with some values of fields. -/
def scopeOver (f : Form) (values params : Dict Value) : Scope :=
  ⟨values, f.globals, params, f.config.resolution⟩

/-- What expressions read in a snapshot. -/
def scope (s : Snapshot) : Scope := scopeOver s.form s.values s.form.params

/-! ## Groups of a field -/

/-- The states of the section and the subsection of a field. -/
def containers (s : Snapshot) (field : String) : List SectionUi :=
  match s.form.graph.fields.get? field with
  | none => []
  | some place =>
    (s.ui.sections.get? place.sectionId).toList ++
      (place.subsectionId.bind fun id => s.ui.sections.get? (Subsection.keyOf id)).toList

/-- Whether a field and the groups it stands in are visible. -/
def isVisible (s : Snapshot) (field : String) : Bool :=
  match s.ui.fields.get? field with
  | none => false
  | some f => f.visible && (s.containers field).all (·.visible)

/-- Whether a field or a group it stands in is disabled. -/
def isDisabled (s : Snapshot) (field : String) : Bool :=
  match s.ui.fields.get? field with
  | none => false
  | some f => f.disabled || (s.containers field).any (·.disabled)

/-- Whether a field is visible and enabled. -/
def isLive (s : Snapshot) (field : String) : Bool := s.isVisible field && !s.isDisabled field

/-- The live fields, in document order. -/
def liveFields (s : Snapshot) : List Field := s.form.schema.fields.filter fun f => s.isLive f.id

/-- The values, without hidden or disabled fields if asked. -/
def payload (s : Snapshot) (stripHidden stripDisabled : Bool) : Dict Value :=
  s.values.filter fun e =>
    !(stripHidden && !s.isVisible e.1) && !(stripDisabled && s.isDisabled e.1)

end Snapshot

end FormEngine
