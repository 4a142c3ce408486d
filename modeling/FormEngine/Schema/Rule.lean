import FormEngine.Expr.Basic

/-!
# Rules

A rule is a condition with the actions of either branch. An action changes one cell of a form: the
visibility or enablement of a field or section, or a field's value, choices or error.
-/

namespace FormEngine

/-- A selectable value and its label. -/
structure Choice where
  label : String
  value : Value
  deriving Inhabited, Repr

namespace Choice

def same (a b : Choice) : Bool := a.label == b.label && a.value.same b.value

/-- Equality of lists of choices. -/
def sameList : List Choice → List Choice → Bool
  | [], [] => true
  | a :: as, b :: bs => a.same b && sameList as bs
  | _, _ => false

theorem sameList_refl (choices : List Choice) : sameList choices choices = true := by
  induction choices with
  | nil => rfl
  | cons c rest ih => simp [sameList, same, Value.same_refl, ih]

end Choice

/-- What an id can name. -/
inductive Element where
  | field
  | group
  deriving DecidableEq, Repr

/-- A change of a form. -/
inductive Action where
  | setVisible (element : Element) (target : String) (visible : Bool)
  /-- Without an element both the section and the field of this id are meant. -/
  | setEnabled (element : Option Element) (target : String) (enabled : Bool)
  | setValue (target : String) (value : Value)
  | setChoices (target : String) (choices : List Choice)
  | setError (target : String) (message : String)
  | clearError (target : String)
  | setChoiceEnabled (target : String) (value : Value) (enabled : Bool)
  /-- An action of a type outside the vocabulary, which does nothing. -/
  | unknown
  deriving Inhabited, Repr

namespace Action

def target? : Action → Option String
  | .setVisible _ target _ => some target
  | .setEnabled _ target _ => some target
  | .setValue target _ => some target
  | .setChoices target _ => some target
  | .setError target _ => some target
  | .clearError target => some target
  | .setChoiceEnabled target _ _ => some target
  | .unknown => none

/-- The field whose value the action sets. -/
def written? : Action → Option String
  | .setValue target _ => some target
  | _ => none

def isUnknown : Action → Bool
  | .unknown => true
  | _ => false

end Action

/-- A condition and the actions of either branch. -/
structure Rule where
  id : String
  condition : Expr
  actions : List Action
  otherwise : List Action := []
  deriving Inhabited, Repr

namespace Rule

/-- The actions of the branch that a truth value selects. -/
def branch (r : Rule) (fired : Bool) : List Action := if fired then r.actions else r.otherwise

/-- The actions of both branches. -/
def allActions (r : Rule) : List Action := r.actions ++ r.otherwise

/-- Fields whose values the rule may set, in the order of first mention. -/
def writes (r : Rule) : List String := distinct (r.allActions.filterMap Action.written?)

def hasUnknownActions (r : Rule) : Bool := r.allActions.any Action.isUnknown

end Rule

end FormEngine
