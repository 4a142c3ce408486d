import FormEngine.Expr.Basic
import FormEngine.Schema.Rule
import FormEngine.Schema.Validator

/-!
# Fields

A field has a kind, which fixes its empty value, and may declare a default, conditions, validators
and a source of choices.
-/

namespace FormEngine

/-- The kinds of fields. -/
inductive FieldKind where
  | text
  | textarea
  | email
  | url
  | password
  | phone
  | number
  | integer
  | currency
  | date
  | time
  | datetime
  | select
  | radio
  | multiselect
  | checkboxGroup
  | tags
  | checkbox
  | switch
  | file
  | hidden
  deriving DecidableEq, Repr

namespace FieldKind

def name : FieldKind → String
  | .text => "text"
  | .textarea => "textarea"
  | .email => "email"
  | .url => "url"
  | .password => "password"
  | .phone => "phone"
  | .number => "number"
  | .integer => "integer"
  | .currency => "currency"
  | .date => "date"
  | .time => "time"
  | .datetime => "datetime"
  | .select => "select"
  | .radio => "radio"
  | .multiselect => "multiselect"
  | .checkboxGroup => "checkboxGroup"
  | .tags => "tags"
  | .checkbox => "checkbox"
  | .switch => "switch"
  | .file => "file"
  | .hidden => "hidden"

/-- The kind of a name; `boolean` and `toggle` are second names of `checkbox` and `switch`. -/
def ofName? : String → Option FieldKind
  | "text" => some .text
  | "textarea" => some .textarea
  | "email" => some .email
  | "url" => some .url
  | "password" => some .password
  | "phone" => some .phone
  | "number" => some .number
  | "integer" => some .integer
  | "currency" => some .currency
  | "date" => some .date
  | "time" => some .time
  | "datetime" => some .datetime
  | "select" => some .select
  | "radio" => some .radio
  | "multiselect" => some .multiselect
  | "checkboxGroup" => some .checkboxGroup
  | "tags" => some .tags
  | "checkbox" | "boolean" => some .checkbox
  | "switch" | "toggle" => some .switch
  | "file" => some .file
  | "hidden" => some .hidden
  | _ => none

/-- Fields that hold a truth value. -/
def isBoolean : FieldKind → Bool
  | .checkbox | .switch => true
  | _ => false

/-- Fields that hold an array. -/
def isMulti : FieldKind → Bool
  | .multiselect | .checkboxGroup | .tags | .file => true
  | _ => false

def isNumeric : FieldKind → Bool
  | .number | .integer | .currency => true
  | _ => false

/-- The value of a field without a default. -/
def emptyValue (k : FieldKind) : Value :=
  if k.isBoolean then .bool false
  else if k.isMulti then .array []
  else if k.isNumeric then .null
  else .string ""

theorem ofName?_name (k : FieldKind) : ofName? k.name = some k := by cases k <;> rfl

end FieldKind

/-- Where a field's choices are loaded from, and which fields the request depends on. -/
structure RemoteSource where
  url : String
  method : String := "GET"
  headers : Dict String := []
  body : Option Value := none
  dependsOn : List String := []
  itemsPath : Option String := none
  labelKey : String := "label"
  valueKey : String := "value"
  deriving Inhabited, Repr

/-- The choices of a field: listed, or loaded by the host. -/
inductive ChoiceSource where
  | listed (choices : List Choice)
  | remote (source : RemoteSource)
  deriving Inhabited, Repr

/-- An input of a form. -/
structure Field where
  id : String
  kind : FieldKind
  label : Option String := none
  placeholder : Option String := none
  helpText : Option String := none
  defaultValue : Option Value := none
  disabled : Bool := false
  visibleWhen : Option Expr := none
  rules : List Rule := []
  validators : List Validator := []
  choices : Option ChoiceSource := none
  deriving Repr

namespace Field

def remote? (f : Field) : Option RemoteSource :=
  match f.choices with
  | some (.remote source) => some source
  | _ => none

def listed? (f : Field) : Option (List Choice) :=
  match f.choices with
  | some (.listed choices) => some choices
  | _ => none

end Field

end FormEngine
