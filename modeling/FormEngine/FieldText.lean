import FormEngine.Schema.Encode
import FormEngine.Template

/-!
# Texts of fields

Labels, placeholders and help texts are templates. Absent ones stay absent.
-/

namespace FormEngine

/-- The texts shown with a field. -/
structure FieldText where
  label : Option String
  placeholder : Option String
  helpText : Option String
  deriving DecidableEq, Repr

namespace FieldText

open Encode

/-- Fills in a text that may be absent. -/
def fillIn (s : Scope) (mode : TemplateMode) : Option String → Except MissingPath (Option String)
  | none => .ok none
  | some template => (Template.resolve s mode template).map some

/-- The texts of a field. -/
def ofField (s : Scope) (mode : TemplateMode) (f : Field) : Except MissingPath FieldText := do
  let label ← fillIn s mode f.label
  let placeholder ← fillIn s mode f.placeholder
  let helpText ← fillIn s mode f.helpText
  return ⟨label, placeholder, helpText⟩

/-- Whether there is no text at all. -/
def isBlank (t : FieldText) : Bool := t == ⟨none, none, none⟩

def encode (t : FieldText) : Value :=
  object [
    whenSome "label" .string t.label,
    whenSome "placeholder" .string t.placeholder,
    whenSome "helpText" .string t.helpText]

end FieldText

end FormEngine
