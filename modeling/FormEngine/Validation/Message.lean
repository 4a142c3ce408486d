import FormEngine.Json.Text
import FormEngine.Schema.Validator

/-!
# Messages of validators

What is said when a validator fails: its own message, or one that depends on its kind and bound.
-/

namespace FormEngine.Validator

/-- A bound as a text, empty if there is none. -/
def boundText (bound : Option Value) : String := (bound.map Value.display).getD ""

/-- The message about the bounds of a length. -/
def lengthMessage : Option Value → String
  | some (.object range) =>
    let least := ((Dict.get? range "min").map Value.text).getD "0"
    match Dict.get? range "max" with
    | some most => s!"Must be between {least} and {most.text} characters"
    | none => s!"Must be at least {least} characters"
  | bound => s!"Must be exactly {boundText bound} characters"

def defaultMessage (v : Validator) : String :=
  let bound := boundText v.bound
  match v.kind with
  | .required => "This field is required"
  | .min => s!"Must be at least {bound}"
  | .max => s!"Must be at most {bound}"
  | .minLength => s!"Must be at least {bound} characters"
  | .maxLength => s!"Must be at most {bound} characters"
  | .length => lengthMessage v.bound
  | .pattern => "Invalid format"
  | .email => "Invalid email address"
  | .url => "Invalid URL"
  | .custom => "Invalid value"

/-- What is said when the validator fails. -/
def failureMessage (v : Validator) : String := v.message.getD v.defaultMessage

end FormEngine.Validator
