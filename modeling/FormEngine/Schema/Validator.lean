import FormEngine.Expr.Basic

/-!
# Validators

A validator is a constraint on the value of a field, with a bound and a message of its own, and
with a condition under which it applies.
-/

namespace FormEngine

/-- The kinds of validators. -/
inductive ValidatorKind where
  | required
  | min
  | max
  | minLength
  | maxLength
  | length
  | pattern
  | email
  | url
  | custom
  deriving DecidableEq, Repr

namespace ValidatorKind

def name : ValidatorKind → String
  | .required => "required"
  | .min => "min"
  | .max => "max"
  | .minLength => "minLength"
  | .maxLength => "maxLength"
  | .length => "length"
  | .pattern => "pattern"
  | .email => "email"
  | .url => "url"
  | .custom => "custom"

def ofName? : String → Option ValidatorKind
  | "required" => some .required
  | "min" => some .min
  | "max" => some .max
  | "minLength" => some .minLength
  | "maxLength" => some .maxLength
  | "length" => some .length
  | "pattern" => some .pattern
  | "email" => some .email
  | "url" => some .url
  | "custom" => some .custom
  | _ => none

theorem ofName?_name (k : ValidatorKind) : ofName? k.name = some k := by cases k <;> rfl

end ValidatorKind

/-- A constraint on a field. -/
structure Validator where
  kind : ValidatorKind
  /-- What the value is compared with. -/
  bound : Option Value := none
  message : Option String := none
  /-- The condition under which the validator applies. -/
  gate : Option Expr := none
  deriving Repr

end FormEngine
