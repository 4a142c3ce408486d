import FormEngine.Expr.Coercion
import FormEngine.Pattern.Reader
import FormEngine.Schema.Field
import FormEngine.Url.Basic
import FormEngine.Warning

/-!
# Judging values

`Validator.judge` decides whether a value meets a validator. A missing value fails `required` and
meets everything else. A comparison that makes no sense, such as the length of a number, is met, and
so is a validator that cannot be understood, with a warning.
-/

namespace FormEngine

/-- A check of the host: the value, the validator and the values of all fields. -/
abbrev HostCheck := Value → Validator → Dict Value → Bool

/-- The outcome of one validator. -/
inductive Verdict where
  | passed
  | failed
  /-- Met because it could not be understood. -/
  | skipped (w : Warning)
  deriving DecidableEq, Repr

def Verdict.ofBool (b : Bool) : Verdict := if b then .passed else .failed

namespace Value

/-- Null, blank texts and empty arrays and objects. -/
def isMissing : Value → Bool
  | .string s => (Text.trim s.toList).isEmpty
  | v => v.isEmpty

/-- The characters of a text or the items of an array. -/
def length? : Value → Option Nat
  | .string s => some s.length
  | .array items => some items.length
  | _ => none

/-- The greatest length that a bound can express. -/
def lengthLimit : Nat := Nat.pow 2 64 - 1

/-- A value as a bound on lengths: a number that is not negative, without its fraction. -/
def lengthBound? (v : Value) : Option Nat := v.toNumber?.bind (Numeric.toNat? lengthLimit)

/-- The name of a host's check: a text, or the member `name`. -/
def checkName : Value → String
  | .string name => name
  | .object members => ((Dict.get? members "name").bind string?).getD ""
  | _ => ""

end Value

namespace Validator

/-- Whether a length meets a bound, if there is one. -/
def meets (relation : Nat → Nat → Bool) (length : Nat) (bound : Option Value) : Bool :=
  (bound.bind Value.lengthBound?).all (relation length)

/-- Whether the length of a value, if it has one, satisfies a condition. -/
def hasLength (v : Value) (condition : Nat → Bool) : Bool := v.length?.all condition

def atLeast (length bound : Nat) : Bool := bound ≤ length

def atMost (length bound : Nat) : Bool := length ≤ bound

/-- Whether a length fits a bound on both sides or an exact one. -/
def fits (length : Nat) : Value → Bool
  | .object range =>
    meets atLeast length (Dict.get? range "min") &&
      meets atMost length (Dict.get? range "max")
  | exact => meets (· == ·) length (some exact)

/-- An address of mail: one `@`, and a dot inside what follows it. -/
def emailPattern : String := "^[^\\s@]+@[^\\s@]+\\.[^\\s@]+$"

def isEmail (text : String) : Bool :=
  (Pattern.Regex.ofText? emailPattern).any fun r =>
    r.occursIn (String.ofList (Text.trim text.toList))

def isUrl (text : String) : Bool := Url.hasHost (String.ofList (Text.trim text.toList))

/-- Whether a text matches a pattern somewhere. -/
def judgePattern (field : String) : Value → Value → Verdict
  | .string text, .string pattern =>
    match Pattern.Regex.ofText? pattern with
    | some r => .ofBool (r.occursIn text)
    | none => .skipped (.invalidPattern field pattern)
  | _, _ => .passed

/-- The bound of a validator, null if it has none. -/
def boundOrNull (v : Validator) : Value := v.bound.getD .null

/-- Judges a value that is not missing; `values` are the values of all fields. -/
def judgeGiven (v : Validator) (checks : Dict HostCheck) (values : Dict Value) (field : String)
    (value : Value) : Verdict :=
  let bound := v.boundOrNull
  match v.kind with
  | .required => .passed
  | .min => .ofBool (value.order? bound != some .lt)
  | .max => .ofBool (value.order? bound != some .gt)
  | .minLength => .ofBool (hasLength value fun n => meets atLeast n (some bound))
  | .maxLength => .ofBool (hasLength value fun n => meets atMost n (some bound))
  | .length => .ofBool (hasLength value fun n => fits n bound)
  | .pattern => judgePattern field value bound
  | .email => .ofBool (value.string?.any isEmail)
  | .url => .ofBool (value.string?.any isUrl)
  | .custom =>
    match checks.get? bound.checkName with
    | some check => .ofBool (check value v values)
    | none => .skipped (.unknownCheck field bound.checkName)

/-- Whether a value meets `required`: it is given, and if the field holds a truth value it is not
false. -/
def meetsRequired (kind : FieldKind) (value : Value) : Bool :=
  !value.isMissing && !(kind.isBoolean && value.same (.bool false))

/-- Judges the value of a field. -/
def judge (v : Validator) (checks : Dict HostCheck) (values : Dict Value) (field : Field)
    (value : Value) : Verdict :=
  if v.kind = .required then .ofBool (meetsRequired field.kind value)
  else if value.isMissing then .passed
  else v.judgeGiven checks values field.id value

end Validator

end FormEngine
