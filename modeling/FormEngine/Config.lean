import FormEngine.Toml.Reader
import FormEngine.Json.Decode
import FormEngine.Expr.Scope

/-!
# Configuration

The settings of a form, from JSON or from TOML. Settings that are not given have their default, and
names of no setting are ignored.
-/

namespace FormEngine

/-- What a cycle of rules does to a form. -/
inductive CyclePolicy where
  /-- The form works and warns. -/
  | warn
  /-- The form is refused. -/
  | reject
  deriving DecidableEq, Repr

namespace CyclePolicy

def ofName? : String → Option CyclePolicy
  | "warn" => some .warn
  | "reject" => some .reject
  | _ => none

def name : CyclePolicy → String
  | .warn => "warn"
  | .reject => "reject"

end CyclePolicy

namespace Resolution

def ofName? : String → Option Resolution
  | "fallback" => some .fallback
  | "strict" => some .strict
  | _ => none

def name : Resolution → String
  | .fallback => "fallback"
  | .strict => "strict"

end Resolution

/-- The settings of a form. -/
structure Config where
  cyclePolicy : CyclePolicy := .warn
  resolution : Resolution := .fallback
  /-- The largest number of rule passes in one update. -/
  maxPasses : Nat := 16
  /-- Whether an evaluation warning undoes the update that raised it. -/
  discardOnWarning : Bool := false
  /-- Whether unknown operators and actions make a schema unfit. -/
  strictSchema : Bool := false
  deriving DecidableEq, Repr

/-- Why settings are refused. -/
inductive ConfigError where
  | malformed
  | zeroPasses
  deriving DecidableEq, Repr

def ConfigError.message : ConfigError → String
  | .malformed => "invalid engine config"
  | .zeroPasses => "max_passes must be at least 1"

namespace Config

/-- Settings no form can run with are refused. -/
def validate (c : Config) : Except ConfigError Unit :=
  if c.maxPasses = 0 then .error .zeroPasses else .ok ()

/-- The settings with another limit, which is at least one. -/
def withMaxPasses (c : Config) (n : Nat) : Config := { c with maxPasses := max n 1 }

def keys : List String :=
  ["cycle_policy", "variable_resolution", "max_passes", "discard_on_eval_warning",
   "strict_schema"]

/-- Settings from a JSON object. -/
def ofJson? (v : Value) : Option Config := do
  let m ← Decode.record? keys v
  return {
    cyclePolicy := ← Decode.orElse (fun v => (Decode.caseName? v).bind CyclePolicy.ofName?) m
      "cycle_policy" .warn
    resolution := ← Decode.orElse (fun v => (Decode.caseName? v).bind Resolution.ofName?) m
      "variable_resolution" .fallback
    maxPasses := ← Decode.orElse Decode.size? m "max_passes" 16
    discardOnWarning := ← Decode.orElse Decode.flag? m "discard_on_eval_warning" false
    strictSchema := ← Decode.orElse Decode.flag? m "strict_schema" false }

def toJson (c : Config) : Value :=
  Encode.object [
    Encode.always "cycle_policy" (.string c.cyclePolicy.name),
    Encode.always "variable_resolution" (.string c.resolution.name),
    Encode.always "max_passes" (.number (.int c.maxPasses)),
    Encode.always "discard_on_eval_warning" (.bool c.discardOnWarning),
    Encode.always "strict_schema" (.bool c.strictSchema)]

/-! ## TOML -/

/-- The name of a case without contents: a text, or a table whose one entry of that name is
empty. -/
def caseName? : Toml.Value → Option String
  | .string s => some s
  | .table _ [(s, .table _ [])] => some s
  | .table _ [(s, .array [])] => some s
  | _ => none

def flag? : Toml.Value → Option Bool
  | .boolean b => some b
  | _ => none

def size? : Toml.Value → Option Nat
  | .integer i => if 0 ≤ i ∧ i < Nat.pow 2 64 then some i.toNat else none
  | _ => none

/-- A setting of a TOML document. -/
def setting? {α : Type} (item? : Toml.Value → Option α) (entries : List (String × Toml.Value))
    (key : String) (fallback : α) : Option α :=
  match Toml.lookup? entries key with
  | none => some fallback
  | some v => item? v

/-- Settings from the entries of a TOML document. -/
def ofEntries? (m : List (String × Toml.Value)) : Option Config := do
  return {
    cyclePolicy := ← setting? (fun v => (caseName? v).bind CyclePolicy.ofName?) m
      "cycle_policy" .warn
    resolution := ← setting? (fun v => (caseName? v).bind Resolution.ofName?) m
      "variable_resolution" .fallback
    maxPasses := ← setting? size? m "max_passes" 16
    discardOnWarning := ← setting? flag? m "discard_on_eval_warning" false
    strictSchema := ← setting? flag? m "strict_schema" false }

/-- Settings from a TOML text that a form can run with. -/
def ofToml (text : String) : Except ConfigError Config :=
  match (Toml.read? text).bind ofEntries? with
  | none => .error .malformed
  | some c => do
    c.validate
    return c

end Config

end FormEngine
