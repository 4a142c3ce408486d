import FormEngine.Path.Access
import FormEngine.Text.Search

/-!
# Variables

A variable path is looked up among field values, or, under a marked name, among globals or params.
Under the `fallback` policy a path that no field answers is looked up among globals and then among
params too.
-/

namespace FormEngine

/-- Where an unmarked path is looked up. -/
inductive Resolution where
  /-- Field values, then globals, then params. -/
  | fallback
  /-- Field values only. -/
  | strict
  deriving DecidableEq, Repr

/-- What an expression can read. -/
structure Scope where
  data : Dict Value
  globals : Dict Value
  params : Dict Value
  resolution : Resolution

/-- The three places a path can point into. -/
inductive Address where
  | globals (path : String)
  | params (path : String)
  | field (path : String)
  deriving DecidableEq, Repr

namespace Address

/-- The address of a path: `globals.` and `params.` are marks. -/
def ofPath (path : String) : Address :=
  match Text.after? "globals.".toList path.toList with
  | some rest => .globals (String.ofList rest)
  | none =>
    match Text.after? "params.".toList path.toList with
    | some rest => .params (String.ofList rest)
    | none => .field path

/-- Whether a path points into globals or params. -/
def isContext (path : String) : Bool :=
  match ofPath path with
  | .field _ => false
  | _ => true

end Address

namespace Scope

/-- The value of a variable. -/
def resolve? (s : Scope) (path : String) : Option Value :=
  match Address.ofPath path with
  | .globals rest => Path.lookup s.globals rest
  | .params rest => Path.lookup s.params rest
  | .field path =>
    match s.resolution with
    | .strict => Path.lookup s.data path
    | .fallback =>
      ((Path.lookup s.data path).or (Path.lookup s.globals path)).or (Path.lookup s.params path)

end Scope

end FormEngine
