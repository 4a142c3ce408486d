import FormEngine.Json.Value

/-!
# Decoding records

Small decoders for records written as JSON objects. A member that a record knows is given at most
once; members it does not know are ignored. An optional member may be null instead of absent, a
member with a default may only be absent.
-/

namespace FormEngine.Decode

/-- Whether each group of keys that name the same member occurs at most once. -/
def unrepeated (groups : List (List String)) (members : List (String × Value)) : Bool :=
  groups.all fun keys => (members.filter fun m => keys.contains m.1).length ≤ 1

/-- The members of an object in which none of these keys is repeated. -/
def record? (keys : List String) : Value → Option (Dict Value)
  | .object members => if unrepeated (keys.map ([·])) members then some members else none
  | _ => none

def text? : Value → Option String := Value.string?

def flag? : Value → Option Bool
  | .bool b => some b
  | _ => none

/-- A count below two to the power 64. -/
def size? : Value → Option Nat
  | .number (.int i) => if 0 ≤ i ∧ i < Nat.pow 2 64 then some i.toNat else none
  | _ => none

/-- Any value, with its objects as dictionaries. -/
def value? (v : Value) : Option Value := some v.normalize

/-- An array of items. -/
def list? {α : Type} (item? : Value → Option α) : Value → Option (List α)
  | .array items => items.mapM item?
  | _ => none

/-- A dictionary; the last member of a key stays. -/
def dict? {α : Type} (item? : Value → Option α) : Value → Option (Dict α)
  | .object members => (members.mapM fun m => (item? m.2).map fun a => (m.1, a)).map Dict.ofList
  | _ => none

/-- The name of a case without contents: a text, or an object of that name holding null. -/
def caseName? : Value → Option String
  | .string s => some s
  | .object [(s, .null)] => some s
  | _ => none

/-- A member that must be there. -/
def need {α : Type} (item? : Value → Option α) (members : Dict Value) (key : String) : Option α :=
  (members.get? key).bind item?

/-- A member that may be absent or null. -/
def maybe {α : Type} (item? : Value → Option α) (members : Dict Value) (key : String) :
    Option (Option α) :=
  match members.get? key with
  | none | some .null => some none
  | some v => (item? v).map some

/-- A member that may be absent. -/
def orElse {α : Type} (item? : Value → Option α) (members : Dict Value) (key : String)
    (fallback : α) : Option α :=
  match members.get? key with
  | none => some fallback
  | some v => item? v

end FormEngine.Decode

namespace FormEngine.Encode

/-- A member that is always written. -/
def always (key : String) (v : Value) : List (String × Value) := [(key, v)]

/-- A member that is written when it is present. -/
def whenSome {α : Type} (key : String) (encode : α → Value) : Option α → List (String × Value)
  | some a => [(key, encode a)]
  | none => []

/-- A list that is written unless it is empty. -/
def whenAny {α : Type} (key : String) (encode : α → Value) (items : List α) :
    List (String × Value) :=
  if items.isEmpty then [] else [(key, .array (items.map encode))]

/-- An object with its members in order. -/
def object (members : List (List (String × Value))) : Value :=
  .object (Dict.ofList members.flatten)

end FormEngine.Encode
