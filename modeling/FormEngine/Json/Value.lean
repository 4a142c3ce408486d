import FormEngine.Json.Number
import FormEngine.Dict

/-!
# JSON values

A `Value` is a JSON document. In a value that takes part in a form the members of every object are
a dictionary (one member a key, in the order of keys); a document as written may list its members
in any order and repeat a key, and `normalize` makes a dictionary of it.

`same` is the equality of documents. It is weaker than identity in one place: the two zeros of the
doubles are the same number.
-/

namespace FormEngine

/-- A JSON document. -/
inductive Value where
  | null
  | bool (b : Bool)
  | number (n : Number)
  | string (s : String)
  | array (items : List Value)
  | object (members : List (String × Value))
  deriving Inhabited, Repr

namespace Value

mutual

/-- Equality of documents. -/
def same : Value → Value → Bool
  | .null, .null => true
  | .bool a, .bool b => a == b
  | .number a, .number b => a.same b
  | .string a, .string b => a == b
  | .array a, .array b => sameItems a b
  | .object a, .object b => sameMembers a b
  | _, _ => false

def sameItems : List Value → List Value → Bool
  | [], [] => true
  | a :: as, b :: bs => a.same b && sameItems as bs
  | _, _ => false

def sameMembers : List (String × Value) → List (String × Value) → Bool
  | [], [] => true
  | (k, a) :: as, (l, b) :: bs => k == l && a.same b && sameMembers as bs
  | _, _ => false

end

mutual

/-- The document with every object made a dictionary: of a repeated key the last member stays. -/
def normalize : Value → Value
  | .array items => .array (normalizeItems items)
  | .object members => .object (Dict.ofList (normalizeMembers members))
  | v => v

def normalizeItems : List Value → List Value
  | [] => []
  | v :: rest => v.normalize :: normalizeItems rest

def normalizeMembers : List (String × Value) → List (String × Value)
  | [] => []
  | (k, v) :: rest => (k, v.normalize) :: normalizeMembers rest

end

def isNull : Value → Bool
  | .null => true
  | _ => false

def string? : Value → Option String
  | .string s => some s
  | _ => none

/-- The items of an array; none in any other value. -/
def items : Value → List Value
  | .array items => items
  | _ => []

/-- The members of an object; none in any other value. -/
def members : Value → Dict Value
  | .object members => members
  | _ => []

/-- An array of texts. -/
def strings (texts : List String) : Value := .array (texts.map .string)

/-- The value as an optional one, with null for absence. -/
def present? : Value → Option Value
  | .null => none
  | v => some v

/-! ## Equality -/

mutual

theorem same_refl : ∀ v : Value, v.same v = true
  | .null => rfl
  | .bool b => by simp [same]
  | .number n => n.same_refl
  | .string s => by simp [same]
  | .array items => sameItems_refl items
  | .object members => sameMembers_refl members

theorem sameItems_refl : ∀ items : List Value, sameItems items items = true
  | [] => rfl
  | v :: rest => by simp [sameItems, same_refl v, sameItems_refl rest]

theorem sameMembers_refl : ∀ members : List (String × Value), sameMembers members members = true
  | [] => rfl
  | (k, v) :: rest => by simp [sameMembers, same_refl v, sameMembers_refl rest]

end

mutual

theorem same_comm : ∀ a b : Value, a.same b = b.same a
  | .null, b => by cases b <;> rfl
  | .bool a, b => by cases b <;> simp [same, Bool.beq_comm]
  | .number a, b => by cases b <;> simp [same, Number.same_comm]
  | .string a, b => by cases b <;> simp [same, Bool.beq_comm]
  | .array a, b => by
    cases b with
    | array b => exact sameItems_comm a b
    | _ => rfl
  | .object a, b => by
    cases b with
    | object b => exact sameMembers_comm a b
    | _ => rfl

theorem sameItems_comm : ∀ a b : List Value, sameItems a b = sameItems b a
  | [], [] => rfl
  | [], _ :: _ => rfl
  | _ :: _, [] => rfl
  | a :: as, b :: bs => by simp [sameItems, same_comm a b, sameItems_comm as bs]

theorem sameMembers_comm : ∀ a b : List (String × Value), sameMembers a b = sameMembers b a
  | [], [] => rfl
  | [], _ :: _ => rfl
  | _ :: _, [] => rfl
  | (k, a) :: as, (l, b) :: bs => by
    simp [sameMembers, same_comm a b, sameMembers_comm as bs, Bool.beq_comm]

end

mutual

theorem same_trans : ∀ a b c : Value, a.same b = true → b.same c = true → a.same c = true
  | .null, b, c => by cases b <;> cases c <;> simp [same]
  | .bool a, b, c => by cases b <;> cases c <;> simp [same]; intro h h'; exact h.trans h'
  | .number a, b, c => by cases b <;> cases c <;> simp [same]; exact Number.same_trans
  | .string a, b, c => by cases b <;> cases c <;> simp [same]; intro h h'; exact h.trans h'
  | .array a, b, c => by cases b <;> cases c <;> simp [same]; exact sameItems_trans a _ _
  | .object a, b, c => by cases b <;> cases c <;> simp [same]; exact sameMembers_trans a _ _

theorem sameItems_trans : ∀ a b c : List Value,
    sameItems a b = true → sameItems b c = true → sameItems a c = true
  | [], b, c => by cases b <;> cases c <;> simp [sameItems]
  | a :: as, b, c => by
    cases b <;> cases c <;> simp [sameItems]
    intro h hs h' hs'
    exact ⟨same_trans a _ _ h h', sameItems_trans as _ _ hs hs'⟩

theorem sameMembers_trans : ∀ a b c : List (String × Value),
    sameMembers a b = true → sameMembers b c = true → sameMembers a c = true
  | [], b, c => by cases b <;> cases c <;> simp [sameMembers]
  | (k, a) :: as, b, c => by
    cases b <;> cases c <;> simp [sameMembers]
    intro hk h hs hk' h' hs'
    exact ⟨⟨hk.trans hk', same_trans a _ _ h h'⟩, sameMembers_trans as _ _ hs hs'⟩

end

/-- Whether a list holds a value, by equality of documents. -/
def memberOf (v : Value) (vs : List Value) : Bool := vs.any fun w => w.same v

end Value

end FormEngine
