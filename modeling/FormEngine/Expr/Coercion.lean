import FormEngine.Json.Text
import FormEngine.Text.Blank
import FormEngine.Text.Search

/-!
# Views of values in expressions

How an expression sees a value as a truth value, a number, a text or a collection, and how it
compares two values. Comparisons see numbers as doubles.
-/

namespace FormEngine.Value

/-- Null, false, zero and empty texts and arrays are not true. -/
def truthy : Value → Bool
  | .null => false
  | .bool b => b
  | .number n => !n.toDouble.isZero
  | .string s => !s.isEmpty
  | .array items => !items.isEmpty
  | .object _ => true

/-- Null and empty texts, arrays and objects. -/
def isEmpty : Value → Bool
  | .null => true
  | .string s => s.isEmpty
  | .array items => items.isEmpty
  | .object members => members.isEmpty
  | _ => false

/-- The number of items, characters or members; any other value counts one if it is true. -/
def count : Value → Nat
  | .array items => items.length
  | .string s => s.length
  | .object members => members.length
  | v => if v.truthy then 1 else 0

/-- The double one or zero. -/
def unit (b : Bool) : Double := if b then Double.ofInt 1 else Double.ofInt 0

/-- A number, a text that spells one, or a truth value as one or zero. -/
def toNumber? : Value → Option Numeric
  | .number n => some (.real n.toDouble)
  | .string s => Numeric.read? (Text.trim s.toList)
  | .bool b => some (.real (unit b))
  | _ => none

/-- Both values as numbers. -/
def numericPair? (a b : Value) : Option (Numeric × Numeric) :=
  match a.toNumber?, b.toNumber? with
  | some x, some y => some (x, y)
  | _, _ => none

/-- Equality of documents, save that numbers are compared as doubles. -/
def strictEqual : Value → Value → Bool
  | .number a, .number b => a.toDouble.same b.toDouble
  | a, b => a.same b

/-- Strict equality, or equality of both values as numbers. -/
def looseEqual (a b : Value) : Bool :=
  strictEqual a b || (numericPair? a b).any fun p => p.1.same p.2

/-- Order of two values: as numbers if both are, else of two texts, two truth values or nulls. -/
def order? (a b : Value) : Option Ordering :=
  match numericPair? a b with
  | some (x, y) => x.compare y
  | none =>
    match a, b with
    | .string x, .string y => some (compare x y)
    | .bool x, .bool y => some (compare x y)
    | .null, .null => some .eq
    | _, _ => none

/-- The text of a text, a number or a truth value. -/
def toText? : Value → Option String
  | .string s => some s
  | .number n => some n.text
  | .bool b => some (if b then "true" else "false")
  | _ => none

/-- Whether an array holds a value, or a text contains its text. -/
def holds (whole part : Value) : Bool :=
  match whole with
  | .array items => items.any fun item => looseEqual item part
  | .string s => part.toText?.any (Text.contains s)
  | _ => false

/-- Compares the texts of two values. -/
def textRelation (relation : String → String → Bool) (a b : Value) : Bool :=
  match a.toText?, b.toText? with
  | some x, some y => relation x y
  | _, _ => false

end FormEngine.Value
