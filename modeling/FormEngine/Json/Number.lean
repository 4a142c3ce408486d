import FormEngine.Double.Reading

/-!
# JSON numbers

A number is an exact integer or a finite double, and the two kinds stay apart: `1` and `1.0` are
different numbers in a document, though equal once both are seen as doubles.
-/

namespace FormEngine

/-- A number of a JSON document. -/
inductive Number where
  | int (i : Int)
  | float (d : Double)
  deriving DecidableEq, Repr

namespace Number

open Text (digitsValue)

/-- Equality inside documents: of one kind, and equal as numbers. -/
def same : Number → Number → Bool
  | .int a, .int b => a == b
  | .float a, .float b => a.same b
  | _, _ => false

/-- The number as a double, rounded if it is a large integer. -/
def toDouble : Number → Double
  | .int i => Double.ofInt i
  | .float d => d

def text : Number → String
  | .int i => toString i
  | .float d => d.text

theorem same_refl (a : Number) : a.same a = true := by
  cases a <;> simp [same, Double.same_refl]

theorem same_comm (a b : Number) : a.same b = b.same a := by
  cases a <;> cases b <;> simp [same, Bool.beq_comm, Double.same_comm]

theorem same_trans {a b c : Number} (hab : a.same b = true) (hbc : b.same c = true) :
    a.same c = true := by
  cases a <;> cases b <;> cases c <;> simp_all [same]
  exact Double.same_trans hab hbc

/-! ## Reading -/

/-- Appends digits to a number as long as it fits 64 bits; the digits left over come second. -/
def takeDigits (n : Nat) : List Char → Nat × List Char
  | [] => (n, [])
  | c :: rest =>
    let m := digitsValue n [c]
    if m < Nat.pow 2 64 then takeDigits m rest else (n, c :: rest)

/-- A signed integer or, beyond 64 bits and for minus zero, a double. -/
def ofDigits (negative : Bool) (n : Nat) : Number :=
  if negative then
    if n = 0 ∨ Nat.pow 2 63 < n then .float ⟨true, Double.nearest n 1⟩ else .int (-n)
  else .int n

/-- A double from the digits before and after the point and an exponent. Digits beyond 64 bits
count by their place only. -/
def ofParts? (negative : Bool) (whole fraction : List Char) (exponent : Int) : Option Number :=
  let (n, left) := takeDigits 0 whole
  let (m, dropped) := takeDigits n fraction
  let used := fraction.length - dropped.length
  (Double.ofScaled m (exponent + left.length - used)).map fun rank => .float ⟨negative, rank⟩

/-- Reads a number: no plus sign, no zero before another digit, and a digit on either side of a
point. A number too large for a double is refused. -/
def read? (cs : List Char) : Option Number :=
  let (negative, body) := match cs with
    | '-' :: rest => (true, rest)
    | _ => (false, cs)
  let whole := body.takeWhile Char.isDigit
  let rest := body.dropWhile Char.isDigit
  if whole.isEmpty || (whole.head? == some '0' && 1 < whole.length) then none
  else match rest with
    | [] =>
      let (n, left) := takeDigits 0 whole
      if left.isEmpty then some (ofDigits negative n) else ofParts? negative whole [] 0
    | '.' :: more =>
      let fraction := more.takeWhile Char.isDigit
      if fraction.isEmpty then none
      else (Numeric.exponent? (more.dropWhile Char.isDigit)).bind (ofParts? negative whole fraction)
    | _ => (Numeric.exponent? rest).bind (ofParts? negative whole [])

end Number

end FormEngine
