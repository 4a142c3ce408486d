import FormEngine.Double.Shortest
import FormEngine.Text.Digits

/-!
# Reading doubles from decimal text

`ofDecimal` rounds a decimal correctly. `ofScaled` is the reading of numbers in documents: the
digits, kept as a 64-bit integer, become a double first, and that double is then multiplied or
divided by the double next to a power of ten, so the result may be one rank off the nearest.

`Numeric.read?` reads a number that stands alone in a text.
-/

namespace FormEngine

/-- What a text can denote as a number. -/
inductive Numeric where
  | nan
  | real (d : Double)
  deriving DecidableEq, Repr

namespace Double

/-- Decimal exponents beyond this one leave the range of the doubles, whatever the digits. -/
def exponentBound (digits : Nat) : Nat := 400 + (toString digits).length

/-- The rank of the double nearest to a decimal. -/
def ofDecimal (d : Decimal) : Nat :=
  if d.digits = 0 then 0
  else if exponentBound d.digits < d.exponent.toNat then infinityRank
  else if exponentBound d.digits < (-d.exponent).toNat then 0
  else nearest (d.digits * Nat.pow 10 d.exponent.toNat) (Nat.pow 10 (-d.exponent).toNat)

/-- The rank of the double nearest to a power of ten. -/
def powerOfTen (k : Nat) : Nat := nearest (Nat.pow 10 k) 1

/-- Divides a magnitude by ten to the power `k`, in steps of at most 308. -/
def divideByTens : Nat → Nat → Nat → Nat
  | 0, rank, _ => rank
  | fuel + 1, rank, k =>
    if rank = 0 then 0
    else if k ≤ 308 then divRank rank (powerOfTen k)
    else divideByTens fuel (divRank rank (powerOfTen 308)) (k - 308)

/-- The magnitude `digits * 10 ^ exponent` by one rounding of the digits and one of the scaling;
`none` when it is not finite. -/
def ofScaled (digits : Nat) (exponent : Int) : Option Nat :=
  let rank := nearest digits 1
  if exponent < 0 then some (divideByTens 4 rank (-exponent).toNat)
  else if exponent ≤ 308 then
    let scaled := mulRank rank (powerOfTen exponent.toNat)
    if scaled < infinityRank then some scaled else none
  else if rank = 0 then some 0
  else none

end Double

namespace Numeric

open Text (digitsValue)

/-- Splits off a leading sign; the flag says whether it was a minus. -/
def splitSign : List Char → Bool × List Char
  | '-' :: rest => (true, rest)
  | '+' :: rest => (false, rest)
  | cs => (false, cs)

/-- An exponent part: nothing, or a mark and a signed run of digits. -/
def exponent? : List Char → Option Int
  | [] => some 0
  | c :: rest =>
    let (negative, digits) := splitSign rest
    if (c == 'e' || c == 'E') && !digits.isEmpty && digits.all Char.isDigit then
      some (if negative then -(digitsValue 0 digits : Int) else digitsValue 0 digits)
    else none

/-- Digits with an optional point, at least one digit in all, and an optional exponent. -/
def decimal? (cs : List Char) : Option Decimal :=
  let whole := cs.takeWhile Char.isDigit
  let rest := cs.dropWhile Char.isDigit
  let (fraction, tail) := match rest with
    | '.' :: more => (more.takeWhile Char.isDigit, more.dropWhile Char.isDigit)
    | _ => ([], rest)
  if whole.isEmpty && fraction.isEmpty then none
  else (exponent? tail).map fun e => ⟨digitsValue 0 (whole ++ fraction), e - fraction.length⟩

/-- Reads a number: a signed decimal, an infinity or a NaN, the words in any case. -/
def read? (cs : List Char) : Option Numeric :=
  let (negative, body) := splitSign cs
  let word := String.ofList (body.map Char.toLower)
  if word == "inf" || word == "infinity" then some (.real ⟨negative, Double.infinityRank⟩)
  else if word == "nan" then some .nan
  else (decimal? body).map fun d => .real ⟨negative, Double.ofDecimal d⟩

/-- Order of two numbers; a NaN is not comparable. -/
def compare : Numeric → Numeric → Option Ordering
  | .real a, .real b => some (Ord.compare a.key b.key)
  | _, _ => none

def same : Numeric → Numeric → Bool
  | .real a, .real b => a.same b
  | _, _ => false

/-- The number without its fraction, capped at `limit`; `none` below zero and for a NaN. -/
def toNat? (limit : Nat) : Numeric → Option Nat
  | .nan => none
  | .real d => if 0 ≤ d.key then some (min limit d.truncate) else none

end Numeric

end FormEngine
