import FormEngine.Double.Basic

/-!
# The shortest decimal of a double

`shortest rank` is the decimal with the fewest digits among those that round to the double of that
rank, the nearest of them when there are several, and the one with an even last digit when two are
equally near. `text` lays it out: positionally from 0.00001 up to 10^16, with an exponent beyond,
always with a sign on the exponent.
-/

namespace FormEngine

/-- The number `digits * 10 ^ exponent`. -/
structure Decimal where
  digits : Nat
  exponent : Int
  deriving DecidableEq, Repr

namespace Decimal

/-- Compares `d` with the fraction `num / den`. -/
def compareRatio (d : Decimal) (num den : Nat) : Ordering :=
  compare (d.digits * Nat.pow 10 d.exponent.toNat * den) (num * Nat.pow 10 (-d.exponent).toNat)

/-- Distance from `d` to `num / den`, as a numerator over a denominator that depends on the
exponent of `d` alone. -/
def distance (d : Decimal) (num den : Nat) : Nat :=
  let a := d.digits * Nat.pow 10 d.exponent.toNat * den
  let b := num * Nat.pow 10 (-d.exponent).toNat
  (a - b) + (b - a)

/-- The largest decimal with the given exponent that is at most `num / den`. -/
def floor (num den : Nat) (exponent : Int) : Decimal :=
  ⟨num * Nat.pow 10 (-exponent).toNat / (den * Nat.pow 10 exponent.toNat), exponent⟩

/-- Moves trailing zeros of the digits into the exponent; `fuel` bounds their number. -/
def strip : Nat → Decimal → Decimal
  | 0, d => d
  | fuel + 1, d =>
    if d.digits ≠ 0 ∧ d.digits % 10 = 0 then strip fuel ⟨d.digits / 10, d.exponent + 1⟩ else d

end Decimal

namespace Double

/-- Whether a decimal rounds to the double of this rank: it lies between the midpoints to the two
neighbours, and may be one of them when the rank is even. -/
def readsBack (rank : Nat) (d : Decimal) : Bool :=
  let low := d.compareRatio (units (rank - 1) + units rank) (2 * one)
  let high := d.compareRatio (units rank + units (rank + 1)) (2 * one)
  if rank % 2 = 0 then low != .lt && high != .gt else low == .gt && high == .lt

/-- The least `k` with magnitude below `10 ^ k`, searched upwards from `k`. -/
def decimalPoint (num den : Nat) : Nat → Int → Int
  | 0, k => k
  | fuel + 1, k =>
    if (⟨1, k⟩ : Decimal).compareRatio num den == .gt then k
    else decimalPoint num den fuel (k + 1)

/-- A lower estimate of the decimal point of a magnitude, from its binary logarithm. -/
def pointEstimate (rank : Nat) : Int :=
  ((units rank).log2 - 1074 : Int) * 30103 / 100000 - 1

/-- The nearer of two neighbours on a decimal grid; of two equally near the one with an even last
digit. -/
def nearer (rank : Nat) (below above : Decimal) : Decimal :=
  match compare (below.distance (units rank) one) (above.distance (units rank) one) with
  | .lt => below
  | .gt => above
  | .eq => if below.digits % 2 = 0 then below else above

/-- The best of the two decimals next to the magnitude on one decimal grid, if one reads back. -/
def onGrid? (rank : Nat) (exponent : Int) : Option Decimal :=
  let below := Decimal.floor (units rank) one exponent
  let above : Decimal := ⟨below.digits + 1, exponent⟩
  match readsBack rank below, readsBack rank above with
  | true, true => some (nearer rank below above)
  | true, false => some below
  | false, true => some above
  | false, false => none

/-- The fewest digits that read back, looked for on finer and finer grids. -/
def shortest (rank : Nat) : Decimal :=
  let point := decimalPoint (units rank) one 4 (pointEstimate rank)
  let found := (List.range 17).findSome? fun n : Nat => onGrid? rank (point - (n + 1))
  (found.getD (Decimal.floor (units rank) one (point - 17))).strip 400

end Double

namespace Decimal

/-- Positional text, with at least one digit on either side of the point. -/
def positional (digits : String) (exponent : Int) : String :=
  let point := digits.length + exponent
  if 0 ≤ exponent then digits ++ String.ofList (List.replicate exponent.toNat '0') ++ ".0"
  else if 0 < point then
    (digits.take point.toNat).toString ++ "." ++ (digits.drop point.toNat).toString
  else "0." ++ String.ofList (List.replicate (-point).toNat '0') ++ digits

/-- Text with an exponent: one digit, the rest after a point, and a signed exponent. -/
def scientific (digits : String) (exponent : Int) : String :=
  let power := digits.length + exponent - 1
  let tail := (digits.drop 1).toString
  let fraction := if tail.isEmpty then "" else "." ++ tail
  let sign := if power < 0 then "-" else "+"
  (digits.take 1).toString ++ fraction ++ "e" ++ sign ++ toString power.natAbs

/-- Text of a decimal: positional from 0.00001 up to 10^16, else with an exponent. -/
def text (d : Decimal) : String :=
  let digits := toString d.digits
  let power := digits.length + d.exponent - 1
  if -5 ≤ power ∧ power < 16 then positional digits d.exponent else scientific digits d.exponent

end Decimal

/-- Text of a finite double: the fewest digits that identify it, always with a point or an
exponent. -/
def Double.text (d : Double) : String :=
  let magnitude := if d.isZero then "0.0" else (shortest d.rank).text
  if d.negative then "-" ++ magnitude else magnitude

end FormEngine
