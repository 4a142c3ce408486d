/-!
# Binary floating point

A `Double` is a 64-bit binary floating-point number without the NaNs: a sign and the rank of its
magnitude, that is, its position among the non-negative doubles in increasing order. The order of
two doubles is the order of their signed ranks.

`units r` is the magnitude of rank `r` counted in the smallest positive double, so every exact
computation is one on natural numbers, and `nearest num den` is the rank of the double next to a
fraction (a tie goes to the even rank).
-/

namespace FormEngine

/-- A double that is not a NaN. -/
structure Double where
  negative : Bool
  rank : Nat
  deriving DecidableEq, Repr

namespace Double

/-- Ranks below this one share the exponent of zero. -/
def binade : Nat := Nat.pow 2 52

/-- The rank of infinity; every finite magnitude has a smaller one. -/
def infinityRank : Nat := 2047 * binade

/-- The number one, counted in the smallest positive double. -/
def one : Nat := Nat.pow 2 1074

/-- The magnitude of a rank, counted in the smallest positive double. -/
def units (rank : Nat) : Nat :=
  if rank < binade then rank else (binade + rank % binade) * Nat.pow 2 (rank / binade - 1)

/-- The largest rank whose magnitude is at most `u` units, and the gap in units to the next one. -/
def rankBelow (u : Nat) : Nat × Nat :=
  if u < 2 * binade then (u, 1)
  else
    let shift := u.log2 - 52
    (shift * binade + u >>> shift, Nat.pow 2 shift)

/-- The rank of the double nearest to `num / den`; a tie goes to the even rank, and whatever is
too large becomes infinity. -/
def nearest (num den : Nat) : Nat :=
  let scaled := num * one
  let (rank, gap) := rankBelow (scaled / den)
  let rest := 2 * (scaled - units rank * den)
  let up := gap * den < rest || (gap * den == rest && rank % 2 == 1)
  min infinityRank (if up then rank + 1 else rank)

/-- The double nearest to an integer. -/
def ofInt (i : Int) : Double := ⟨i < 0, nearest i.natAbs 1⟩

/-- The rank of the double nearest to the product of two magnitudes. -/
def mulRank (a b : Nat) : Nat := nearest (units a * units b) (one * one)

/-- The rank of the double nearest to the quotient of two magnitudes. -/
def divRank (a b : Nat) : Nat := nearest (units a) (units b)

/-- Signed rank: the key by which doubles are ordered. Both zeros have key zero. -/
def key (d : Double) : Int := if d.negative then -(d.rank : Int) else d.rank

/-- Equality of numbers: the two zeros are equal. -/
def same (a b : Double) : Bool := a.key == b.key

def isFinite (d : Double) : Bool := d.rank < infinityRank

def isZero (d : Double) : Bool := d.rank == 0

/-- The magnitude without its fraction. -/
def truncate (d : Double) : Nat := units d.rank / one

theorem same_refl (a : Double) : same a a = true := by simp [same]

theorem same_comm (a b : Double) : same a b = same b a := by
  simp only [same, Bool.beq_comm]

theorem same_trans {a b c : Double} (hab : same a b = true) (hbc : same b c = true) :
    same a c = true := by
  simp_all [same]

end Double

end FormEngine
