import FormEngine.Json.Number
import Mathlib.Algebra.Order.Ring.Int

/-!
# Rounding to doubles

Magnitudes grow with their ranks, each by the gap of its binade (`units_succ`), and `rankBelow`
finds the last rank below a magnitude with the gap behind it (`rankBelow_spec`). So rounding keeps
the order (`rounded_mono`) and does not move a double (`rounded_units`). Of two numbers in a
document that are apart as doubles, the greater double is that of the greater number
(`Number.le_of_apart`).
-/

namespace FormEngine

namespace Double

theorem binade_eq : binade = 4503599627370496 := rfl

/-! ## Magnitudes -/

/-- The distance from the magnitude of a rank to the next one. -/
def gap (r : Nat) : Nat := 2 ^ (r / binade - 1)

theorem gap_pos (r : Nat) : 0 < gap r := Nat.two_pow_pos _

theorem units_of_lt {r : Nat} (h : r < binade) : units r = r := if_pos h

theorem gap_of_lt {r : Nat} (h : r < binade) : gap r = 1 := by
  rw [gap, Nat.div_eq_of_lt h, Nat.zero_sub, Nat.pow_zero]

theorem exists_place {r : Nat} (h : binade ≤ r) :
    ∃ e m, m < binade ∧ r = (e + 1) * binade + m := by
  have hpos : 0 < binade := by decide
  refine ⟨r / binade - 1, r % binade, Nat.mod_lt _ hpos, ?_⟩
  rw [Nat.sub_add_cancel (Nat.div_pos h hpos), Nat.div_add_mod']

section Place

variable {e m : Nat} (hm : m < binade)

include hm

theorem div_place : ((e + 1) * binade + m) / binade = e + 1 := by
  rw [Nat.add_comm, Nat.add_mul_div_right _ _ (by decide), Nat.div_eq_of_lt hm, Nat.zero_add]

theorem units_place : units ((e + 1) * binade + m) = (binade + m) * 2 ^ e := by
  have hle : ¬ (e + 1) * binade + m < binade := by
    rw [Nat.add_mul, Nat.one_mul]
    omega
  have hmod : ((e + 1) * binade + m) % binade = m := by
    rw [Nat.add_comm, Nat.add_mul_mod_self_right, Nat.mod_eq_of_lt hm]
  unfold units
  rw [if_neg hle, div_place hm, hmod, Nat.add_sub_cancel]
  rfl

theorem gap_place : gap ((e + 1) * binade + m) = 2 ^ e := by
  rw [gap, div_place hm, Nat.add_sub_cancel]

end Place

theorem units_succ (r : Nat) : units (r + 1) = units r + gap r := by
  have hpos : 0 < binade := by decide
  by_cases hr : r < binade
  · rw [units_of_lt hr, gap_of_lt hr]
    by_cases hr' : r + 1 < binade
    · exact units_of_lt hr'
    · have heq : r + 1 = (0 + 1) * binade + 0 := by omega
      rw [heq, units_place hpos]
      omega
  · obtain ⟨e, m, hm, rfl⟩ := exists_place (Nat.not_lt.1 hr)
    rw [units_place hm, gap_place hm]
    by_cases hm' : m + 1 < binade
    · rw [Nat.add_assoc, units_place hm', ← Nat.add_assoc, Nat.add_mul, Nat.one_mul]
    · have heq : (e + 1) * binade + m + 1 = (e + 1 + 1) * binade + 0 := by
        rw [Nat.add_mul (e + 1)]
        omega
      have hlast : binade + m + 1 = 2 * binade := by omega
      rw [heq, units_place hpos, ← Nat.succ_mul, Nat.succ_eq_add_one, hlast, Nat.pow_succ,
        Nat.add_zero, Nat.mul_comm (2 ^ e) 2, ← Nat.mul_assoc, Nat.mul_comm binade 2]

theorem units_strictMono : StrictMono units :=
  strictMono_nat_of_lt_succ fun r => by
    rw [units_succ]
    exact Nat.lt_add_of_pos_right (gap_pos r)

/-! ## The rank below a magnitude -/

/-- What `rankBelow` finds: a rank, the gap behind it, and the magnitude between the two ends of the
gap. -/
def IsBelow (found : Nat × Nat) (u : Nat) : Prop :=
  found.2 = gap found.1 ∧ units found.1 ≤ u ∧ u < units (found.1 + 1)

theorem isBelow_of_lt {u : Nat} (hu : u < 2 * binade) : IsBelow (u, 1) u := by
  unfold IsBelow
  rw [units_succ]
  by_cases hlt : u < binade
  · rw [units_of_lt hlt, gap_of_lt hlt]
    omega
  · have heq : u = (0 + 1) * binade + (u - binade) := by omega
    have hm : u - binade < binade := by omega
    have hunits : units u = u := by
      rw [heq, units_place hm]
      omega
    have hgap : gap u = 1 := by rw [heq, gap_place hm, Nat.pow_zero]
    rw [hunits, hgap]
    omega

/-- The leading digits of a magnitude are 53. -/
theorem leading_digits {u : Nat} (hu : 2 * binade ≤ u) :
    binade ≤ u / 2 ^ (u.log2 - 52) ∧ u / 2 ^ (u.log2 - 52) < 2 * binade := by
  rw [binade_eq] at hu
  have hne : u ≠ 0 := by omega
  have hlog : 53 ≤ u.log2 := (Nat.le_log2 hne).2 (by omega)
  obtain ⟨e, he⟩ : ∃ e, u.log2 = e + 52 := ⟨u.log2 - 52, by omega⟩
  have hpow : 2 ^ u.log2 = binade * 2 ^ e := by
    rw [he, Nat.pow_add, Nat.mul_comm, binade_eq]
  have hpos : 0 < 2 ^ e := Nat.two_pow_pos e
  rw [he, Nat.add_sub_cancel]
  constructor
  · rw [Nat.le_div_iff_mul_le hpos, ← hpow]
    exact Nat.log2_self_le hne
  · rw [Nat.div_lt_iff_lt_mul hpos, Nat.mul_assoc, ← hpow, ← Nat.pow_succ']
    exact Nat.lt_log2_self

theorem isBelow_leading {u e : Nat} (hlow : binade ≤ u / 2 ^ e) (hhigh : u / 2 ^ e < 2 * binade) :
    IsBelow (e * binade + u / 2 ^ e, 2 ^ e) u := by
  have hrank : e * binade + u / 2 ^ e = (e + 1) * binade + (u / 2 ^ e - binade) := by
    rw [Nat.add_mul]
    omega
  have hm : u / 2 ^ e - binade < binade := by omega
  have hdigits : binade + (u / 2 ^ e - binade) = u / 2 ^ e := by omega
  unfold IsBelow
  rw [units_succ, hrank, units_place hm, gap_place hm, hdigits]
  refine ⟨rfl, Nat.div_mul_le_self u _, ?_⟩
  have hrest := Nat.mod_lt u (Nat.two_pow_pos e)
  have hsplit := Nat.div_add_mod' u (2 ^ e)
  omega

/-- A magnitude lies between the one of `rankBelow` and the next. -/
theorem rankBelow_spec (u : Nat) :
    (rankBelow u).2 = gap (rankBelow u).1 ∧ units (rankBelow u).1 ≤ u ∧
      u < units ((rankBelow u).1 + 1) := by
  show IsBelow (rankBelow u) u
  unfold rankBelow
  by_cases hu : u < 2 * binade
  · rw [if_pos hu]
    exact isBelow_of_lt hu
  · rw [if_neg hu]
    obtain ⟨hlow, hhigh⟩ := leading_digits (Nat.not_lt.1 hu)
    dsimp only
    rw [Nat.shiftRight_eq_div_pow]
    exact isBelow_leading hlow hhigh

/-! ## Rounding whole magnitudes -/

/-- The rank next to a magnitude, however large; a tie goes to the even rank. -/
def rounded (u : Nat) : Nat :=
  if (rankBelow u).2 < 2 * (u - units (rankBelow u).1) ∨
    (rankBelow u).2 = 2 * (u - units (rankBelow u).1) ∧ (rankBelow u).1 % 2 = 1
  then (rankBelow u).1 + 1 else (rankBelow u).1

/-- The rounding of `nearest`, of a fraction that is counted in the smallest positive double. -/
def roundFraction (scaled den : Nat) : Nat :=
  let (rank, gap) := rankBelow (scaled / den)
  let rest := 2 * (scaled - units rank * den)
  let up := gap * den < rest || (gap * den == rest && rank % 2 == 1)
  min infinityRank (if up then rank + 1 else rank)

theorem nearest_eq (num den : Nat) : nearest num den = roundFraction (num * one) den := rfl

theorem roundFraction_one (u : Nat) : roundFraction u 1 = min infinityRank (rounded u) := by
  unfold roundFraction rounded
  rw [Nat.div_one]
  simp

theorem le_rounded (u : Nat) : (rankBelow u).1 ≤ rounded u := by
  unfold rounded
  split
  · exact Nat.le_succ _
  · exact Nat.le_refl _

theorem rounded_le (u : Nat) : rounded u ≤ (rankBelow u).1 + 1 := by
  unfold rounded
  split
  · exact Nat.le_refl _
  · exact Nat.le_succ _

/-- A magnitude between two ranks has the first below it. -/
theorem rankBelow_eq {u r : Nat} (hle : units r ≤ u) (hlt : u < units (r + 1)) :
    (rankBelow u).1 = r := by
  obtain ⟨-, hle', hlt'⟩ := rankBelow_spec u
  have h : (rankBelow u).1 < r + 1 := units_strictMono.lt_iff_lt.1 (hle'.trans_lt hlt)
  have h' : r < (rankBelow u).1 + 1 := units_strictMono.lt_iff_lt.1 (hle.trans_lt hlt')
  omega

theorem rounded_units (r : Nat) : rounded (units r) = r := by
  have hrank : (rankBelow (units r)).1 = r :=
    rankBelow_eq (Nat.le_refl _) (units_strictMono (Nat.lt_succ_self r))
  have hgap : (rankBelow (units r)).2 = gap r := by
    rw [(rankBelow_spec _).1, hrank]
  have hpos := gap_pos r
  unfold rounded
  rw [hrank, hgap, if_neg (by omega)]

theorem rounded_mono : Monotone rounded := by
  intro u v huv
  obtain ⟨hgap, hle, -⟩ := rankBelow_spec u
  obtain ⟨hgap', -, hlt'⟩ := rankBelow_spec v
  have hrank : (rankBelow u).1 ≤ (rankBelow v).1 := by
    have h := units_strictMono.lt_iff_lt.1 ((hle.trans huv).trans_lt hlt')
    omega
  rcases Nat.lt_or_ge (rankBelow u).1 (rankBelow v).1 with hlt | hge
  · exact (rounded_le u).trans (Nat.le_trans hlt (le_rounded v))
  · have heq : (rankBelow u).1 = (rankBelow v).1 := by omega
    have hgaps : (rankBelow u).2 = (rankBelow v).2 := by rw [hgap, hgap', heq]
    unfold rounded
    rw [heq, hgaps]
    split <;> split <;> omega

/-- The key of the double next to a signed magnitude. -/
def roundedKey (z : Int) : Int :=
  if z < 0 then -(min infinityRank (rounded z.natAbs) : Nat)
  else (min infinityRank (rounded z.natAbs) : Nat)

theorem roundedKey_mono {z w : Int} (hzw : z ≤ w) : roundedKey z ≤ roundedKey w := by
  unfold roundedKey
  by_cases hz : z < 0
  · rw [if_pos hz]
    by_cases hw : w < 0
    · rw [if_pos hw]
      have h := rounded_mono (show w.natAbs ≤ z.natAbs by omega)
      omega
    · rw [if_neg hw]
      omega
  · rw [if_neg hz, if_neg (by omega)]
    have h := rounded_mono (show z.natAbs ≤ w.natAbs by omega)
    omega

/-- A double as a whole number of smallest positive doubles. -/
def value (d : Double) : Int := if d.negative then -(units d.rank : Int) else units d.rank

theorem roundedKey_value {d : Double} (h : d.isFinite = true) : roundedKey d.value = d.key := by
  have hrank : min infinityRank d.rank = d.rank :=
    Nat.min_eq_right (Nat.le_of_lt (of_decide_eq_true h))
  have hround : min infinityRank (rounded d.value.natAbs) = d.rank := by
    have habs : d.value.natAbs = units d.rank := by
      unfold value
      split <;> simp
    rw [habs, rounded_units, hrank]
  unfold roundedKey key
  rw [hround]
  unfold value
  by_cases hneg : d.negative = true
  · rw [if_pos hneg, if_pos hneg]
    by_cases hzero : d.rank = 0
    · rw [hzero]
      rfl
    · have hpos : 0 < units d.rank :=
        (Nat.zero_le _).trans_lt (units_strictMono (Nat.pos_of_ne_zero hzero))
      rw [if_pos (by omega)]
  · rw [if_neg hneg, if_neg hneg, if_neg (by omega)]

theorem one_pos : 0 < one := by
  unfold one
  generalize 1074 = e
  exact Nat.two_pow_pos e

theorem roundedKey_ofInt (i : Int) : roundedKey (i * one) = (ofInt i).key := by
  have hone : (0 : Int) < one := Int.natCast_pos.2 one_pos
  have habs : (i * one : Int).natAbs = i.natAbs * one := by
    rw [Int.natAbs_mul, Int.natAbs_natCast]
  have hsign : (i * one : Int) < 0 ↔ i < 0 := by
    constructor
    · intro h
      by_contra hi
      exact absurd (Int.mul_nonneg (Int.not_lt.1 hi) hone.le) (Int.not_le.2 h)
    · exact fun hi => Int.mul_neg_of_neg_of_pos hi hone
  simp only [roundedKey, ofInt, key, nearest_eq, roundFraction_one, habs, hsign, decide_eq_true_eq]

end Double

/-! ## Numbers of documents -/

namespace Number

open Double

/-- The exact number, counted in the smallest positive double. -/
def value : Number → Int
  | .int i => i * one
  | .float d => d.value

def isFinite : Number → Bool
  | .int _ => true
  | .float d => d.isFinite

/-- Whether the number has no fraction. -/
def isWhole (n : Number) : Bool := n.value % Double.one == 0

/-- Order of the exact numbers. -/
def le (a b : Number) : Bool := a.value ≤ b.value

def ge (a b : Number) : Bool := b.le a

/-- Whether two numbers are finite and next to different doubles. -/
def apart (a b : Number) : Bool := a.isFinite && b.isFinite && !a.toDouble.same b.toDouble

@[simp] theorem le_int {i j : Int} : le (.int i) (.int j) = true ↔ i ≤ j := by
  have hone : (0 : Int) < one := Int.natCast_pos.2 Double.one_pos
  rw [le, decide_eq_true_eq]
  exact Int.mul_le_mul_iff_of_pos_right hone

@[simp] theorem ge_int {i j : Int} : ge (.int i) (.int j) = true ↔ j ≤ i := by
  rw [ge, le_int]

theorem apart_comm (a b : Number) : a.apart b = b.apart a := by
  simp only [apart, Double.same_comm a.toDouble, Bool.and_comm a.isFinite]

theorem key_toDouble {n : Number} (h : n.isFinite = true) :
    n.toDouble.key = roundedKey n.value := by
  cases n with
  | int i => exact (roundedKey_ofInt i).symm
  | float d => exact (roundedKey_value h).symm

theorem le_of_apart {a b : Number} (h : apart a b = true)
    (hle : a.toDouble.key ≤ b.toDouble.key) : le a b = true := by
  simp only [apart, Bool.and_eq_true, Bool.not_eq_true', Double.same, beq_eq_false_iff_ne] at h
  obtain ⟨⟨ha, hb⟩, hne⟩ := h
  refine decide_eq_true (Int.not_lt.1 fun hlt => hne ?_)
  refine le_antisymm hle ?_
  rw [key_toDouble ha, key_toDouble hb]
  exact roundedKey_mono hlt.le

theorem ge_of_apart {a b : Number} (h : apart a b = true)
    (hle : b.toDouble.key ≤ a.toDouble.key) : ge a b = true :=
  le_of_apart (by rwa [apart_comm]) hle

end Number

end FormEngine
