import FormEngine.Proofs.Double.Rounding

/-!
# Integers as doubles

A double keeps 53 binary digits of an integer. `significant i` is the integer rounded to so many
digits, a tie to the even last digit, and it is exactly what the double next to `i` stands for
(`value_ofInt`). Two integers have one double when they are rounded to one integer, and two others
stand in the order of the integers (`compare_ofInt`).

Rounding to 53 digits does not move an integer up to `2 ^ 53`, and moves no 64-bit integer by more
than 1024. So two integers are only taken for one another far out and close together
(`large_of_significant_eq`, `close_of_significant_eq`).
-/

namespace FormEngine

namespace Double

/-- What the last of the 53 leading binary digits of a number counts. -/
def lastPlace (n : Nat) : Nat := 2 ^ (n.log2 - 52)

/-- A natural number rounded to its 53 leading binary digits, a tie to the even last digit. -/
def significantNat (n : Nat) : Nat :=
  (if lastPlace n < 2 * (n % lastPlace n) ∨
      lastPlace n = 2 * (n % lastPlace n) ∧ n / lastPlace n % 2 = 1
    then n / lastPlace n + 1 else n / lastPlace n) * lastPlace n

/-- An integer rounded to its 53 leading binary digits, a tie to the even last digit. -/
def significant (i : Int) : Int :=
  if i < 0 then -(significantNat i.natAbs : Int) else significantNat i.natAbs

/-! ## Rounding to 53 digits -/

theorem lastPlace_pos (n : Nat) : 0 < lastPlace n := Nat.two_pow_pos _

theorem lastPlace_of_lt {n : Nat} (h : n < 2 ^ 53) : lastPlace n = 1 := by
  unfold lastPlace
  by_cases hn : n = 0
  · rw [hn]
    rfl
  · have hlog : n.log2 < 53 := (Nat.log2_lt hn).2 h
    rw [Nat.sub_eq_zero_of_le (by omega), Nat.pow_zero]

theorem lastPlace_le {n : Nat} (h : n ≤ 2 ^ 64 - 1) : lastPlace n ≤ 2048 := by
  unfold lastPlace
  by_cases hn : n = 0
  · rw [hn]
    decide
  · have hlog : n.log2 < 64 := (Nat.log2_lt hn).2 (by omega)
    exact Nat.pow_le_pow_right (by decide) (show n.log2 - 52 ≤ 11 by omega)

theorem significantNat_of_dvd {n : Nat} (h : lastPlace n ∣ n) : significantNat n = n := by
  have hpos := lastPlace_pos n
  unfold significantNat
  rw [Nat.mod_eq_zero_of_dvd h, if_neg (by omega), Nat.div_mul_cancel h]

theorem significantNat_of_le {n : Nat} (h : n ≤ 2 ^ 53) : significantNat n = n := by
  refine significantNat_of_dvd ?_
  rcases Nat.lt_or_eq_of_le h with hlt | rfl
  · rw [lastPlace_of_lt hlt]
    exact Nat.one_dvd n
  · decide

/-- Rounding moves a number by half of the last place at most. -/
theorem significantNat_near (n : Nat) :
    2 * significantNat n ≤ 2 * n + lastPlace n ∧ 2 * n ≤ 2 * significantNat n + lastPlace n := by
  have hsplit := Nat.div_add_mod' n (lastPlace n)
  unfold significantNat
  split
  · rw [Nat.add_mul, Nat.one_mul]
    have hrest := Nat.mod_lt n (lastPlace_pos n)
    omega
  · omega

/-! ## The double of a natural number -/

theorem two_binades : 2 * binade = 2 ^ 53 := by decide

theorem two_pow_mul_one (k : Nat) : 2 ^ k * one = 2 ^ (k + 1074) := by
  unfold one
  generalize 1074 = e
  exact (Nat.pow_add 2 k e).symm

theorem exists_units_eq {m : Nat} (hm : m < 2 * binade) (e : Nat) : ∃ r, units r = m * 2 ^ e := by
  induction e generalizing m with
  | zero =>
    by_cases hlt : m < binade
    · exact ⟨m, by rw [units_of_lt hlt, Nat.pow_zero, Nat.mul_one]⟩
    · have hplace : m - binade < binade := by omega
      exact ⟨(0 + 1) * binade + (m - binade), by
        rw [units_place hplace, Nat.add_sub_cancel' (Nat.not_lt.1 hlt)]⟩
  | succ e ih =>
    by_cases hlt : m < binade
    · obtain ⟨r, hr⟩ := ih (m := 2 * m) (by omega)
      exact ⟨r, by rw [hr, Nat.pow_succ', Nat.mul_left_comm, ← Nat.mul_assoc]⟩
    · have hplace : m - binade < binade := by omega
      exact ⟨(e + 1 + 1) * binade + (m - binade), by
        rw [units_place hplace, Nat.add_sub_cancel' (Nat.not_lt.1 hlt)]⟩

theorem exists_units_eq_mul_one {m : Nat} (hm : m < 2 ^ 53) : ∃ r, units r = m * one := by
  have h := exists_units_eq (m := m) (by rwa [two_binades])
  unfold one
  generalize 1074 = e
  exact h e

theorem exists_leading {n : Nat} (hn : 2 ^ 53 ≤ n) :
    ∃ r, units r = n / lastPlace n * lastPlace n * one ∧
      gap r = lastPlace n * one ∧ r % 2 = n / lastPlace n % 2 := by
  obtain ⟨hlow, hhigh⟩ : binade ≤ n / lastPlace n ∧ n / lastPlace n < 2 * binade :=
    leading_digits (two_binades.trans_le hn)
  have hplace : n / lastPlace n - binade < binade := by omega
  refine ⟨(n.log2 - 52 + 1074 + 1) * binade + (n / lastPlace n - binade), ?_, ?_, ?_⟩
  · rw [units_place hplace, Nat.add_sub_cancel' hlow, ← two_pow_mul_one, Nat.mul_assoc]
    rfl
  · rw [gap_place hplace, ← two_pow_mul_one]
    rfl
  · rw [binade_eq] at hlow ⊢
    omega

theorem rankBelow_mul_one {n r : Nat}
    (hunits : units r = n / lastPlace n * lastPlace n * one)
    (hgap : gap r = lastPlace n * one) : rankBelow (n * one) = (r, lastPlace n * one) := by
  have hle : units r ≤ n * one := by
    rw [hunits]
    exact Nat.mul_le_mul_right one (Nat.div_mul_le_self n _)
  have hlt : n * one < units (r + 1) := by
    rw [units_succ, hunits, hgap, ← Nat.add_mul]
    refine Nat.mul_lt_mul_of_pos_right ?_ one_pos
    have hrest := Nat.mod_lt n (lastPlace_pos n)
    have hsplit := Nat.div_add_mod' n (lastPlace n)
    omega
  have hrank := rankBelow_eq hle hlt
  refine Prod.ext hrank ?_
  rw [(rankBelow_spec _).1, hrank, hgap]

/-- Rounding to doubles is rounding to 53 digits. -/
theorem units_rounded (n : Nat) : units (rounded (n * one)) = significantNat n * one := by
  rcases Nat.lt_or_ge n (2 ^ 53) with hn | hn
  · obtain ⟨r, hr⟩ := exists_units_eq_mul_one hn
    rw [significantNat_of_le hn.le, ← hr, rounded_units]
  · obtain ⟨r, hunits, hgap, hodd⟩ := exists_leading hn
    have hrest : n * one - units r = n % lastPlace n * one := by
      rw [hunits, ← Nat.sub_mul, Nat.mod_eq_sub_div_mul]
    have hup : (lastPlace n * one < 2 * (n % lastPlace n * one) ∨
        lastPlace n * one = 2 * (n % lastPlace n * one) ∧ r % 2 = 1) ↔
        (lastPlace n < 2 * (n % lastPlace n) ∨
          lastPlace n = 2 * (n % lastPlace n) ∧ n / lastPlace n % 2 = 1) := by
      rw [← Nat.mul_assoc, Nat.mul_lt_mul_right one_pos, Nat.mul_left_inj one_pos.ne', hodd]
    unfold rounded significantNat
    rw [rankBelow_mul_one hunits hgap]
    dsimp only
    rw [hrest, if_congr hup rfl rfl]
    split
    · rw [units_succ, hunits, hgap, ← Nat.add_mul, Nat.add_one_mul]
    · exact hunits

theorem significantNat_mono {m n : Nat} (hmn : m ≤ n) : significantNat m ≤ significantNat n := by
  refine Nat.le_of_mul_le_mul_right ?_ one_pos
  rw [← units_rounded, ← units_rounded]
  exact units_strictMono.monotone (rounded_mono (Nat.mul_le_mul_right one hmn))

theorem le_significantNat {n : Nat} (h : 2 ^ 53 ≤ n) : 2 ^ 53 ≤ significantNat n := by
  rw [← significantNat_of_le (Nat.le_refl (2 ^ 53))]
  exact significantNat_mono h

theorem units_power (k : Nat) : units ((k + 1074 + 1) * binade) = binade * 2 ^ k * one := by
  rw [← Nat.add_zero ((k + 1074 + 1) * binade), units_place (by decide), Nat.add_zero,
    Nat.mul_assoc, two_pow_mul_one]

theorem rounded_lt_infinityRank {n : Nat} (h : n ≤ 2 ^ 64) :
    rounded (n * one) < infinityRank := by
  have hle : significantNat n ≤ binade * 2 ^ 12 := by
    refine (significantNat_mono h).trans_eq ?_
    rw [significantNat_of_dvd (by decide)]
    decide
  have hunits : units (rounded (n * one)) ≤ units ((12 + 1074 + 1) * binade) := by
    rw [units_rounded, units_power]
    exact Nat.mul_le_mul_right one hle
  refine (units_strictMono.le_iff_le.1 hunits).trans_lt ?_
  rw [infinityRank, binade_eq]
  omega

/-! ## The double of an integer -/

theorem natAbs_significant (i : Int) : (significant i).natAbs = significantNat i.natAbs := by
  unfold significant
  split <;> omega

theorem significant_eq_self {i : Int} (h : i.natAbs ≤ 2 ^ 53) : significant i = i := by
  unfold significant
  rw [significantNat_of_le h]
  omega

theorem significant_mono {a b : Int} (hab : a ≤ b) : significant a ≤ significant b := by
  unfold significant
  split
  · split
    · have hle := significantNat_mono (show b.natAbs ≤ a.natAbs by omega)
      omega
    · omega
  · rw [if_neg (by omega)]
    exact Int.ofNat_le.2 (significantNat_mono (show a.natAbs ≤ b.natAbs by omega))

/-- The double next to an integer stands for the integer rounded to 53 digits. -/
theorem value_ofInt {i : Int} (h : i.natAbs ≤ 2 ^ 64) :
    (ofInt i).value = significant i * one := by
  have hrank : nearest i.natAbs 1 = rounded (i.natAbs * one) := by
    rw [nearest_eq, roundFraction_one, Nat.min_eq_right (rounded_lt_infinityRank h).le]
  unfold value ofInt significant
  rw [hrank, units_rounded]
  simp only [decide_eq_true_eq]
  split
  · rw [Int.neg_mul, Int.natCast_mul]
  · rw [Int.natCast_mul]

theorem units_eq_zero_iff {r : Nat} : units r = 0 ↔ r = 0 :=
  units_strictMono.injective.eq_iff' rfl

/-- Doubles stand in the order of what they stand for. -/
theorem key_lt_iff {d d' : Double} : d.key < d'.key ↔ d.value < d'.value := by
  have hlt := units_strictMono.lt_iff_lt (a := d.rank) (b := d'.rank)
  have hgt := units_strictMono.lt_iff_lt (a := d'.rank) (b := d.rank)
  have hzero := units_eq_zero_iff (r := d.rank)
  have hzero' := units_eq_zero_iff (r := d'.rank)
  unfold key value
  split <;> split <;> omega

end Double

namespace Number

open Double

/-- The integers that a document keeps as they are. -/
def InRange (i : Int) : Prop := -2 ^ 63 ≤ i ∧ i < 2 ^ 64

variable {a b : Int} (ha : InRange a) (hb : InRange b)

include ha hb

/-- Seen as doubles, integers stand in their own order, but those that are rounded to one number
are equal. -/
theorem compare_ofInt :
    compare (ofInt a).key (ofInt b).key =
      if significant a = significant b then .eq else compare a b := by
  have hone : (0 : Int) < one := Int.natCast_pos.2 Double.one_pos
  have hva := value_ofInt (show a.natAbs ≤ 2 ^ 64 by unfold InRange at ha; omega)
  have hvb := value_ofInt (show b.natAbs ≤ 2 ^ 64 by unfold InRange at hb; omega)
  have hlt : (ofInt a).key < (ofInt b).key ↔ significant a < significant b := by
    rw [key_lt_iff, hva, hvb, Int.mul_lt_mul_right hone]
  have hgt : (ofInt b).key < (ofInt a).key ↔ significant b < significant a := by
    rw [key_lt_iff, hva, hvb, Int.mul_lt_mul_right hone]
  by_cases hsame : significant a = significant b
  · rw [if_pos hsame, compare_eq_iff_eq]
    omega
  · rw [if_neg hsame]
    rcases Int.lt_trichotomy a b with h | h | h
    · have hle := significant_mono h.le
      rw [compare_lt_iff_lt.2 h, compare_lt_iff_lt, hlt]
      omega
    · exact absurd (congrArg significant h) hsame
    · have hle := significant_mono h.le
      rw [compare_gt_iff_gt.2 h, compare_gt_iff_gt, hgt]
      omega

theorem close_of_significant_eq (h : significant a = significant b) : (a - b).natAbs ≤ 2048 := by
  have hnear {i : Int} (hi : InRange i) : (significant i - i).natAbs ≤ 1024 := by
    unfold InRange at hi
    have hle := lastPlace_le (n := i.natAbs) (by omega)
    have hround := significantNat_near i.natAbs
    unfold significant
    split <;> omega
  have hna := hnear ha
  have hnb := hnear hb
  omega

omit ha hb

/-- Integers that are rounded to one number have 54 binary digits or are next to those that do. -/
theorem large_of_significant_eq (h : significant a = significant b) (hne : a ≠ b) :
    2 ^ 53 ≤ a.natAbs ∧ 2 ^ 53 ≤ b.natAbs ∧ (2 ^ 53 < a.natAbs ∨ 2 ^ 53 < b.natAbs) := by
  have habs : significantNat a.natAbs = significantNat b.natAbs := by
    rw [← natAbs_significant, ← natAbs_significant, h]
  have hboth : ¬ (a.natAbs ≤ 2 ^ 53 ∧ b.natAbs ≤ 2 ^ 53) := by
    rintro ⟨ha, hb⟩
    rw [significant_eq_self ha, significant_eq_self hb] at h
    exact hne h
  have hside {m n : Nat} (hmn : significantNat m = significantNat n) (hm : m < 2 ^ 53) :
      n < 2 ^ 53 := by
    rw [significantNat_of_le hm.le] at hmn
    by_contra hn
    have hle := le_significantNat (Nat.not_lt.1 hn)
    omega
  have hsa := hside habs
  have hsb := hside habs.symm
  omega

end Number

end FormEngine
