import Std.Data.HashSet

/-!
# Distinct elements

`distinct` keeps the first occurrence of each element of a list, in order. `distinctHashed` does the
same for long lists, with the elements that have been seen in a table.
-/

namespace FormEngine

variable {α : Type} [DecidableEq α]

/-- The list without later occurrences of an element. -/
def distinct : List α → List α
  | [] => []
  | a :: rest => a :: (distinct rest).filter (· ≠ a)

@[simp] theorem mem_distinct {a : α} {l : List α} : a ∈ distinct l ↔ a ∈ l := by
  induction l with
  | nil => simp [distinct]
  | cons b rest ih =>
    by_cases h : a = b
    · simp [distinct, h]
    · simp [distinct, h, ih]

theorem nodup_distinct (l : List α) : (distinct l).Nodup := by
  induction l with
  | nil => simp [distinct]
  | cons a rest ih =>
    rw [distinct, List.nodup_cons]
    exact ⟨by simp, ih.filter _⟩

theorem distinct_eq_self {l : List α} (h : l.Nodup) : distinct l = l := by
  induction l with
  | nil => rfl
  | cons a rest ih =>
    obtain ⟨ha, hrest⟩ := List.nodup_cons.1 h
    rw [distinct, ih hrest, List.filter_eq_self.2]
    intro b hb
    have hne : b ≠ a := fun heq => ha (heq ▸ hb)
    simpa using hne

theorem distinct_filter (keep : α → Bool) (l : List α) :
    distinct (l.filter keep) = (distinct l).filter keep := by
  induction l with
  | nil => rfl
  | cons a rest ih =>
    rw [distinct, List.filter_cons, List.filter_cons, List.filter_filter]
    split
    · rw [distinct, ih, List.filter_filter]
      simp only [Bool.and_comm]
    · rename_i ha
      rw [ih]
      refine List.filter_congr fun b _ => ?_
      by_cases hb : b = a <;> simp [hb, ha]

theorem pairwise_idxOf_distinct (l : List α) :
    (distinct l).Pairwise fun a b => l.idxOf a < l.idxOf b := by
  induction l with
  | nil => exact List.Pairwise.nil
  | cons a rest ih =>
    have hne : ∀ b ∈ (distinct rest).filter (· ≠ a), b ≠ a := by simp
    have hidx : ∀ b, b ≠ a → (a :: rest).idxOf b = rest.idxOf b + 1 := by
      intro b hb
      rw [List.idxOf_cons, beq_false_of_ne (Ne.symm hb)]
      rfl
    refine List.pairwise_cons.2 ⟨fun b hb => ?_, (ih.filter _).imp_of_mem ?_⟩
    · rw [hidx b (hne b hb), List.idxOf_cons_self]
      exact Nat.succ_pos _
    · intro b c hb hc hlt
      rw [hidx b (hne b hb), hidx c (hne c hc)]
      exact Nat.succ_lt_succ hlt

variable [Hashable α]

/-- The elements of a list that a table does not hold, without later occurrences. -/
def distinctAfter (seen : Std.HashSet α) : List α → List α
  | [] => []
  | a :: rest =>
    if seen.contains a then distinctAfter seen rest else a :: distinctAfter (seen.insert a) rest

/-- The list without later occurrences of an element, for long lists. -/
def distinctHashed (l : List α) : List α := distinctAfter ∅ l

theorem distinctAfter_eq_filter (seen : Std.HashSet α) (l : List α) :
    distinctAfter seen l = (distinct l).filter fun a => !seen.contains a := by
  induction l generalizing seen with
  | nil => rfl
  | cons a rest ih =>
    rw [distinctAfter, distinct, List.filter_cons]
    by_cases h : seen.contains a = true
    · rw [if_pos h, ih, List.filter_filter]
      simp only [h, Bool.not_true, Bool.false_eq_true, if_false]
      refine List.filter_congr fun b _ => ?_
      by_cases hb : b = a <;> simp [hb, h]
    · rw [if_neg h, ih, List.filter_filter]
      simp only [h, Bool.not_false, if_true, Std.HashSet.contains_insert]
      congr 1
      refine List.filter_congr fun b _ => ?_
      by_cases hb : b = a
      · simp [hb]
      · simp [hb, Ne.symm hb]

theorem distinctHashed_eq_distinct (l : List α) : distinctHashed l = distinct l := by
  rw [distinctHashed, distinctAfter_eq_filter]
  simp

end FormEngine
