import FormEngine.Digraph.Sorting
import FormEngine.Proofs.Digraph.Arrangement
import Mathlib.Data.List.Find

/-!
# The work list

What a sorting keeps: the count of a node is the number of edges into it from nodes that have not
been placed, and the ready nodes are those of the rest with none (`Fits`). So the counts never go
below zero, also while the edges of a node are being taken away (`Fits.count_nonneg`), and the first
ready node is the first free node of the rest (`Fits.first?_eq`). The sorting of a pool is therefore
its arrangement (`sort_eq_arrange`).
-/

namespace FormEngine.Digraph

variable {next : String → List String} {nodes : List String}

theorem mem_edgesWithin {a b : String} :
    b ∈ edgesWithin next nodes a ↔ b ∈ next a ∧ b ≠ a ∧ b ∈ nodes := by
  simp [edgesWithin]

namespace Sorting

variable {t : Sorting} {a b : String}

/-! ## Counting edges -/

theorem count_foldl_raise (t : Sorting) (targets : List String) (b : String) :
    (targets.foldl raise t).count b = t.count b + targets.count b := by
  induction targets generalizing t with
  | nil => simp
  | cons a targets ih =>
    rw [List.foldl_cons, ih, count_raise, List.count_cons]
    by_cases hab : a = b
    · simp only [hab, if_true, beq_self_eq_true]
      omega
    · simp [hab]

theorem count_foldl_lower (t : Sorting) (targets : List String) (b : String) :
    (targets.foldl lower t).count b = t.count b - targets.count b := by
  induction targets generalizing t with
  | nil => simp
  | cons a targets ih =>
    rw [List.foldl_cons, ih, count_lower, List.count_cons]
    by_cases hab : a = b
    · simp only [hab, if_true, beq_self_eq_true]
      omega
    · simp [hab]

theorem foldl_raise_frame (t : Sorting) (targets : List String) :
    (targets.foldl raise t).placed = t.placed ∧ (targets.foldl raise t).rest = t.rest := by
  induction targets generalizing t with
  | nil => exact ⟨rfl, rfl⟩
  | cons a targets ih => exact ih (t.raise a)

theorem mem_ready_lower :
    b ∈ (t.lower a).ready ↔ b ∈ t.ready ∨ b = a ∧ t.count a - 1 = 0 := by
  unfold lower
  by_cases h : t.count a - 1 = 0
  · simp only [h, if_true, List.mem_insert_iff, and_true]
    exact or_comm
  · simp [h]

/-- While no count goes below zero, those become ready whose last edge is taken away. -/
theorem mem_ready_foldl_lower {targets : List String}
    (h : ∀ b, (targets.count b : Int) ≤ t.count b) :
    b ∈ (targets.foldl lower t).ready ↔
      b ∈ t.ready ∨ b ∈ targets ∧ (targets.foldl lower t).count b = 0 := by
  induction targets generalizing t with
  | nil => simp
  | cons a targets ih =>
    have hrest : ∀ c, (targets.count c : Int) ≤ (t.lower a).count c := by
      intro c
      have hc := h c
      rw [List.count_cons] at hc
      rw [count_lower]
      by_cases hac : a = c <;> simp [hac] at hc ⊢ <;> omega
    rw [List.foldl_cons, ih hrest, mem_ready_lower, List.mem_cons, count_foldl_lower, count_lower]
    have hb := hrest b
    rw [count_lower] at hb
    by_cases hba : b = a
    · subst hba
      have hmem : b ∈ targets ↔ 0 < targets.count b := List.count_pos_iff.symm
      simp only [if_true] at hb ⊢
      by_cases hzero : t.count b - 1 = 0
      · have hnone : targets.count b = 0 := by omega
        simp [hzero, hnone]
      · have hmore : t.count b - 1 - (targets.count b : Int) = 0 → b ∈ targets := by
          intro heq
          rw [hmem]
          omega
        tauto
    · simp [hba, Ne.symm hba]

/-! ## The invariant -/

/-- What holds between any two turns of the sorting of a pool. -/
structure Fits (next : String → List String) (nodes : List String) (t : Sorting) : Prop where
  nodup : t.rest.Nodup
  known : ∀ a ∈ t.rest, a ∈ nodes
  counts : ∀ b, t.count b = ((t.rest.flatMap (edgesWithin next nodes)).count b : Int)
  /-- No edge leads from a node that has not been placed to one that has. -/
  ahead : ∀ a ∈ t.rest, ∀ b ∈ edgesWithin next nodes a, b ∈ t.rest
  ready : ∀ b, b ∈ t.ready ↔ b ∈ t.rest ∧ t.count b = 0

namespace Fits

theorem start (hn : nodes.Nodup) : (start (edgesWithin next nodes) nodes).Fits next nodes := by
  obtain ⟨-, hrest⟩ := foldl_raise_frame { rest := nodes } (nodes.flatMap (edgesWithin next nodes))
  have hmem : ∀ {a}, a ∈ (Sorting.start (edgesWithin next nodes) nodes).rest ↔ a ∈ nodes := by
    intro a
    show a ∈ (List.foldl raise _ _).rest ↔ _
    rw [hrest]
  constructor
  case nodup => exact hrest ▸ hn
  case known => exact fun a ha => hmem.1 ha
  case counts =>
    intro b
    refine (count_foldl_raise _ _ b).trans ?_
    show (0 : Int) + _ = ((List.flatMap _ (List.foldl raise _ _).rest).count b : Int)
    rw [hrest, Int.zero_add]
  case ahead => exact fun a _ b hb => hmem.2 (mem_edgesWithin.1 hb).2.2
  case ready =>
    intro b
    show b ∈ nodes.filter _ ↔ _
    rw [hmem, List.mem_filter, decide_eq_true_eq]
    rfl

/-- No edge into a node is left exactly when no other node of the rest leads to it. -/
theorem count_eq_zero_iff (h : t.Fits next nodes) (ha : a ∈ nodes) :
    t.count a = 0 ↔ ∀ b ∈ t.rest, b ≠ a → a ∉ next b := by
  rw [h.counts, Int.natCast_eq_zero, List.count_eq_zero, List.mem_flatMap]
  simp only [mem_edgesWithin, not_exists, not_and]
  constructor
  · exact fun hnone b hb hba hmem => hnone b hb hmem (Ne.symm hba) ha
  · exact fun hnone b hb hmem hab _ => hnone b hb (Ne.symm hab) hmem

theorem first?_eq (h : t.Fits next nodes) :
    t.first? = t.rest.find? (isFree (fun a b => (next a).contains b) t.rest) := by
  refine List.find?_congr fun a ha => ?_
  rw [Bool.eq_iff_iff, decide_eq_true_eq, h.ready, isFree_iff,
    h.count_eq_zero_iff (h.known a ha)]
  simp [ha]

theorem count_eq_zero_of_first? (h : t.Fits next nodes) (ha : t.first? = some a) :
    t.count a = 0 := by
  have hready : a ∈ t.ready := by simpa using List.find?_some ha
  exact ((h.ready a).1 hready).2

theorem count_eq_add (h : t.Fits next nodes) (ha : a ∈ t.rest) (b : String) :
    t.count b = ((edgesWithin next nodes a).count b : Int) +
      (((t.rest.erase a).flatMap (edgesWithin next nodes)).count b : Int) := by
  have hperm := (List.perm_cons_erase ha).flatMap_right (edgesWithin next nodes)
  rw [h.counts, hperm.count_eq, List.flatMap_cons, List.count_append, Int.natCast_add]

theorem count_nonneg (h : t.Fits next nodes) (ha : a ∈ t.rest) {targets : List String}
    (hsub : targets <+: edgesWithin next nodes a) (b : String) :
    0 ≤ (targets.foldl lower (t.take a)).count b := by
  have hcount := h.count_eq_add ha b
  have hle := hsub.sublist.count_le b
  rw [count_foldl_lower]
  show 0 ≤ t.count b - _
  omega

theorem count_le (h : t.Fits next nodes) (ha : a ∈ t.rest) (b : String) :
    ((edgesWithin next nodes a).count b : Int) ≤ t.count b := by
  have hadd := h.count_eq_add ha b
  omega

theorem count_release (t : Sorting) (a b : String) :
    (t.release (edgesWithin next nodes) a).count b =
      t.count b - (edgesWithin next nodes a).count b := count_foldl_lower _ _ b

/-- Nothing that is left leads to the node that was ready. -/
theorem ahead_release (h : t.Fits next nodes) (ha : t.first? = some a) (hb : b ∈ t.rest.erase a)
    {c : String} (hc : c ∈ edgesWithin next nodes b) : c ∈ t.rest.erase a := by
  have hbrest := List.mem_of_mem_erase hb
  refine (List.Nodup.mem_erase_iff h.nodup).2 ⟨?_, h.ahead b hbrest c hc⟩
  rintro rfl
  have hzero := h.count_eq_zero_of_first? ha
  rw [h.counts, Int.natCast_eq_zero, List.count_eq_zero] at hzero
  exact hzero (List.mem_flatMap.2 ⟨b, hbrest, hc⟩)

theorem mem_ready_release (h : t.Fits next nodes) (ha : t.first? = some a) (b : String) :
    b ∈ (t.release (edgesWithin next nodes) a).ready ↔
      b ∈ t.rest.erase a ∧ (t.release (edgesWithin next nodes) a).count b = 0 := by
  have hmem := mem_rest_of_first? ha
  have hle := h.count_le hmem
  have hready : b ∈ (t.release (edgesWithin next nodes) a).ready ↔
      b ∈ without t.ready a ∨ b ∈ edgesWithin next nodes a ∧
        (t.release (edgesWithin next nodes) a).count b = 0 :=
    mem_ready_foldl_lower hle
  rw [hready, mem_without, h.ready, List.Nodup.mem_erase_iff h.nodup, count_release]
  constructor
  · rintro (⟨⟨hb, hzero⟩, hba⟩ | ⟨hb, hzero⟩)
    · have hb' := hle b
      exact ⟨⟨hba, hb⟩, by omega⟩
    · exact ⟨⟨(mem_edgesWithin.1 hb).2.1, h.ahead a hmem b hb⟩, hzero⟩
  · rintro ⟨⟨hba, hb⟩, hzero⟩
    by_cases hedge : b ∈ edgesWithin next nodes a
    · exact .inr ⟨hedge, hzero⟩
    · rw [List.count_eq_zero.2 hedge] at hzero
      exact .inl ⟨⟨hb, by simpa using hzero⟩, hba⟩

theorem release (h : t.Fits next nodes) (ha : t.first? = some a) :
    (t.release (edgesWithin next nodes) a).Fits next nodes := by
  have hrest := rest_release (edgesWithin next nodes) t a
  constructor
  case nodup => exact hrest ▸ h.nodup.erase a
  case known => exact fun b hb => h.known b (List.mem_of_mem_erase (hrest ▸ hb))
  case counts =>
    intro b
    rw [count_release, hrest, h.count_eq_add (mem_rest_of_first? ha)]
    omega
  case ahead => exact fun b hb c hc => hrest ▸ h.ahead_release ha (hrest ▸ hb) hc
  case ready => exact fun b => hrest ▸ h.mem_ready_release ha b

end Fits

/-! ## Runs -/

/-- The states between the turns of the sorting of a pool. -/
inductive Reached (next : String → List String) (nodes : List String) : Sorting → Prop where
  | start : Reached next nodes (start (edgesWithin next nodes) nodes)
  | release {t : Sorting} {a : String} (h : Reached next nodes t) (ha : t.first? = some a) :
      Reached next nodes (t.release (edgesWithin next nodes) a)

theorem Reached.fits (hn : nodes.Nodup) (h : Reached next nodes t) : t.Fits next nodes := by
  induction h with
  | start => exact Fits.start hn
  | release _ ha ih => exact ih.release ha

end Sorting

theorem reached_settle {t : Sorting} (h : Sorting.Reached next nodes t) :
    Sorting.Reached next nodes (settle (edgesWithin next nodes) t) ∧
      (settle (edgesWithin next nodes) t).first? = none := by
  fun_induction settle (edgesWithin next nodes) t with
  | case1 t hnone => exact ⟨h, hnone⟩
  | case2 t a ha ih => exact ih (h.release ha)

/-- The rest of a sorting is arranged behind what has been placed. -/
theorem settle_eq_arrange {t : Sorting} (h : t.Fits next nodes) :
    (settle (edgesWithin next nodes) t).placed ++ (settle (edgesWithin next nodes) t).rest =
      t.placed ++ arrange (fun a b => (next a).contains b) t.rest := by
  fun_induction settle (edgesWithin next nodes) t with
  | case1 t hnone =>
    rw [h.first?_eq] at hnone
    rw [arrange]
    split
    · rfl
    · rename_i a ha
      rw [hnone] at ha
      cases ha
  | case2 t a ha ih =>
    have hplaced : (t.release (edgesWithin next nodes) a).placed = t.placed ++ [a] :=
      (Sorting.foldl_lower_frame _ _).1
    rw [ih (h.release ha), hplaced, Sorting.rest_release]
    rw [h.first?_eq] at ha
    rw [List.append_assoc, arrange.eq_def _ t.rest]
    split
    · rename_i hnone
      rw [hnone] at ha
      cases ha
    · rename_i b hb
      rw [hb] at ha
      cases ha
      rfl

/-- Sorting by the work list takes the first free node again and again. -/
theorem sort_eq_arrange (hn : nodes.Nodup) :
    sort next nodes = arrange (fun a b => (next a).contains b) nodes := by
  obtain ⟨hplaced, hrest⟩ := Sorting.foldl_raise_frame { rest := nodes }
    (nodes.flatMap (edgesWithin next nodes))
  refine (settle_eq_arrange (Sorting.Fits.start hn)).trans ?_
  show (List.foldl Sorting.raise _ _).placed ++ arrange _ (List.foldl Sorting.raise _ _).rest = _
  rw [hplaced, hrest]
  rfl

end FormEngine.Digraph
