import Mathlib.Data.Fintype.Card
import Mathlib.Data.List.Perm.Basic
import Mathlib.Data.Set.Finite.List
import Mathlib.Logic.Relation
import Mathlib.Order.WellFounded

/-!
# Arrangements

`arrange` says in which order the nodes of a pool stand when each is to stand behind the ones that
feed it: the first free node comes first, then the arrangement of the others. It rearranges its pool
(`arrange_perm`). Where no node reaches itself along `feeds` there is always a free node to take, so
every node stands behind the nodes that feed it (`pairwise_arrange`).

With cycles an arrangement has two parts (`exists_parts`). Nodes of the front stand behind the nodes
that feed them; nodes of the back are those that lie behind a cycle (`Parts.mem_back_iff`).
-/

namespace FormEngine.Digraph

variable {α : Type}

/-! ## Behind cycles -/

/-- A node lies on a cycle of several nodes, or is reached from one. -/
def BehindCycle (edge : α → α → Prop) (a : α) : Prop :=
  ∃ c d, c ≠ d ∧ Relation.TransGen edge c d ∧ Relation.TransGen edge d c ∧
    Relation.ReflTransGen edge c a

theorem behindCycle_of_transGen {edge : α → α → Prop} {a b : α} (hirrefl : ∀ c, ¬ edge c c)
    (h : Relation.TransGen edge a a) (hab : Relation.ReflTransGen edge a b) :
    BehindCycle edge b := by
  obtain ⟨c, hac, hca⟩ := Relation.TransGen.head'_iff.1 h
  have hne : a ≠ c := by
    rintro rfl
    exact hirrefl a hac
  exact ⟨a, c, hne, .single hac,
    (Relation.reflTransGen_iff_eq_or_transGen.1 hca).resolve_left hne, hab⟩

theorem BehindCycle.mono {edge other : α → α → Prop} (hsub : ∀ a b, edge a b → other a b) {a : α}
    (h : BehindCycle edge a) : BehindCycle other a := by
  obtain ⟨c, d, hcd, hto, hback, ha⟩ := h
  exact ⟨c, d, hcd, Relation.TransGen.mono hsub _ _ hto, Relation.TransGen.mono hsub _ _ hback,
    Relation.ReflTransGen.mono hsub _ _ ha⟩

theorem BehindCycle.tail {edge : α → α → Prop} {a b : α} (h : BehindCycle edge a)
    (hab : edge a b) : BehindCycle edge b := by
  obtain ⟨c, d, hcd, hto, hback, ha⟩ := h
  exact ⟨c, d, hcd, hto, hback, ha.tail hab⟩

theorem idxOf_lt_iff [DecidableEq α] {key : α → Nat} {l : List α}
    (h : l.Pairwise fun a b => key a < key b) {a b : α} (ha : a ∈ l) (hb : b ∈ l) :
    l.idxOf a < l.idxOf b ↔ key a < key b := by
  have hlt : ∀ {a b}, a ∈ l → b ∈ l → l.idxOf a < l.idxOf b → key a < key b := by
    intro a b ha hb hab
    have hkey := List.pairwise_iff_getElem.1 h _ _ (List.idxOf_lt_length_of_mem ha)
      (List.idxOf_lt_length_of_mem hb) hab
    rwa [List.getElem_idxOf, List.getElem_idxOf] at hkey
  refine ⟨hlt ha hb, fun hkey => ?_⟩
  rcases Nat.lt_trichotomy (l.idxOf a) (l.idxOf b) with hab | hab | hab
  · exact hab
  · rw [(List.idxOf_inj ha).1 hab] at hkey
    exact absurd hkey (Nat.lt_irrefl _)
  · exact absurd (hlt hb ha hab) (by omega)

theorem lt_of_find? {lt : α → α → Prop} {test : α → Bool} {l : List α} (hlt : l.Pairwise lt)
    {a b : α} (ha : l.find? test = some a) (hb : b ∈ l) (htest : test b = true) (hne : b ≠ a) :
    lt a b := by
  obtain ⟨-, before, after, rfl, hbefore⟩ := List.find?_eq_some_iff_append.1 ha
  have hrest : b ∈ after := by
    rcases List.mem_append.1 hb with hb | hb
    · exact absurd htest (by simpa using hbefore b hb)
    · exact (List.mem_cons.1 hb).resolve_left hne
  exact List.rel_of_pairwise_cons (List.pairwise_append.1 hlt).2.1 hrest

/-! ## Free nodes first -/

variable [DecidableEq α] {feeds : α → α → Bool} {pool : List α}

/-- Whether no other node of the pool feeds a node. -/
def isFree (feeds : α → α → Bool) (pool : List α) (a : α) : Bool :=
  pool.all fun b => b = a || !feeds b a

/-- Takes the first free node of the pool again and again; once none is free, the rest follows. -/
def arrange (feeds : α → α → Bool) (pool : List α) : List α :=
  match _h : pool.find? (isFree feeds pool) with
  | none => pool
  | some a => a :: arrange feeds (pool.erase a)
termination_by pool.length
decreasing_by
  have hmem := List.mem_of_find?_eq_some _h
  have hpos := List.length_pos_of_mem hmem
  rw [List.length_erase_of_mem hmem]
  omega

theorem isFree_iff {a : α} :
    isFree feeds pool a = true ↔ ∀ b ∈ pool, b ≠ a → feeds b a = false := by
  simp only [isFree, List.all_eq_true, Bool.or_eq_true, decide_eq_true_eq, Bool.not_eq_true']
  refine forall₂_congr fun b _ => ?_
  tauto

theorem arrange_perm (feeds : α → α → Bool) (pool : List α) :
    (arrange feeds pool).Perm pool := by
  fun_induction arrange feeds pool with
  | case1 pool _ => exact .refl _
  | case2 pool a ha ih =>
    exact (ih.cons a).trans (List.perm_cons_erase (List.mem_of_find?_eq_some ha)).symm

theorem mem_arrange {a : α} : a ∈ arrange feeds pool ↔ a ∈ pool :=
  (arrange_perm feeds pool).mem_iff

theorem arrange_arrange (feeds : α → α → Bool) (pool : List α) :
    arrange feeds (arrange feeds pool) = arrange feeds pool := by
  fun_induction arrange feeds pool with
  | case1 pool hnone =>
    rw [arrange]
    split
    · rfl
    · rename_i a ha
      rw [hnone] at ha
      cases ha
  | case2 pool a ha ih =>
    have hperm : (a :: arrange feeds (pool.erase a)).Perm pool :=
      ((arrange_perm _ _).cons a).trans (List.perm_cons_erase (List.mem_of_find?_eq_some ha)).symm
    have hfree : isFree feeds (a :: arrange feeds (pool.erase a)) a = true :=
      isFree_iff.2 fun b hb => isFree_iff.1 (List.find?_some ha) b (hperm.mem_iff.1 hb)
    rw [arrange]
    split
    · rename_i hnone
      exact absurd hfree (List.find?_eq_none.1 hnone a List.mem_cons_self)
    · rename_i b hb
      rw [List.find?_cons_of_pos hfree] at hb
      cases hb
      rw [List.erase_cons_head, ih]

/-- In a pool without cycles some node is fed by no other one. -/
theorem exists_free (hacyclic : ∀ a, ¬ Relation.TransGen (fun a b => feeds a b = true) a a)
    (hne : pool ≠ []) : ∃ a ∈ pool, isFree feeds pool a = true := by
  let below (a b : {a // a ∈ pool}) : Prop :=
    Relation.TransGen (fun a b => feeds a b = true) a.1 b.1
  have _ : IsTrans _ below := ⟨fun _ _ _ hab hbc => Relation.TransGen.trans hab hbc⟩
  have _ : Std.Irrefl below := ⟨fun a => hacyclic a.1⟩
  have hwf : WellFounded below := Finite.wellFounded_of_trans_of_irrefl below
  obtain ⟨first, hfirst⟩ := List.exists_mem_of_ne_nil pool hne
  obtain ⟨least, -, hleast⟩ := hwf.has_min Set.univ ⟨⟨first, hfirst⟩, trivial⟩
  refine ⟨least.1, least.2, isFree_iff.2 fun b hb _ => ?_⟩
  rw [Bool.eq_false_iff]
  intro hfeeds
  exact hleast ⟨b, hb⟩ trivial (Relation.TransGen.single hfeeds)

/-- Without cycles no node of an arrangement feeds an earlier one. -/
theorem pairwise_arrange (hacyclic : ∀ a, ¬ Relation.TransGen (fun a b => feeds a b = true) a a)
    (hn : pool.Nodup) : (arrange feeds pool).Pairwise fun a b => feeds b a = false := by
  fun_induction arrange feeds pool with
  | case1 pool hnone =>
    by_cases hne : pool = []
    · simp [hne]
    · obtain ⟨a, ha, hfree⟩ := exists_free hacyclic hne
      exact absurd hfree (by simpa using List.find?_eq_none.1 hnone a ha)
  | case2 pool a ha ih =>
    refine List.pairwise_cons.2 ⟨fun b hb => ?_, ih (hn.erase a)⟩
    obtain ⟨hba, hb⟩ := (List.Nodup.mem_erase_iff hn).1 (mem_arrange.1 hb)
    exact isFree_iff.1 (List.find?_some ha) b hb hba

/-! ## Front and back -/

/-- The parts of an arrangement of a pool whose order is `lt`. -/
structure Parts (feeds : α → α → Bool) (lt : α → α → Prop) (pool front back : List α) : Prop where
  perm : (front ++ back).Perm pool
  /-- The back is in the order of the pool. -/
  sublist : back.Sublist pool
  /-- A node of the back is fed by another one. -/
  stuck : ∀ a ∈ back, ∃ b ∈ back, b ≠ a ∧ feeds b a = true
  /-- A node of the front stands behind all that feed it. -/
  behind : ∀ before a after, front = before ++ a :: after →
    ∀ b ∈ pool, b ≠ a → feeds b a = true → b ∈ before
  /-- Of the nodes of the front that could come next, the first in the pool comes. -/
  first : ∀ before a after, front = before ++ a :: after →
    ∀ b ∈ after, (∀ c ∈ pool, c ≠ b → feeds c b = true → c ∈ before) → lt a b

theorem Parts.of_stuck {lt : α → α → Prop} (hnone : pool.find? (isFree feeds pool) = none) :
    Parts feeds lt pool [] pool where
  perm := .refl _
  sublist := List.Sublist.refl _
  stuck := by
    intro a ha
    have hfree := List.find?_eq_none.1 hnone a ha
    rw [isFree_iff] at hfree
    push Not at hfree
    simpa using hfree
  behind := fun before a after h => by simp at h
  first := fun before a after h => by simp at h

/-- The first free node comes in front of the parts of the others. -/
theorem Parts.cons {lt : α → α → Prop} (hlt : pool.Pairwise lt) (hn : pool.Nodup) {a : α}
    (ha : pool.find? (isFree feeds pool) = some a) {front back : List α}
    (h : Parts feeds lt (pool.erase a) front back) : Parts feeds lt pool (a :: front) back where
  perm := (h.perm.cons a).trans (List.perm_cons_erase (List.mem_of_find?_eq_some ha)).symm
  sublist := h.sublist.trans List.erase_sublist
  stuck := h.stuck
  behind := by
    intro before b after hsplit c hc hcb hfeeds
    cases before with
    | nil =>
      cases hsplit
      exact absurd hfeeds (by simp [isFree_iff.1 (List.find?_some ha) c hc hcb])
    | cons first before =>
      obtain ⟨rfl, hfront⟩ := List.cons.inj hsplit
      by_cases hca : c = a
      · exact List.mem_cons.2 (.inl hca)
      · exact List.mem_cons_of_mem _
          (h.behind before b after hfront c ((List.mem_erase_of_ne hca).2 hc) hcb hfeeds)
  first := by
    intro before b after hsplit c hc hnext
    cases before with
    | nil =>
      cases hsplit
      obtain ⟨hca, hcpool⟩ := (List.Nodup.mem_erase_iff hn).1
        (h.perm.mem_iff.1 (List.mem_append_left back hc))
      refine lt_of_find? hlt ha hcpool (isFree_iff.2 fun d hd hdc => ?_) hca
      rw [Bool.eq_false_iff]
      exact fun hfeeds => List.not_mem_nil (hnext d hd hdc hfeeds)
    | cons first before =>
      obtain ⟨rfl, hfront⟩ := List.cons.inj hsplit
      refine h.first before b after hfront c hc fun d hd hdc hfeeds => ?_
      obtain ⟨hda, hdpool⟩ := (List.Nodup.mem_erase_iff hn).1 hd
      exact (List.mem_cons.1 (hnext d hdpool hdc hfeeds)).resolve_left hda

theorem exists_parts (feeds : α → α → Bool) {lt : α → α → Prop} (hlt : pool.Pairwise lt)
    (hn : pool.Nodup) :
    ∃ front back, arrange feeds pool = front ++ back ∧ Parts feeds lt pool front back := by
  fun_induction arrange feeds pool with
  | case1 pool hnone => exact ⟨[], pool, rfl, .of_stuck hnone⟩
  | case2 pool a ha ih =>
    obtain ⟨front, back, heq, hparts⟩ := ih (hlt.sublist List.erase_sublist) (hn.erase a)
    exact ⟨a :: front, back, by rw [heq]; rfl, hparts.cons hlt hn ha⟩

/-! ## The back -/

/-- The edges between nodes of a pool. -/
def Within (feeds : α → α → Bool) (pool : List α) (a b : α) : Prop :=
  a ∈ pool ∧ b ∈ pool ∧ feeds a b = true

/-- Nodes each of which is fed by another one lie behind cycles. -/
theorem behindCycle_of_stuck {back : List α}
    (hstuck : ∀ a ∈ back, ∃ b ∈ back, b ≠ a ∧ feeds b a = true) {a : α} (ha : a ∈ back) :
    BehindCycle (Within feeds back) a := by
  classical
  by_contra hnot
  let edge (b c : α) : Prop := Within feeds back b c ∧ b ≠ c
  let leads (b : α) : Prop := Relation.ReflTransGen edge b a
  have hacyclic : ∀ b, ¬ Relation.TransGen
      (fun b c => decide (edge b c ∧ leads c) = true) b b := by
    intro b hb
    have hedge : Relation.TransGen edge b b :=
      Relation.TransGen.mono (fun _ _ h => (of_decide_eq_true h).1) _ _ hb
    obtain ⟨c, -, hcb⟩ := Relation.TransGen.tail'_iff.1 hb
    exact hnot ((behindCycle_of_transGen (fun c hc => hc.2 rfl) hedge
      (of_decide_eq_true hcb).2).mono fun _ _ h => h.1)
  have hmem : ∀ b, b ∈ back.filter (fun b => decide (leads b)) ↔ b ∈ back ∧ leads b := by
    simp
  obtain ⟨b, hb, hfree⟩ := exists_free hacyclic
    (List.ne_nil_of_mem ((hmem a).2 ⟨ha, .refl⟩))
  obtain ⟨hback, hleads⟩ := (hmem b).1 hb
  obtain ⟨c, hc, hcb, hfeeds⟩ := hstuck b hback
  have hedge : edge c b := ⟨⟨hc, hback, hfeeds⟩, hcb⟩
  have hfalse := isFree_iff.1 hfree c ((hmem c).2 ⟨hc, hleads.head hedge⟩) hcb
  exact of_decide_eq_false hfalse ⟨hedge, hleads⟩

namespace Parts

variable {lt : α → α → Prop} {front back : List α} {a b : α}

theorem idxOf_lt (h : Parts feeds lt pool front back) (hn : pool.Nodup) (ha : a ∈ pool)
    (hab : a ≠ b) (hfeeds : feeds a b = true) (hb : b ∈ front) :
    a ∈ front ∧ front.idxOf a < front.idxOf b := by
  obtain ⟨before, after, hfront⟩ := List.append_of_mem hb
  have hmem := h.behind before b after hfront a ha hab hfeeds
  have hnb : b ∉ before := fun hbefore => by
    have hnodup := (List.nodup_append.1 (h.perm.nodup_iff.2 hn)).1
    rw [hfront] at hnodup
    exact (List.nodup_append.1 hnodup).2.2 b hbefore b List.mem_cons_self rfl
  rw [hfront]
  refine ⟨List.mem_append_left _ hmem, ?_⟩
  rw [List.idxOf_append_of_mem hmem, List.idxOf_append_of_notMem hnb, List.idxOf_cons_self]
  exact List.idxOf_lt_length_of_mem hmem

/-- No node of the front feeds an earlier one. -/
theorem pairwise_front (h : Parts feeds lt pool front back) (hn : pool.Nodup) :
    front.Pairwise fun a b => feeds b a = false := by
  have hnodup : front.Nodup := (List.nodup_append.1 (h.perm.nodup_iff.2 hn)).1
  refine List.pairwise_iff_getElem.2 fun i j hi hj hij => ?_
  rw [Bool.eq_false_iff]
  intro hfeeds
  have hmem := h.perm.mem_iff.1 (List.mem_append_left back (List.getElem_mem hj))
  have hne : front[j] ≠ front[i] := fun heq =>
    (Nat.ne_of_lt hij) ((hnodup.getElem_inj_iff).1 heq).symm
  obtain ⟨-, hlt⟩ := h.idxOf_lt hn hmem hne hfeeds (List.getElem_mem hi)
  rw [hnodup.idxOf_getElem, hnodup.idxOf_getElem] at hlt
  omega

/-- What leads to a node of the front stands in the front, and before it if it is another one. -/
theorem idxOf_lt_of_reflTransGen (h : Parts feeds lt pool front back) (hn : pool.Nodup)
    (hab : Relation.ReflTransGen (Within feeds pool) a b) (hb : b ∈ front) :
    a ∈ front ∧ (a = b ∨ front.idxOf a < front.idxOf b) := by
  induction hab using Relation.ReflTransGen.head_induction_on with
  | refl => exact ⟨hb, .inl rfl⟩
  | @head a c hedge _ ih =>
    obtain ⟨hc, hcb⟩ := ih
    by_cases hac : a = c
    · rw [hac]
      exact ⟨hc, hcb⟩
    · obtain ⟨ha, hlt⟩ := h.idxOf_lt hn hedge.1 hac hedge.2.2 hc
      refine ⟨ha, .inr ?_⟩
      rcases hcb with rfl | hcb
      · exact hlt
      · exact hlt.trans hcb

/-- The back holds the nodes behind cycles. -/
theorem mem_back_iff (h : Parts feeds lt pool front back) (hn : pool.Nodup) :
    a ∈ back ↔ BehindCycle (Within feeds pool) a := by
  constructor
  · intro ha
    refine (behindCycle_of_stuck h.stuck ha).mono fun b c hbc => ?_
    exact ⟨h.sublist.subset hbc.1, h.sublist.subset hbc.2.1, hbc.2.2⟩
  · rintro ⟨c, d, hcd, hto, hback, hca⟩
    have hpool : ∀ {x y}, Relation.TransGen (Within feeds pool) x y → y ∈ pool := by
      intro x y hxy
      obtain ⟨_, -, hlast⟩ := Relation.TransGen.tail'_iff.1 hxy
      exact hlast.2.1
    by_contra hnot
    have hfront : a ∈ front := by
      have hmem := h.perm.mem_iff.2 (hpool (hback.trans_left hca))
      exact (List.mem_append.1 hmem).resolve_right hnot
    obtain ⟨hc, -⟩ := h.idxOf_lt_of_reflTransGen hn hca hfront
    obtain ⟨hd, hdc⟩ := h.idxOf_lt_of_reflTransGen hn hback.to_reflTransGen hc
    obtain ⟨-, hcd'⟩ := h.idxOf_lt_of_reflTransGen hn hto.to_reflTransGen hd
    have hlt := hdc.resolve_left (Ne.symm hcd)
    exact absurd (hcd'.resolve_left hcd) (by omega)

theorem mem_front_iff (h : Parts feeds lt pool front back) (hn : pool.Nodup) (ha : a ∈ pool) :
    a ∈ front ↔ ¬ BehindCycle (Within feeds pool) a := by
  rw [← h.mem_back_iff hn]
  have hmem := List.mem_append.1 (h.perm.mem_iff.2 ha)
  have hdisjoint := (List.nodup_append.1 (h.perm.nodup_iff.2 hn)).2.2
  constructor
  · exact fun hfront hback => hdisjoint a hfront a hback rfl
  · exact fun hnot => hmem.resolve_right hnot

/-- A node that feeds another comes before it unless it is in the back and later in the pool. -/
theorem idxOf_append_lt_iff {key : α → Nat}
    (h : Parts feeds (fun a b => key a < key b) pool front back) (hn : pool.Nodup)
    (horder : pool.Pairwise fun a b => key a < key b) (ha : a ∈ pool) (hb : b ∈ pool)
    (hab : a ≠ b) (hfeeds : feeds a b = true) :
    (front ++ back).idxOf a < (front ++ back).idxOf b ↔
      ¬ BehindCycle (Within feeds pool) a ∨ key a < key b := by
  have hdisjoint := (List.nodup_append.1 (h.perm.nodup_iff.2 hn)).2.2
  have hnotFront : ∀ {c}, c ∈ back → c ∉ front := fun hback hfront =>
    hdisjoint _ hfront _ hback rfl
  by_cases hfront : a ∈ front
  · refine iff_of_true ?_ (.inl ((h.mem_front_iff hn ha).1 hfront))
    by_cases hbfront : b ∈ front
    · rw [List.idxOf_append_of_mem hfront, List.idxOf_append_of_mem hbfront]
      exact (h.idxOf_lt hn ha hab hfeeds hbfront).2
    · rw [List.idxOf_append_of_mem hfront, List.idxOf_append_of_notMem hbfront]
      exact Nat.lt_add_right _ (List.idxOf_lt_length_of_mem hfront)
  · have haback := (List.mem_append.1 (h.perm.mem_iff.2 ha)).resolve_left hfront
    have hbehind := (h.mem_back_iff hn).1 haback
    have hbback := (h.mem_back_iff hn).2 (hbehind.tail ⟨ha, hb, hfeeds⟩)
    rw [List.idxOf_append_of_notMem hfront, List.idxOf_append_of_notMem (hnotFront hbback),
      Nat.add_lt_add_iff_left, idxOf_lt_iff (horder.sublist h.sublist) haback hbback]
    exact ⟨.inr, fun hor => hor.resolve_left (not_not_intro hbehind)⟩

end Parts

end FormEngine.Digraph
