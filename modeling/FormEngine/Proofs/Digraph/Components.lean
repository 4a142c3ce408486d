import FormEngine.Proofs.Digraph.Search.Run
import Mathlib.Data.List.Pairwise

/-!
# Cycles as components

A component of the search holds a cycle exactly when its nodes reach themselves (`holdsCycle_iff`).
So two nodes are in one of the reported cycles exactly when they lead to one another
(`mem_loops_iff_transGen`), no node is reported twice, and sorting puts cycles and their members in
the order of the nodes.
-/

namespace FormEngine.Digraph

/-! ## Sorting by a key -/

section Sorting

variable {α : Type} {l : List α} (key : α → Nat)

theorem pairwise_le_mergeSort :
    (l.mergeSort fun a b => key a ≤ key b).Pairwise fun a b => key a ≤ key b := by
  refine (List.pairwise_mergeSort ?_ ?_ l).imp of_decide_eq_true
  · intro a b c hab hbc
    simp only [decide_eq_true_eq] at hab hbc ⊢
    omega
  · intro a b
    simp only [Bool.or_eq_true, decide_eq_true_eq]
    omega

theorem pairwise_lt_mergeSort (h : l.Pairwise fun a b => key a ≠ key b) :
    (l.mergeSort fun a b => key a ≤ key b).Pairwise fun a b => key a < key b := by
  have hne : (l.mergeSort fun a b => key a ≤ key b).Pairwise fun a b => key a ≠ key b :=
    h.perm (List.mergeSort_perm l _).symm fun hab => Ne.symm hab
  exact ((pairwise_le_mergeSort key).and hne).imp fun hab => Nat.lt_of_le_of_ne hab.1 hab.2

end Sorting

variable {next : String → List String} {nodes c : List String} {a b : String}

/-! ## Components of the search -/

theorem mem_component_iff (hc : c ∈ (search next nodes).components) (ha : a ∈ c) :
    b ∈ c ↔
      Relation.ReflTransGen (Edge next nodes) a b ∧ Relation.ReflTransGen (Edge next nodes) b a :=
  (sound_search next nodes).classes c hc a ha b

theorem nodup_component (hc : c ∈ (search next nodes).components) : c.Nodup :=
  (List.nodup_flatten.1 nodup_flatten_search).1 c hc

theorem mem_nodes_of_mem_component (hc : c ∈ (search next nodes).components) (ha : a ∈ c) :
    a ∈ nodes := mem_flatten_search.1 (List.mem_flatten_of_mem hc ha)

theorem transGen_of_mem_component (hc : c ∈ (search next nodes).components) (ha : a ∈ c)
    (hb : b ∈ c) (hne : a ≠ b) : Relation.TransGen (Edge next nodes) a b :=
  (Relation.reflTransGen_iff_eq_or_transGen.1 ((mem_component_iff hc ha).1 hb).1).resolve_left
    (Ne.symm hne)

/-- A component holds a cycle exactly when its nodes reach themselves. -/
theorem holdsCycle_iff (hc : c ∈ (search next nodes).components) (ha : a ∈ c) :
    holdsCycle next c = true ↔ Relation.TransGen (Edge next nodes) a a := by
  match c, hc, ha with
  | [b], hc, ha =>
    cases List.mem_singleton.1 ha
    simp only [holdsCycle, List.length_singleton, Nat.lt_irrefl, decide_false, Bool.false_or,
      List.head?_cons, Option.any_some, List.contains_iff_mem]
    constructor
    · exact fun hself => .single ⟨hself, mem_nodes_of_mem_component hc ha⟩
    · intro hself
      obtain ⟨b, hedge, hback⟩ := Relation.TransGen.head'_iff.1 hself
      have hb : b ∈ [a] := (mem_component_iff hc ha).2 ⟨.single hedge, hback⟩
      cases List.mem_singleton.1 hb
      exact hedge.1
  | b :: d :: rest, hc, ha =>
    have hlong : holdsCycle next (b :: d :: rest) = true := by simp [holdsCycle]
    refine ⟨fun _ => ?_, fun _ => hlong⟩
    have hbd : b ≠ d := by
      have hn := nodup_component hc
      simp only [List.nodup_cons, List.mem_cons, not_or] at hn
      exact hn.1.1
    obtain ⟨x, hx, hne⟩ : ∃ x ∈ b :: d :: rest, a ≠ x := by
      by_cases hab : a = b
      · exact ⟨d, by simp, hab ▸ hbd⟩
      · exact ⟨b, by simp, hab⟩
    exact (transGen_of_mem_component hc ha hx hne).trans
      (transGen_of_mem_component hc hx ha (Ne.symm hne))

/-! ## Reported cycles -/

/-- The reported cycles are the components that hold cycles, up to the order of their members. -/
theorem mem_loops_iff :
    c ∈ loops next nodes ↔ ∃ d ∈ (search next nodes).components, holdsCycle next d = true ∧
      d.mergeSort (fun a b => nodes.idxOf a ≤ nodes.idxOf b) = c := by
  simp only [loops, List.mem_mergeSort, List.mem_map, List.mem_filter, and_assoc]

/-- Two nodes are in one reported cycle exactly when each leads to the other. -/
theorem mem_loops_iff_transGen :
    (∃ c ∈ loops next nodes, a ∈ c ∧ b ∈ c) ↔
      Relation.TransGen (Edge next nodes) a b ∧ Relation.TransGen (Edge next nodes) b a := by
  simp only [mem_loops_iff]
  constructor
  · rintro ⟨_, ⟨c, hc, hcycle, rfl⟩, ha, hb⟩
    rw [List.mem_mergeSort] at ha hb
    have hself := (holdsCycle_iff hc ha).1 hcycle
    obtain ⟨hab, hba⟩ := (mem_component_iff hc ha).1 hb
    exact ⟨hself.trans_left hab, Relation.TransGen.trans_right hba hself⟩
  · rintro ⟨hab, hba⟩
    obtain ⟨_, -, hlast⟩ := Relation.TransGen.tail'_iff.1 hba
    obtain ⟨c, hc, ha⟩ := List.mem_flatten.1 (mem_flatten_search.2 hlast.2)
    have hb : b ∈ c := (mem_component_iff hc ha).2 ⟨hab.to_reflTransGen, hba.to_reflTransGen⟩
    exact ⟨_, ⟨c, hc, (holdsCycle_iff hc ha).2 (hab.trans hba), rfl⟩,
      List.mem_mergeSort.2 ha, List.mem_mergeSort.2 hb⟩

theorem ne_nil_of_mem_loops (h : c ∈ loops next nodes) : c ≠ [] := by
  obtain ⟨d, -, hcycle, rfl⟩ := mem_loops_iff.1 h
  rw [← List.length_pos_iff, List.length_mergeSort, List.length_pos_iff]
  rintro rfl
  cases hcycle

/-- No cycle is reported exactly when no node reaches itself. -/
theorem loops_eq_nil_iff :
    loops next nodes = [] ↔ ∀ a, ¬ Relation.TransGen (Edge next nodes) a a := by
  constructor
  · intro h a hself
    obtain ⟨c, hc, -⟩ := mem_loops_iff_transGen.2 ⟨hself, hself⟩
    rw [h] at hc
    cases hc
  · intro h
    refine List.eq_nil_iff_forall_not_mem.2 fun c hc => ?_
    obtain ⟨a, ha⟩ := List.exists_mem_of_ne_nil c (ne_nil_of_mem_loops hc)
    exact h a (mem_loops_iff_transGen.1 ⟨c, hc, ha, ha⟩).1

theorem nodup_flatten_loops : (loops next nodes).flatten.Nodup := by
  refine List.nodup_flatten.2 ⟨fun c hc => ?_, ?_⟩
  · obtain ⟨d, hd, -, rfl⟩ := mem_loops_iff.1 hc
    exact (List.mergeSort_perm d _).nodup_iff.2 (nodup_component hd)
  · refine List.Pairwise.perm ?_ (List.mergeSort_perm _ _).symm fun h _ hc hd => h hd hc
    refine List.pairwise_map.2 (List.Pairwise.imp ?_
      ((List.nodup_flatten.1 (@nodup_flatten_search next nodes)).2.filter _))
    intro c d hdisjoint x hc hd
    exact hdisjoint (List.mem_mergeSort.1 hc) (List.mem_mergeSort.1 hd)

theorem pairwise_of_mem_loops (h : c ∈ loops next nodes) :
    c.Pairwise fun a b => nodes.idxOf a < nodes.idxOf b := by
  obtain ⟨d, hd, -, rfl⟩ := mem_loops_iff.1 h
  refine pairwise_lt_mergeSort _ ((nodup_component hd).imp_of_mem fun {a b} ha _ hne => ?_)
  rw [Ne, List.idxOf_inj (mem_nodes_of_mem_component hd ha)]
  exact hne

theorem mem_nodes_of_mem_loops (h : c ∈ loops next nodes) (ha : a ∈ c) : a ∈ nodes := by
  obtain ⟨d, hd, -, rfl⟩ := mem_loops_iff.1 h
  exact mem_nodes_of_mem_component hd (List.mem_mergeSort.1 ha)

theorem pairwise_loops :
    (loops next nodes).Pairwise fun c d => ∀ a b, c.head? = some a → d.head? = some b →
      nodes.idxOf a < nodes.idxOf b := by
  have hsorted : (loops next nodes).Pairwise fun c d =>
      (c.head?.map nodes.idxOf).getD nodes.length ≤ (d.head?.map nodes.idxOf).getD nodes.length :=
    pairwise_le_mergeSort _
  have hdisjoint := (List.nodup_flatten.1 (@nodup_flatten_loops next nodes)).2
  refine (hsorted.and hdisjoint).imp_of_mem fun {c d} hc _ hcd a b ha hb => ?_
  have hle : nodes.idxOf a ≤ nodes.idxOf b := by simpa [ha, hb] using hcd.1
  refine Nat.lt_of_le_of_ne hle fun heq => ?_
  have hmem := List.mem_of_head? ha
  rw [List.idxOf_inj (mem_nodes_of_mem_loops hc hmem)] at heq
  exact hcd.2 hmem (heq ▸ List.mem_of_head? hb)

theorem not_transGen_of_rank (rank : String → Nat)
    (h : ∀ a ∈ nodes, ∀ b ∈ next a, rank a < rank b) (a : String) :
    ¬ Relation.TransGen (Edge next nodes) a a := by
  intro hself
  have hrank : ∀ b, Relation.TransGen (Edge next nodes) a b → a ∈ nodes →
      rank a < rank b ∧ b ∈ nodes := by
    intro b hwalk ha
    induction hwalk with
    | single hedge => exact ⟨h a ha _ hedge.1, hedge.2⟩
    | tail _ hedge ih => exact ⟨Nat.lt_trans ih.1 (h _ ih.2 _ hedge.1), hedge.2⟩
  obtain ⟨_, -, hlast⟩ := Relation.TransGen.tail'_iff.1 hself
  exact Nat.lt_irrefl _ (hrank a hself hlast.2).1

end FormEngine.Digraph
