import FormEngine.Proofs.RuleGraph.Cycles

/-!
# The order of evaluation

`sortRules` arranges the known rules of a list in two parts. Those of the front are fed by rules
before them only, and each comes as early as the order of the list allows; those of the back lie on
a cycle of several rules of the list or behind one, and keep the order of the list
(`sortRules_front_and_back`). A rule that feeds another stands before it unless it is in the back
and comes later in the list (`writer_before_reader_iff`).
-/

namespace FormEngine.RuleGraph

open FormEngine.Digraph (BehindCycle Within Parts Sorting)

/-- Both rules are in a list, and the first feeds the second. -/
def FeedsWithin (g : RuleGraph) (ids : List String) (a b : String) : Prop :=
  a ∈ ids ∧ b ∈ ids ∧ g.Feeds a b

theorem pairwise_candidates (g : RuleGraph) (ids : List String) :
    (g.candidates ids).Pairwise fun a b => ids.idxOf a < ids.idxOf b := by
  rw [candidates, distinct_filter]
  exact (pairwise_idxOf_distinct ids).sublist List.filter_sublist

theorem candidates_sortRules (g : RuleGraph) (ids : List String) :
    g.candidates (g.sortRules ids) = g.sortRules ids := by
  have hknown : (g.sortRules ids).filter (fun id => (g.rule? id).isSome) = g.sortRules ids :=
    List.filter_eq_self.2 fun id hid => (mem_sortRules.1 hid).2
  rw [candidates, hknown, distinct_eq_self (g.nodup_sortRules ids)]

/-- Sorted rules stay as they are. -/
theorem sortRules_sortRules (g : RuleGraph) (ids : List String) :
    g.sortRules (g.sortRules ids) = g.sortRules ids := by
  rw [sortRules_eq_arrange g (g.sortRules ids), candidates_sortRules, sortRules_eq_arrange,
    Digraph.arrange_arrange]

section

variable {s : Schema} {ids : List String} {a b : String}

theorem isSome_rule?_of_feeds (hs : s.WellNamed) (h : (ofSchema s).Feeds a b) :
    ((ofSchema s).rule? a).isSome = true ∧ ((ofSchema s).rule? b).isSome = true := by
  obtain ⟨node, hnode, field, value, -, hb⟩ := h
  obtain ⟨other, hother⟩ := exists_of_mem_rulesFor hs hb
  exact ⟨by rw [hnode]; rfl, by rw [hother]; rfl⟩

theorem contains_fedBy_iff (hs : s.WellNamed) :
    ((ofSchema s).fedBy a).contains b = true ↔ (ofSchema s).Feeds a b := by
  rw [List.contains_iff_mem, feeds_iff_mem_fedBy hs]

theorem within_eq_feedsWithin (hs : s.WellNamed) (ids : List String) :
    Within (fun a b => ((ofSchema s).fedBy a).contains b) ((ofSchema s).candidates ids) =
      (ofSchema s).FeedsWithin ids := by
  funext a b
  rw [eq_iff_iff, Within, FeedsWithin, contains_fedBy_iff hs, mem_candidates, mem_candidates]
  constructor
  · exact fun h => ⟨h.1.1, h.2.1.1, h.2.2⟩
  · intro h
    obtain ⟨ha, hb⟩ := isSome_rule?_of_feeds hs h.2.2
    exact ⟨⟨h.1, ha⟩, ⟨h.2.1, hb⟩, h.2.2⟩

theorem behindCycle_within_iff (hs : s.WellNamed) :
    BehindCycle (Within (fun a b => ((ofSchema s).fedBy a).contains b)
      ((ofSchema s).candidates ids)) a ↔ BehindCycle ((ofSchema s).FeedsWithin ids) a := by
  rw [within_eq_feedsWithin hs]

/-- A rule behind a cycle of a list is reached from a reported cycle of several rules. -/
theorem exists_cycle_of_behindCycle (hs : s.WellNamed)
    (h : BehindCycle ((ofSchema s).FeedsWithin ids) a) :
    ∃ c ∈ (ofSchema s).cycles, 1 < c.length ∧
      ∃ b ∈ c, Relation.ReflTransGen (ofSchema s).Feeds b a := by
  obtain ⟨b, d, hbd, hto, hback, hba⟩ := h.mono fun _ _ h => h.2.2
  rw [← edge_eq_feeds hs] at hto hback
  obtain ⟨c, hc, hb, hd⟩ := Digraph.mem_loops_iff_transGen.2 ⟨hto, hback⟩
  refine ⟨c, hc, ?_, b, hb, hba⟩
  by_contra hshort
  have hpos := List.length_pos_of_mem hb
  obtain ⟨e, rfl⟩ := List.length_eq_one_iff.1 (show c.length = 1 by omega)
  exact hbd ((List.mem_singleton.1 hb).trans (List.mem_singleton.1 hd).symm)

/-- The two parts of the sorted rules of a list. -/
theorem exists_parts_sortRules (s : Schema) (ids : List String) :
    ∃ front back, (ofSchema s).sortRules ids = front ++ back ∧
      Parts (fun a b => ((ofSchema s).fedBy a).contains b)
        (fun a b => ids.idxOf a < ids.idxOf b) ((ofSchema s).candidates ids) front back := by
  rw [sortRules_eq_arrange]
  exact Digraph.exists_parts _ (pairwise_candidates _ ids) (nodup_candidates _ ids)

end

section

variable {schema : Schema} {config : Config} {g : RuleGraph}

/-- The sorted rules of a list are the known ones, each once, in two parts. The back holds the rules
that lie on a cycle of several rules of the list or are reached from one, in the order of the list.
In the front no rule feeds an earlier one, and each place is taken by the rule that is first in the
list among those whose other feeders from the list stand before the place.

The work list that sorts them ends with no rule ready, and no count of edges is below zero in any of
its states, nor while the edges of a rule are taken away. Sorting once more changes nothing. -/
theorem sortRules_front_and_back (h : build schema config = .ok g) (ids : List String) :
    (g.sortRules ids).Nodup ∧
    (∀ id, id ∈ g.sortRules ids ↔ id ∈ ids ∧ (g.rule? id).isSome = true) ∧
    (∃ front back, g.sortRules ids = front ++ back ∧
      (∀ id, id ∈ back ↔ BehindCycle (g.FeedsWithin ids) id) ∧
      (back.Pairwise fun a b => ids.idxOf a < ids.idxOf b) ∧
      (front.Pairwise fun a b => ¬ g.Feeds b a) ∧
      ∀ before id after, front = before ++ id :: after →
        (∀ w ∈ ids, w ≠ id → g.Feeds w id → w ∈ before) ∧
        ∀ other ∈ after, (∀ w ∈ ids, w ≠ other → g.Feeds w other → w ∈ before) →
          ids.idxOf id < ids.idxOf other) ∧
    (∃ t, Sorting.Reached g.fedBy (g.candidates ids) t ∧ t.first? = none ∧
      g.sortRules ids = t.placed ++ t.rest) ∧
    (∀ t, Sorting.Reached g.fedBy (g.candidates ids) t →
      (∀ id, 0 ≤ t.count id) ∧
      ∀ id, t.first? = some id →
        ∀ targets, targets <+: Digraph.edgesWithin g.fedBy (g.candidates ids) id →
          ∀ other, 0 ≤ (targets.foldl Sorting.lower (t.take id)).count other) ∧
    g.sortRules (g.sortRules ids) = g.sortRules ids := by
  obtain ⟨hs, rfl⟩ := build_ok h
  have hn := (ofSchema schema).nodup_candidates ids
  refine ⟨nodup_sortRules _ ids, fun id => mem_sortRules, ?_, ?_, ?_, sortRules_sortRules _ ids⟩
  · obtain ⟨front, back, heq, hparts⟩ := exists_parts_sortRules schema ids
    have hfeeder : ∀ {w id}, w ∈ ids → (ofSchema schema).Feeds w id →
        w ∈ (ofSchema schema).candidates ids := fun hw hfeeds =>
      mem_candidates.2 ⟨hw, (isSome_rule?_of_feeds hs hfeeds).1⟩
    refine ⟨front, back, heq, fun id => ?_, ?_, ?_, fun before id after hfront => ⟨?_, ?_⟩⟩
    · rw [hparts.mem_back_iff hn, behindCycle_within_iff hs]
    · exact (pairwise_candidates _ ids).sublist hparts.sublist
    · refine (hparts.pairwise_front hn).imp fun {a b} hab hfeeds => ?_
      rw [(contains_fedBy_iff hs).2 hfeeds] at hab
      cases hab
    · intro w hw hne hfeeds
      exact hparts.behind before id after hfront w (hfeeder hw hfeeds) hne
        ((contains_fedBy_iff hs).2 hfeeds)
    · intro other hother hnext
      refine hparts.first before id after hfront other hother fun w hw hne hfeeds => ?_
      exact hnext w (mem_candidates.1 hw).1 hne ((contains_fedBy_iff hs).1 hfeeds)
  · obtain ⟨hreached, hfirst⟩ :=
      Digraph.reached_settle (.start : Sorting.Reached (ofSchema schema).fedBy _ _)
    exact ⟨_, hreached, hfirst, rfl⟩
  · intro t ht
    have hfits := ht.fits hn
    refine ⟨fun id => ?_, fun id hid targets htargets other => ?_⟩
    · rw [hfits.counts]
      exact Int.natCast_nonneg _
    · exact hfits.count_nonneg (Sorting.mem_rest_of_first? hid) htargets other

/-- The window and the heating act on each other. The fan runs with the window and is logged; the
alarm keeps itself on. -/
def heatingForm : Schema where
  sections := [{
    id := "room"
    fields := ["window", "heating", "fan", "alarm", "log"].map fun id =>
      { id := id, kind := .text } }]
  rules := [
    { id := "log_fan", condition := .var "fan" none,
      actions := [.setVisible .field "log" true] },
    { id := "sound", condition := .var "alarm" none,
      actions := [.setEnabled (some .field) "log" true] },
    { id := "shut", condition := .var "heating" none,
      actions := [.setValue "window" (.string "shut")] },
    { id := "heat", condition := .var "window" none,
      actions := [.setValue "heating" (.string "on")] },
    { id := "run_fan", condition := .var "window" none,
      actions := [.setValue "fan" (.string "on")] },
    { id := "ring", condition := .var "alarm" none,
      actions := [.setValue "alarm" (.string "on")] }]

/-- All rules, one of them twice, and one id that is no rule's. -/
def heatingIds : List String :=
  ["log_fan", "sound", "lost", "shut", "ring", "heat", "run_fan", "heat"]

theorem feeds_heatingForm {a b : String}
    (h : ((ofSchema heatingForm).fedBy a).contains b = true) :
    (ofSchema heatingForm).Feeds a b :=
  (contains_fedBy_iff (build_ok (c := {}) (build_eq_of_isSome (by decide +kernel))).1).1 h

theorem heatingForm_front_and_back :
    ∃ g front back, build heatingForm {} = .ok g ∧
      g.sortRules heatingIds = front ++ back ∧
      front ++ back = ["ring", "sound", "log_fan", "shut", "heat", "run_fan"] ∧
      "log_fan" ∈ back ∧ g.sortRules (front ++ back) = front ++ back := by
  have hb := build_eq_of_isSome
    (show (build heatingForm {}).toOption.isSome = true by decide +kernel)
  obtain ⟨-, -, ⟨front, back, heq, hback, -⟩, -, -, hagain⟩ :=
    sortRules_front_and_back hb heatingIds
  rw [heq] at hagain
  refine ⟨_, front, back, hb, heq, heq.symm.trans (by decide +kernel), (hback _).2 ?_, hagain⟩
  have hwithin : ∀ {a b}, a ∈ heatingIds → b ∈ heatingIds →
      ((ofSchema heatingForm).fedBy a).contains b = true →
      FeedsWithin (ofSchema heatingForm) heatingIds a b :=
    fun ha hb hfed => ⟨ha, hb, feeds_heatingForm hfed⟩
  refine ⟨"shut", "heat", by decide, .single (hwithin (by decide) (by decide) (by decide +kernel)),
    .single (hwithin (by decide) (by decide) (by decide +kernel)), ?_⟩
  exact (Relation.ReflTransGen.single
    (hwithin (b := "run_fan") (by decide) (by decide) (by decide +kernel))).tail
    (hwithin (by decide) (by decide) (by decide +kernel))

/-- A rule that feeds another rule of a list is sorted before it exactly when it does not lie on a
cycle of several rules of the list or behind one, or comes first in the list. So it is sorted before
the other in every list if no reported cycle of several rules leads to it. -/
theorem writer_before_reader_iff (h : build schema config = .ok g) {ids : List String}
    {w r : String} (hw : w ∈ ids) (hr : r ∈ ids) (hne : w ≠ r) (hfeeds : g.Feeds w r) :
    w ∈ g.sortRules ids ∧ r ∈ g.sortRules ids ∧
    ((g.sortRules ids).idxOf w < (g.sortRules ids).idxOf r ↔
      ¬ BehindCycle (g.FeedsWithin ids) w ∨ ids.idxOf w < ids.idxOf r) ∧
    ((∀ c ∈ g.cycles, 1 < c.length → ∀ a ∈ c, ¬ Relation.ReflTransGen g.Feeds a w) →
      (g.sortRules ids).idxOf w < (g.sortRules ids).idxOf r) := by
  obtain ⟨hs, rfl⟩ := build_ok h
  have hn := (ofSchema schema).nodup_candidates ids
  obtain ⟨hwknown, hrknown⟩ := isSome_rule?_of_feeds hs hfeeds
  have hwmem : w ∈ (ofSchema schema).candidates ids := mem_candidates.2 ⟨hw, hwknown⟩
  have hrmem : r ∈ (ofSchema schema).candidates ids := mem_candidates.2 ⟨hr, hrknown⟩
  have hiff : ((ofSchema schema).sortRules ids).idxOf w <
        ((ofSchema schema).sortRules ids).idxOf r ↔
      ¬ BehindCycle ((ofSchema schema).FeedsWithin ids) w ∨ ids.idxOf w < ids.idxOf r := by
    obtain ⟨front, back, heq, hparts⟩ := exists_parts_sortRules schema ids
    rw [heq, ← behindCycle_within_iff hs]
    exact hparts.idxOf_append_lt_iff hn (pairwise_candidates _ ids) hwmem hrmem hne
      ((contains_fedBy_iff hs).2 hfeeds)
  refine ⟨mem_sortRules.2 ⟨hw, hwknown⟩, mem_sortRules.2 ⟨hr, hrknown⟩, hiff, fun hcycles => ?_⟩
  refine hiff.2 (.inl fun hbehind => ?_)
  obtain ⟨c, hc, hlong, b, hb, hbw⟩ := exists_cycle_of_behindCycle hs hbehind
  exact hcycles c hc hlong b hb hbw

theorem heatingForm_fan_before_log :
    ∃ g, build heatingForm {} = .ok g ∧
      (g.sortRules ["run_fan", "log_fan", "shut", "heat"]).idxOf "run_fan" <
        (g.sortRules ["run_fan", "log_fan", "shut", "heat"]).idxOf "log_fan" ∧
      BehindCycle (g.FeedsWithin ["log_fan", "run_fan", "shut", "heat"]) "run_fan" := by
  have hb := build_eq_of_isSome
    (show (build heatingForm {}).toOption.isSome = true by decide +kernel)
  have hfeeds : (ofSchema heatingForm).Feeds "run_fan" "log_fan" :=
    feeds_heatingForm (by decide +kernel)
  obtain ⟨-, -, hbefore, -⟩ := writer_before_reader_iff hb
    (show "run_fan" ∈ ["run_fan", "log_fan", "shut", "heat"] by decide) (by decide) (by decide)
    hfeeds
  obtain ⟨-, -, hbehind, -⟩ := writer_before_reader_iff hb
    (show "run_fan" ∈ ["log_fan", "run_fan", "shut", "heat"] by decide) (by decide) (by decide)
    hfeeds
  refine ⟨_, hb, hbefore.2 (.inr (by decide)), ?_⟩
  by_contra hnot
  exact absurd (hbehind.2 (.inl hnot)) (by decide +kernel)

/-- Behind the cycle of window and heating the fan is logged before it is run, although neither of
the two rules is in a cycle. -/
theorem reader_before_writer_behind_cycle :
    ¬ ∀ (schema : Schema) (config : Config) (g : RuleGraph), build schema config = .ok g →
      ∀ (ids : List String) (w r : String), w ∈ ids → r ∈ ids → w ≠ r → g.Feeds w r →
        (¬ ∃ c ∈ g.cycles, w ∈ c ∧ r ∈ c) →
        (g.sortRules ids).idxOf w < (g.sortRules ids).idxOf r := by
  intro hclaim
  have hb := build_eq_of_isSome
    (show (build heatingForm {}).toOption.isSome = true by decide +kernel)
  refine absurd (hclaim _ _ _ hb ["log_fan", "run_fan", "shut", "heat"] "run_fan" "log_fan"
    (by decide) (by decide) (by decide) (feeds_heatingForm (by decide +kernel)) ?_)
    (by decide +kernel)
  rintro ⟨c, hc, hfan, hlog⟩
  rw [cycles_ofSchema] at hc
  obtain ⟨hedge, -⟩ := Digraph.mem_loops_iff_transGen.1 ⟨c, hc, hlog, hfan⟩
  obtain ⟨next, hnext, -⟩ := Relation.TransGen.head'_iff.1 hedge
  have hnone : (ofSchema heatingForm).fedBy "log_fan" = [] := by decide +kernel
  rw [Digraph.Edge, hnone] at hnext
  exact List.not_mem_nil hnext.1

end

end FormEngine.RuleGraph
