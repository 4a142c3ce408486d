import FormEngine.Proofs.RuleGraph.Index

/-!
# Cycles of a rule graph

A rule feeds the rules that are indexed under a field it sets (`RuleGraph.Feeds`). The cycles that
the graph of an accepted schema reports are the classes of rules that feed one another, directly or
through others (`cycles_exact`).
-/

namespace FormEngine.RuleGraph

/-- One of the branches of rule `a` sets a field under which rule `b` is indexed. -/
def Feeds (g : RuleGraph) (a b : String) : Prop :=
  ∃ node, g.rule? a = some node ∧
    ∃ field value, Action.setValue field value ∈ node.rule.allActions ∧ b ∈ g.rulesFor field

section

variable {s : Schema} {a b : String}

theorem feeds_iff_mem_fedBy (hs : s.WellNamed) :
    (ofSchema s).Feeds a b ↔ b ∈ (ofSchema s).fedBy a := by
  rw [mem_fedBy]
  refine exists_congr fun node => and_congr_right fun hnode => ?_
  obtain ⟨-, -, hwrites⟩ := reads_of_rule? hs hnode
  rw [hwrites]
  constructor
  · rintro ⟨field, value, haction, hb⟩
    exact ⟨field, Rule.mem_writes.2 ⟨value, haction⟩, hb⟩
  · rintro ⟨field, hfield, hb⟩
    obtain ⟨value, haction⟩ := Rule.mem_writes.1 hfield
    exact ⟨field, value, haction, hb⟩

theorem edge_eq_feeds (hs : s.WellNamed) :
    Digraph.Edge (ofSchema s).fedBy (ofSchema s).order = (ofSchema s).Feeds := by
  funext a b
  rw [eq_iff_iff, feeds_iff_mem_fedBy hs]
  exact ⟨fun hedge => hedge.1, edge_of_mem_fedBy hs⟩

end

/-- The cycles of the graph of an accepted schema. A rule is in a cycle exactly when it feeds
itself, directly or through others, and two rules are in one cycle exactly when each feeds the other
so. No rule is in two cycles or twice in one; the members of a cycle stand in the order of the
rules, and so do the cycles by their first members. The search for the cycles enters as many rules
as there are and gives each its number, so it enters each once. -/
theorem cycles_exact {schema : Schema} {config : Config} {g : RuleGraph}
    (h : build schema config = .ok g) :
    (∀ a, (∃ c ∈ g.cycles, a ∈ c) ↔ Relation.TransGen g.Feeds a a) ∧
    (∀ a b, (∃ c ∈ g.cycles, a ∈ c ∧ b ∈ c) ↔
      Relation.TransGen g.Feeds a b ∧ Relation.TransGen g.Feeds b a) ∧
    g.cycles.flatten.Nodup ∧
    (∀ c ∈ g.cycles, c ≠ [] ∧ c.Pairwise fun a b => g.order.idxOf a < g.order.idxOf b) ∧
    (g.cycles.Pairwise fun c d => ∀ a b, c.head? = some a → d.head? = some b →
      g.order.idxOf a < g.order.idxOf b) ∧
    (Digraph.search g.fedBy g.order).entered = g.order.length ∧
    (Digraph.search g.fedBy g.order).numbers.keys.Perm g.order := by
  obtain ⟨hs, rfl⟩ := build_ok h
  have hpair : ∀ a b, (∃ c ∈ (ofSchema schema).cycles, a ∈ c ∧ b ∈ c) ↔
      Relation.TransGen (ofSchema schema).Feeds a b ∧
        Relation.TransGen (ofSchema schema).Feeds b a := by
    intro a b
    rw [cycles_ofSchema, Digraph.mem_loops_iff_transGen, edge_eq_feeds hs]
  refine ⟨fun a => ?_, hpair, Digraph.nodup_flatten_loops, fun c hc => ?_,
    Digraph.pairwise_loops, Digraph.entered_search hs.rules⟩
  · have hself := hpair a a
    simpa only [and_self] using hself
  · exact ⟨Digraph.ne_nil_of_mem_loops hc, Digraph.pairwise_of_mem_loops hc⟩

/-- Two lamps that switch each other on, one that keeps itself on, and a note that reads it. -/
def lampForm : Schema where
  sections := [{
    id := "main"
    fields := ["left", "right", "top", "note"].map fun id => { id := id, kind := .text } }]
  rules := [
    { id := "light_left", condition := .var "right" none,
      actions := [], otherwise := [.setValue "left" (.string "on")] },
    { id := "keep_top", condition := .var "top" none,
      actions := [.setValue "top" (.string "on")] },
    { id := "light_right", condition := .var "left" none,
      actions := [.setValue "right" (.string "on")] },
    { id := "show_note", condition := .var "top" none,
      actions := [.setVisible .field "note" true] }]

theorem lampForm_cycles :
    ∃ g, build lampForm {} = .ok g ∧
      (∃ c ∈ g.cycles, "light_left" ∈ c ∧ "light_right" ∈ c) ∧
      (∃ c ∈ g.cycles, "keep_top" ∈ c) ∧
      (Digraph.search g.fedBy g.order).entered = 4 := by
  obtain ⟨g, hb⟩ := exists_ok_of_isSome
    (show (build lampForm {}).toOption.isSome = true by decide +kernel)
  obtain ⟨hself, hpair, -, -, -, hentered, -⟩ := cycles_exact hb
  obtain ⟨hs, rfl⟩ := build_ok hb
  have hfeeds : ∀ a b, b ∈ (ofSchema lampForm).fedBy a →
      Relation.TransGen (ofSchema lampForm).Feeds a b :=
    fun a b hab => .single ((feeds_iff_mem_fedBy hs).2 hab)
  refine ⟨_, hb, (hpair _ _).2 ⟨hfeeds _ _ ?_, hfeeds _ _ ?_⟩, (hself _).2 (hfeeds _ _ ?_), ?_⟩
  · decide +kernel
  · decide +kernel
  · decide +kernel
  · rw [hentered]
    rfl

end FormEngine.RuleGraph
