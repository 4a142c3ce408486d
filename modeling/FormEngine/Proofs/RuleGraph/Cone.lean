import FormEngine.Proofs.RuleGraph.Index

/-!
# Cones of fields

The cone of a field is the least set of rules that holds the rules indexed under the field and, with
a rule, all that it feeds. A list that is closed in this way holds the cone (`Cone.mem_of_closed`),
which bounds what the rules of a cone can act on.
-/

namespace FormEngine.RuleGraph

/-- The rules that a change of a field can make run, directly or through fields that rules set. -/
inductive Cone (g : RuleGraph) (field : String) : String → Prop where
  | start {id : String} (h : id ∈ g.rulesFor field) : Cone g field id
  | step {a b : String} (h : Cone g field a) (hb : b ∈ g.fedBy a) : Cone g field b

/-- The action stands in a branch of a rule of the cone. -/
def ConeActs (g : RuleGraph) (field : String) (action : Action) : Prop :=
  ∃ id node, g.Cone field id ∧ g.rule? id = some node ∧ action ∈ node.rule.allActions

/-- An action of the cone has this target. -/
def ConeTargets (g : RuleGraph) (field id : String) : Prop :=
  ∃ action, g.ConeActs field action ∧ action.target? = some id

/-- An action of the cone sets the value of this field. -/
def ConeSets (g : RuleGraph) (field key : String) : Prop :=
  ∃ value, g.ConeActs field (.setValue key value)

variable {g : RuleGraph} {field key id : String} {ids : List String}

theorem ConeSets.targets (h : g.ConeSets field key) : g.ConeTargets field key := by
  obtain ⟨value, hacts⟩ := h
  exact ⟨_, hacts, rfl⟩

theorem ConeSets.cone_of_mem_rulesFor {s : Schema} (hs : s.WellNamed)
    (h : (ofSchema s).ConeSets field key) (hid : id ∈ (ofSchema s).rulesFor key) :
    (ofSchema s).Cone field id := by
  obtain ⟨value, writer, node, hcone, hnode, hset⟩ := h
  refine hcone.step (mem_fedBy.2 ⟨node, hnode, key, ?_, hid⟩)
  rw [(reads_of_rule? hs hnode).2.2]
  exact Rule.mem_writes.2 ⟨value, hset⟩

/-- The cone is the least such set. -/
theorem Cone.mem_of_closed (hstart : ∀ id ∈ g.rulesFor field, id ∈ ids)
    (hclosed : ∀ a ∈ ids, ∀ b ∈ g.fedBy a, b ∈ ids) (h : g.Cone field id) : id ∈ ids := by
  induction h with
  | start h => exact hstart _ h
  | step _ hb ih => exact hclosed _ ih _ hb

/-- The targets of some rules. -/
def targetsOf (g : RuleGraph) (ids : List String) : List String :=
  (ids.filterMap g.rule?).flatMap fun node => node.rule.allActions.filterMap Action.target?

theorem ConeTargets.mem_of_closed (hstart : ∀ id ∈ g.rulesFor field, id ∈ ids)
    (hclosed : ∀ a ∈ ids, ∀ b ∈ g.fedBy a, b ∈ ids) (h : g.ConeTargets field key) :
    key ∈ g.targetsOf ids := by
  obtain ⟨action, ⟨id, node, hcone, hnode, haction⟩, htarget⟩ := h
  refine List.mem_flatMap.2 ⟨node, List.mem_filterMap.2 ⟨id, ?_, hnode⟩, ?_⟩
  · exact hcone.mem_of_closed hstart hclosed
  · exact List.mem_filterMap.2 ⟨action, haction, htarget⟩

end FormEngine.RuleGraph
