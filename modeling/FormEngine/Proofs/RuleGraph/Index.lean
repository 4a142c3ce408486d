import FormEngine.Proofs.Digraph.Components
import FormEngine.Proofs.Digraph.Sorting
import FormEngine.Proofs.Schema.WellFormed
import FormEngine.RuleGraph.Basic

/-!
# Graphs of accepted schemas

`RuleGraph.build` gives the graph of a schema that passes its checks (`build_eq_ok_iff`), and so of
one in which no id is used twice (`build_ok`). In the graph of such a schema the rules are those of
the schema, a rule stands under a key exactly when its condition has that read key, and without
cycles `sortRules` puts writers before readers (`pairwise_sortRules`).
-/

namespace FormEngine

/-! ## Actions of a rule -/

namespace Rule

theorem mem_allActions_of_mem_branch {r : Rule} {fired : Bool} {action : Action}
    (h : action ∈ r.branch fired) : action ∈ r.allActions := by
  unfold Rule.branch at h
  unfold Rule.allActions
  split at h
  · exact List.mem_append_left _ h
  · exact List.mem_append_right _ h

theorem mem_writes {r : Rule} {key : String} :
    key ∈ r.writes ↔ ∃ value, Action.setValue key value ∈ r.allActions := by
  unfold Rule.writes
  rw [mem_distinct, List.mem_filterMap]
  constructor
  · rintro ⟨action, hmem, hkey⟩
    cases action with
    | setValue target value =>
      cases hkey
      exact ⟨value, hmem⟩
    | _ => cases hkey
  · rintro ⟨value, hmem⟩
    exact ⟨_, hmem, rfl⟩

end Rule

namespace Schema

/-- No field id, no key of a group and no rule id is used twice. -/
structure WellNamed (s : Schema) : Prop where
  fields : (s.fields.map (·.id)).Nodup
  groups : (s.groups.map (·.key)).Nodup
  rules : (s.allRules.map (·.id)).Nodup

/-! ## Where fields stand -/

theorem map_fst_sectionLocations (s : Section) :
    (sectionLocations s).map Prod.fst = s.allFields.map (·.id) := by
  simp [sectionLocations, Section.allFields, List.map_flatMap, Function.comp_def]

@[simp] theorem mem_keys_locations {s : Schema} {id : String} :
    id ∈ s.locations.keys ↔ id ∈ s.fields.map (·.id) := by
  rw [locations, Dict.mem_keys_ofList, List.map_flatMap]
  simp only [map_fst_sectionLocations, fields, List.map_flatMap]

end Schema

/-! ## Inverted lists -/

theorem getD_get?_invert (entries : List (String × List String)) (key : String) :
    ((invert entries).get? key).getD [] = (entries.filter fun e => key ∈ e.2).map (·.1) := by
  unfold invert
  by_cases hkey : key ∈ distinct (entries.flatMap (·.2))
  · have hn : (((distinct (entries.flatMap (·.2))).map fun key =>
        (key, (entries.filter fun e => key ∈ e.2).map (·.1))).map Prod.fst).Nodup := by
      simpa [Function.comp_def] using nodup_distinct _
    rw [(Dict.get?_ofList_eq_some_iff hn).2 (List.mem_map.2 ⟨key, hkey, rfl⟩)]
    rfl
  · have hget : key ∉ ((distinct (entries.flatMap (·.2))).map fun key =>
        (key, (entries.filter fun e => key ∈ e.2).map (·.1))).map Prod.fst := by
      simpa [Function.comp_def] using hkey
    simp only [mem_distinct, List.mem_flatMap, not_exists, not_and] at hkey
    have hnone : entries.filter (fun e => key ∈ e.2) = [] :=
      List.filter_eq_nil_iff.2 fun e he => by simpa using hkey e he
    rw [Dict.get?_eq_none_iff.2 (by rwa [Dict.mem_keys_ofList]), hnone]
    rfl

theorem mem_get?_invert {entries : List (String × List String)} {key id : String} :
    id ∈ ((invert entries).get? key).getD [] ↔ ∃ keys, (id, keys) ∈ entries ∧ key ∈ keys := by
  simp [getD_get?_invert]

namespace RuleGraph

/-- What `build` checks before it gives the graph of a schema. -/
theorem build_eq_ok_iff {s : Schema} {c : Config} {g : RuleGraph} :
    build s c = .ok g ↔
      s.check c = .ok () ∧ (s.allRules.map (·.id)).Nodup ∧
        (c.cyclePolicy = .reject → (ofSchema s).cycles = []) ∧ g = ofSchema s := by
  have hrules : firstRepeated? [] (s.allRules.map (·.id)) = none ↔
      (s.allRules.map (·.id)).Nodup := by
    simp [firstRepeated?_eq_none_iff]
  unfold build
  rw [andThen_eq_ok_iff, ← hrules]
  refine and_congr_right fun _ => ?_
  cases firstRepeated? [] (s.allRules.map (·.id)) with
  | some id => simp [throw, throwThe, MonadExceptOf.throw]
  | none =>
    cases c.cyclePolicy <;> cases hcycles : (ofSchema s).cycles <;>
      simp [hcycles, throw, throwThe, MonadExceptOf.throw, pure, Except.pure, eq_comm (a := g)]

theorem build_ok {s : Schema} {c : Config} {g : RuleGraph} (h : build s c = .ok g) :
    s.WellNamed ∧ g = ofSchema s := by
  obtain ⟨hcheck, hrules, -, hg⟩ := build_eq_ok_iff.1 h
  obtain ⟨hfields, hgroups, -⟩ := Schema.check_eq_ok_iff.1 hcheck
  exact ⟨⟨hfields, hgroups, hrules⟩, hg⟩

theorem build_eq_of_isSome {s : Schema} {c : Config} (h : (build s c).toOption.isSome = true) :
    build s c = .ok (ofSchema s) := by
  obtain ⟨g, hg⟩ := exists_ok_of_isSome h
  rw [hg, (build_ok hg).2]

theorem cycles_eq_nil_of_reject {s : Schema} {c : Config} {g : RuleGraph} (h : build s c = .ok g)
    (hc : c.cyclePolicy = .reject) : g.cycles = [] := by
  obtain ⟨-, -, hcycles, rfl⟩ := build_eq_ok_iff.1 h
  exact hcycles hc

section Lookup

variable {s : Schema} {id key : String}

theorem hasField_ofSchema : (ofSchema s).hasField id = true ↔ id ∈ s.fields.map (·.id) := by
  rw [hasField, Dict.has_iff]
  exact Schema.mem_keys_locations

theorem rule?_ofSchema (hs : s.WellNamed) {node : RuleNode} :
    (ofSchema s).rule? id = some node ↔
      ∃ r ∈ s.allRules, r.id = id ∧ node = ⟨r, r.condition.variablePaths, r.writes⟩ := by
  have hn : ((s.allRules.map fun r =>
      (r.id, (⟨r, r.condition.variablePaths, r.writes⟩ : RuleNode))).map Prod.fst).Nodup := by
    simpa [Function.comp_def] using hs.rules
  refine (Dict.get?_ofList_eq_some_iff hn).trans ?_
  simp only [List.mem_map, Prod.mk.injEq]
  grind

theorem reads_of_rule? (hs : s.WellNamed) {node : RuleNode}
    (h : (ofSchema s).rule? id = some node) :
    node.rule.id = id ∧ node.reads = node.rule.condition.variablePaths ∧
      node.writes = node.rule.writes := by
  obtain ⟨r, -, hid, rfl⟩ := (rule?_ofSchema hs).1 h
  exact ⟨hid, rfl, rfl⟩

theorem isSome_rule?_ofSchema (hs : s.WellNamed) :
    ((ofSchema s).rule? id).isSome = true ↔ id ∈ (ofSchema s).order := by
  rw [Option.isSome_iff_exists]
  simp only [rule?_ofSchema hs]
  show _ ↔ id ∈ s.allRules.map (·.id)
  rw [List.mem_map]
  grind

theorem mem_rulesFor_ofSchema :
    id ∈ (ofSchema s).rulesFor key ↔
      ∃ r ∈ s.allRules, r.id = id ∧ key ∈ ruleKeys s.locations r := by
  refine mem_get?_invert.trans ?_
  simp only [List.mem_map, Prod.mk.injEq]
  grind

theorem exists_of_mem_rulesFor (hs : s.WellNamed) (h : id ∈ (ofSchema s).rulesFor key) :
    ∃ node, (ofSchema s).rule? id = some node := by
  obtain ⟨r, hr, hid, -⟩ := mem_rulesFor_ofSchema.1 h
  exact ⟨_, (rule?_ofSchema hs).2 ⟨r, hr, hid, rfl⟩⟩

theorem mem_order_of_mem_rulesFor (hs : s.WellNamed) (h : id ∈ (ofSchema s).rulesFor key) :
    id ∈ (ofSchema s).order := by
  obtain ⟨node, hnode⟩ := exists_of_mem_rulesFor hs h
  exact (isSome_rule?_ofSchema hs).1 (by rw [hnode]; rfl)

theorem length_rules_ofSchema (hs : s.WellNamed) :
    (ofSchema s).rules.length = (ofSchema s).order.length := by
  have hperm : (ofSchema s).rules.keys.Perm (ofSchema s).order := by
    refine (Dict.keys_ofList_perm ?_).trans (.of_eq (List.map_map ..))
    simpa [Function.comp_def] using hs.rules
  rw [← hperm.length_eq]
  exact (List.length_map _).symm

/-- A rule of the graph is indexed under the keys of its own condition. -/
theorem mem_rulesFor_of_rule? (hs : s.WellNamed) {node : RuleNode}
    (h : (ofSchema s).rule? id = some node) :
    id ∈ (ofSchema s).rulesFor key ↔ ∃ path ∈ node.reads, key ∈ readKeys s.locations path := by
  obtain ⟨r, hr, hid, rfl⟩ := (rule?_ofSchema hs).1 h
  rw [mem_rulesFor_ofSchema, ← List.mem_flatMap]
  constructor
  · rintro ⟨r', hr', hid', hkey⟩
    have : r' = r := List.inj_on_of_nodup_map hs.rules hr' hr (hid'.trans hid.symm)
    exact this ▸ hkey
  · exact fun hkey => ⟨r, hr, hid, hkey⟩

end Lookup

/-! ## Order -/

theorem mem_fedBy {g : RuleGraph} {a b : String} :
    b ∈ g.fedBy a ↔
      ∃ node, g.rule? a = some node ∧ ∃ field ∈ node.writes, b ∈ g.rulesFor field := by
  unfold fedBy
  cases g.rule? a with
  | none => simp
  | some node => simp

theorem mem_candidates {g : RuleGraph} {ids : List String} {id : String} :
    id ∈ g.candidates ids ↔ id ∈ ids ∧ (g.rule? id).isSome = true := by
  simp [candidates]

theorem nodup_candidates (g : RuleGraph) (ids : List String) : (g.candidates ids).Nodup :=
  nodup_distinct _

/-- The rules of a list are arranged by what they feed. -/
theorem sortRules_eq_arrange (g : RuleGraph) (ids : List String) :
    g.sortRules ids =
      Digraph.arrange (fun a b => (g.fedBy a).contains b) (g.candidates ids) :=
  Digraph.sort_eq_arrange (g.nodup_candidates ids)

theorem sortRules_perm (g : RuleGraph) (ids : List String) :
    (g.sortRules ids).Perm (g.candidates ids) := by
  rw [sortRules_eq_arrange]
  exact Digraph.arrange_perm _ _

theorem mem_sortRules {g : RuleGraph} {ids : List String} {id : String} :
    id ∈ g.sortRules ids ↔ id ∈ ids ∧ (g.rule? id).isSome = true :=
  (g.sortRules_perm ids).mem_iff.trans mem_candidates

theorem nodup_sortRules (g : RuleGraph) (ids : List String) : (g.sortRules ids).Nodup :=
  (g.sortRules_perm ids).nodup_iff.2 (g.nodup_candidates ids)

section Acyclic

variable {s : Schema}

theorem cycles_ofSchema (s : Schema) :
    (ofSchema s).cycles = Digraph.loops (ofSchema s).fedBy (ofSchema s).order := rfl

/-- Rules that only feed later ones are on no cycle. -/
theorem cycles_eq_nil_of_feeds_later
    (h : ∀ a ∈ (ofSchema s).order, ∀ b ∈ (ofSchema s).fedBy a,
      (ofSchema s).order.idxOf a < (ofSchema s).order.idxOf b) : (ofSchema s).cycles = [] :=
  Digraph.loops_eq_nil_iff.2 (Digraph.not_transGen_of_rank _ h)

theorem edge_of_mem_fedBy (hs : s.WellNamed) {a b : String} (h : b ∈ (ofSchema s).fedBy a) :
    Digraph.Edge (ofSchema s).fedBy (ofSchema s).order a b := by
  obtain ⟨node, -, field, -, hfield⟩ := mem_fedBy.1 h
  exact ⟨h, mem_order_of_mem_rulesFor hs hfield⟩

/-- Without cycles no rule feeds itself, directly or through others. -/
theorem not_transGen_fedBy (hs : s.WellNamed) (hc : (ofSchema s).cycles = []) (a : String) :
    ¬ Relation.TransGen (fun a b => b ∈ (ofSchema s).fedBy a) a a := by
  intro hself
  rw [cycles_ofSchema, Digraph.loops_eq_nil_iff] at hc
  exact hc a (Relation.TransGen.mono (fun _ _ => edge_of_mem_fedBy hs) _ _ hself)

/-- Without cycles no rule feeds one that is sorted before it. -/
theorem pairwise_sortRules (hs : s.WellNamed) (hc : (ofSchema s).cycles = [])
    (ids : List String) :
    ((ofSchema s).sortRules ids).Pairwise fun a b => a ∉ (ofSchema s).fedBy b := by
  rw [sortRules_eq_arrange]
  refine (Digraph.pairwise_arrange (fun a hself => ?_) (nodup_candidates _ ids)).imp ?_
  · simp only [List.contains_iff_mem] at hself
    exact not_transGen_fedBy hs hc a hself
  · intro a b hfeeds hmem
    rw [Bool.eq_false_iff] at hfeeds
    exact hfeeds (List.contains_iff_mem.2 hmem)

end Acyclic

end RuleGraph

end FormEngine
