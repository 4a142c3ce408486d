import FormEngine.Proofs.RuleGraph.Cycles
import FormEngine.Proofs.Snapshot.Reachable

/-!
# Which schemas make a form

A schema makes a form under some settings exactly when the two are well-formed
(`exists_build_iff_wellFormed`). The checks look at the ids of all rules at once; well-formedness
speaks of declared rules only. The ids of visibility rules need no condition of their own: an id
tells the owner of the condition (`Owner.ruleId_inj`), and no owner occurs twice where the keys of
groups and the ids of fields are distinct (`nodup_owners`).
-/

namespace FormEngine

theorem Owner.ruleId_inj {o o' : Owner} {id id' : String} :
    o.ruleId id = o'.ruleId id' ↔ o = o' ∧ id = id' := by
  rw [← String.toList_inj, ← @String.toList_inj id id']
  cases o <;> cases o' <;> simp [ruleId, name]

namespace Schema

/-- The elements that declare a visibility condition, by kind and id. -/
def owners (s : Schema) : List (Owner × String) :=
  (s.sections.filter (·.visibleWhen.isSome)).map (fun g => (.mainSection, g.id)) ++
  (s.subsections.filter (·.visibleWhen.isSome)).map (fun g => (.subsection, g.id)) ++
  (s.fields.filter (·.visibleWhen.isSome)).map fun f => (.field, f.id)

/-- What a schema and settings need to make a form. -/
structure WellFormed (s : Schema) (c : Config) : Prop where
  passes : 1 ≤ c.maxPasses
  fields : (s.fields.map (·.id)).Nodup
  groups :
    (s.sections.map (·.id) ++ s.subsections.map fun g => "subsection_" ++ g.id).Nodup
  sectionRows : ∀ g ∈ s.sections, RowsFit g.rows g.fields
  subsectionRows : ∀ g ∈ s.subsections, RowsFit g.rows g.fields
  vocabulary : c.strictSchema = true → s.InVocabulary
  rules : (s.declaredRules.map (·.id)).Nodup
  /-- No declared rule has the id of a visibility rule. -/
  fresh : ∀ r ∈ s.declaredRules, ∀ o ∈ s.owners, r.id ≠ o.1.ruleId o.2
  /-- Under the rejecting policy no rule feeds itself, directly or through others. -/
  acyclic : c.cyclePolicy = .reject →
    ∀ a, ¬ Relation.TransGen (RuleGraph.ofSchema s).Feeds a a

variable {s : Schema}

/-! ## Ids of visibility rules -/

theorem map_id_visible (o : Owner) {α : Type} (items : List α) (id target : α → String)
    (condition : α → Option Expr) :
    (items.filterMap fun a => (condition a).map (o.rule (id a) (target a))).map (·.id) =
      (items.filter fun a => (condition a).isSome).map fun a => o.ruleId (id a) := by
  induction items with
  | nil => rfl
  | cons a rest ih => cases h : condition a <;> simp [h, ih, Owner.rule]

theorem map_id_visibilityRules_perm (s : Schema) :
    (s.visibilityRules.map (·.id)).Perm (s.owners.map fun o => o.1.ruleId o.2) := by
  have hgroups : (s.sections.flatMap groupVisibility).Perm
      ((s.sections.filterMap fun g => g.visibleWhen.map (Owner.mainSection.rule g.id g.id)) ++
        s.subsections.filterMap fun g => g.visibleWhen.map (Owner.subsection.rule g.id g.key)) := by
    refine (List.flatMap_append_perm s.sections _ _).symm.trans (.of_eq ?_)
    rw [List.filterMap_eq_flatMap_toList, subsections, List.filterMap_flatMap]
  unfold visibilityRules owners
  rw [List.map_append]
  refine ((hgroups.map (·.id)).append_right _).trans (.of_eq ?_)
  simp only [List.map_append, map_id_visible, List.map_map, Function.comp_def]

theorem map_key_groups (s : Schema) : s.groups.map (·.key) =
    s.sections.map (·.id) ++ s.subsections.map fun g => "subsection_" ++ g.id := by
  simp [groups, Function.comp_def, Subsection.key, Subsection.keyOf]

theorem forall_mem_groups {p : List Row → List Field → Prop} :
    (∀ g ∈ s.groups, p g.rows g.fields) ↔
      (∀ g ∈ s.sections, p g.rows g.fields) ∧ ∀ g ∈ s.subsections, p g.rows g.fields := by
  simp only [groups, List.mem_append, or_imp, forall_and, List.forall_mem_map]

theorem nodup_map_owner {α : Type} {o : Owner} {items : List α} {id : α → String} {p : α → Bool}
    (h : (items.map id).Nodup) : ((items.filter p).map fun a => (o, id a)).Nodup := by
  have hids : ((items.filter p).map id).Nodup := h.sublist (List.filter_sublist.map id)
  simpa only [List.map_map, Function.comp_def] using
    hids.map (f := Prod.mk o) fun _ _ heq => (Prod.mk.inj heq).2

theorem nodup_owners (hfields : (s.fields.map (·.id)).Nodup)
    (hgroups : (s.groups.map (·.key)).Nodup) : s.owners.Nodup := by
  rw [map_key_groups, List.nodup_append] at hgroups
  obtain ⟨hsections, hkeys, -⟩ := hgroups
  have hsubsections : (s.subsections.map (·.id)).Nodup := by
    refine List.Nodup.of_map ("subsection_" ++ ·) ?_
    simpa only [List.map_map, Function.comp_def] using hkeys
  unfold owners
  rw [List.nodup_append, List.nodup_append]
  refine ⟨⟨nodup_map_owner hsections, nodup_map_owner hsubsections, ?_⟩,
    nodup_map_owner hfields, ?_⟩
  all_goals
    simp only [List.forall_mem_append, List.forall_mem_map, ne_eq, Prod.mk.injEq, reduceCtorEq,
      false_and, not_false_eq_true, implies_true, and_self]

theorem nodup_allRules_iff (hfields : (s.fields.map (·.id)).Nodup)
    (hgroups : (s.groups.map (·.key)).Nodup) :
    (s.allRules.map (·.id)).Nodup ↔ (s.declaredRules.map (·.id)).Nodup ∧
      ∀ r ∈ s.declaredRules, ∀ o ∈ s.owners, r.id ≠ o.1.ruleId o.2 := by
  have hvisibility : (s.owners.map fun o => o.1.ruleId o.2).Nodup :=
    (nodup_owners hfields hgroups).map fun o o' h =>
      Prod.ext (Owner.ruleId_inj.1 h).1 (Owner.ruleId_inj.1 h).2
  have hperm := s.map_id_visibilityRules_perm.append_right (s.declaredRules.map (·.id))
  rw [allRules, List.map_append, hperm.nodup_iff, List.nodup_append]
  simp only [List.forall_mem_map]
  constructor
  · rintro ⟨-, hdeclared, hdisjoint⟩
    exact ⟨hdeclared, fun r hr o ho => (hdisjoint o ho r hr).symm⟩
  · rintro ⟨hdeclared, hfresh⟩
    exact ⟨hvisibility, hdeclared, fun o ho r hr => (hfresh r hr o ho).symm⟩

end Schema

/-! ## Building a form -/

namespace RuleGraph

theorem cycles_eq_nil_iff {s : Schema} (hs : s.WellNamed) :
    (ofSchema s).cycles = [] ↔ ∀ a, ¬ Relation.TransGen (ofSchema s).Feeds a a := by
  rw [cycles_ofSchema, Digraph.loops_eq_nil_iff, edge_eq_feeds hs]

theorem exists_build_iff {s : Schema} {c : Config} :
    (∃ g, build s c = .ok g) ↔
      s.check c = .ok () ∧ (s.allRules.map (·.id)).Nodup ∧
        (c.cyclePolicy = .reject → (ofSchema s).cycles = []) := by
  constructor
  · rintro ⟨g, hg⟩
    obtain ⟨hcheck, hrules, hcycles, -⟩ := build_eq_ok_iff.1 hg
    exact ⟨hcheck, hrules, hcycles⟩
  · rintro ⟨hcheck, hrules, hcycles⟩
    exact ⟨_, build_eq_ok_iff.2 ⟨hcheck, hrules, hcycles, rfl⟩⟩

end RuleGraph

namespace Form

/-- A form is loaded when the settings are usable and the graph can be built. -/
theorem exists_load_iff {schema : Schema} {globals params : Dict Value} {config : Config} :
    (∃ f, load schema globals params config = .ok f) ↔
      1 ≤ config.maxPasses ∧ ∃ g, RuleGraph.build schema config = .ok g := by
  simp only [load_eq_ok_iff, exists_and_left]
  refine and_congr_right fun _ => ⟨fun ⟨_, g, hg, _⟩ => ⟨g, hg⟩, fun ⟨g, hg⟩ => ⟨_, g, hg, rfl⟩⟩

end Form

namespace Snapshot

/-- A form is built exactly when its schema and settings are well-formed; globals and params of the
caller have no part in it. -/
theorem exists_build_iff_wellFormed (schema : Schema) (globals params : Dict Value)
    (config : Config) :
    (∃ s, build schema globals params config = .ok s) ↔ schema.WellFormed config := by
  have hload : (∃ s, build schema globals params config = .ok s) ↔
      ∃ f, Form.load schema globals params config = .ok f := by
    simp only [build_eq_ok_iff]
    rw [exists_comm]
    simp only [exists_and_left, exists_eq, and_true]
  rw [hload, Form.exists_load_iff, RuleGraph.exists_build_iff, Schema.check_eq_ok_iff,
    Schema.forall_mem_groups]
  constructor
  · rintro ⟨hpasses, ⟨hfields, hgroups, ⟨hsections, hsubsections⟩, hvocabulary⟩, hrules, hcycles⟩
    have hnamed : schema.WellNamed := ⟨hfields, hgroups, hrules⟩
    obtain ⟨hdeclared, hfresh⟩ := (Schema.nodup_allRules_iff hfields hgroups).1 hrules
    exact {
      passes := hpasses
      fields := hfields
      groups := schema.map_key_groups ▸ hgroups
      sectionRows := hsections
      subsectionRows := hsubsections
      vocabulary := hvocabulary
      rules := hdeclared
      fresh := hfresh
      acyclic := fun hc => (RuleGraph.cycles_eq_nil_iff hnamed).1 (hcycles hc) }
  · intro h
    have hgroups : (schema.groups.map (·.key)).Nodup := schema.map_key_groups ▸ h.groups
    have hrules := (Schema.nodup_allRules_iff h.fields hgroups).2 ⟨h.rules, h.fresh⟩
    have hnamed : schema.WellNamed := ⟨h.fields, hgroups, hrules⟩
    exact ⟨h.passes,
      ⟨h.fields, hgroups, ⟨h.sectionRows, h.subsectionRows⟩, h.vocabulary⟩, hrules,
      fun hc => (RuleGraph.cycles_eq_nil_iff hnamed).2 (h.acyclic hc)⟩

end Snapshot

end FormEngine
