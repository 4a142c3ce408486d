import FormEngine.Proofs.Except
import FormEngine.Proofs.Expr.Vocabulary
import FormEngine.Schema.Check

/-!
# What the check of a schema accepts

The check of a schema looks for the first fault. It accepts exactly the schemas without one
(`check_eq_ok_iff`): no field id and no key of a group is used twice, the rows of a group name
fields of the group itself (`RowsFit`), and under the strict setting every condition and every
action keeps to the vocabulary (`InVocabulary`).
-/

namespace FormEngine

theorem firstRepeated?_eq_none_iff {seen l : List String} :
    firstRepeated? seen l = none ↔ l.Nodup ∧ ∀ a ∈ l, a ∉ seen := by
  fun_induction firstRepeated? seen l with
  | case1 seen => simp
  | case2 seen a rest ha =>
    constructor
    · intro h
      cases h
    · rintro ⟨-, hseen⟩
      exact absurd ha (hseen a List.mem_cons_self)
  | case3 seen a rest ha ih =>
    rw [ih, List.nodup_cons]
    grind

namespace Rule

theorem hasUnknownActions_iff {r : Rule} :
    r.hasUnknownActions = true ↔ Action.unknown ∈ r.allActions := by
  unfold hasUnknownActions
  rw [List.any_eq_true]
  constructor
  · rintro ⟨action, hmem, haction⟩
    cases action with
    | unknown => exact hmem
    | _ => cases haction
  · exact fun h => ⟨_, h, rfl⟩

end Rule

namespace Schema

/-! ## Rows and groups -/

/-- The rows name fields of a list only. -/
def RowsFit (rows : List Row) (fields : List Field) : Prop :=
  ∀ row ∈ rows, ∀ id ∈ row.fields, id ∈ fields.map (·.id)

theorem checkRows_eq_ok_iff {group : String} {rows : List Row} {fields : List Field} :
    checkRows group rows fields = .ok () ↔ RowsFit rows fields := by
  have hfit : RowsFit rows fields ↔
      (rows.flatMap (·.fields)).find? (fun id => !(fields.any fun f => f.id == id)) = none := by
    simp [RowsFit]
  rw [hfit]
  unfold checkRows
  cases (rows.flatMap (·.fields)).find? fun id => !(fields.any fun f => f.id == id) <;> simp

theorem checkGroups_eq_ok_iff {seen : List String} {groups : List Group} :
    checkGroups seen groups = .ok () ↔
      (groups.map (·.key)).Nodup ∧ (∀ g ∈ groups, g.key ∉ seen) ∧
        ∀ g ∈ groups, RowsFit g.rows g.fields := by
  fun_induction checkGroups seen groups with
  | case1 seen => simp
  | case2 seen g rest hg =>
    constructor
    · intro h
      cases h
    · rintro ⟨-, hseen, -⟩
      exact absurd hg (hseen g List.mem_cons_self)
  | case3 seen g rest hg ih =>
    rw [andThen_eq_ok_iff, checkRows_eq_ok_iff, ih, List.map_cons, List.nodup_cons]
    grind

/-! ## Vocabulary -/

/-- Every condition and every declared action is known. -/
structure InVocabulary (s : Schema) : Prop where
  sections : ∀ g ∈ s.sections, ∀ e ∈ g.visibleWhen, e.Known
  subsections : ∀ g ∈ s.subsections, ∀ e ∈ g.visibleWhen, e.Known
  fields : ∀ f ∈ s.fields, ∀ e ∈ f.visibleWhen, e.Known
  gates : ∀ f ∈ s.fields, ∀ v ∈ f.validators, ∀ e ∈ v.gate, e.Known
  rules : ∀ r ∈ s.declaredRules, r.condition.Known
  actions : ∀ r ∈ s.declaredRules, Action.unknown ∉ r.allActions

theorem conditionFault?_eq_none_iff {c : String × Expr} :
    conditionFault? c = none ↔ c.2.Known := by
  rw [Expr.known_iff, conditionFault?, Option.map_eq_none_iff, List.head?_eq_none_iff]

theorem forall_mem_filterMap_condition {α : Type} {items : List α} {name : α → String}
    {condition : α → Option Expr} {p : Expr → Prop} :
    (∀ c ∈ items.filterMap (fun a => (condition a).map fun e => (name a, e)), p c.2) ↔
      ∀ a ∈ items, ∀ e ∈ condition a, p e := by
  constructor
  · intro h a ha e he
    exact h (name a, e) (List.mem_filterMap.2 ⟨a, ha, by rw [Option.mem_def.1 he]; rfl⟩)
  · intro h c hc
    obtain ⟨a, ha, hc⟩ := List.mem_filterMap.1 hc
    obtain ⟨e, he, rfl⟩ := Option.map_eq_some_iff.1 hc
    exact h a ha e he

theorem forall_mem_allConditions {s : Schema} {p : Expr → Prop} :
    (∀ c ∈ s.allConditions, p c.2) ↔
      (∀ g ∈ s.sections, ∀ e ∈ g.visibleWhen, p e) ∧
      (∀ g ∈ s.subsections, ∀ e ∈ g.visibleWhen, p e) ∧
      (∀ f ∈ s.fields, ∀ e ∈ f.visibleWhen, p e) ∧
      (∀ f ∈ s.fields, ∀ v ∈ f.validators, ∀ e ∈ v.gate, p e) ∧
      ∀ r ∈ s.declaredRules, p r.condition := by
  have hfield : ∀ f : Field, (∀ c ∈ fieldConditions f, p c.2) ↔
      (∀ e ∈ f.visibleWhen, p e) ∧ ∀ v ∈ f.validators, ∀ e ∈ v.gate, p e := by
    intro f
    rw [fieldConditions, List.forall_mem_append, forall_mem_filterMap_condition]
    simp
  unfold allConditions conditions
  rw [List.forall_mem_append, List.forall_mem_append, List.forall_mem_append,
    forall_mem_filterMap_condition, forall_mem_filterMap_condition, List.forall_mem_flatMap,
    List.forall_mem_map]
  simp only [hfield]
  grind

theorem checkVocabulary_eq_ok_iff {s : Schema} : s.checkVocabulary = .ok () ↔ s.InVocabulary := by
  have hactions : s.declaredRules.find? Rule.hasUnknownActions = none ↔
      ∀ r ∈ s.declaredRules, Action.unknown ∉ r.allActions := by
    simp only [List.find?_eq_none, Rule.hasUnknownActions_iff]
  have hconditions : s.allConditions.findSome? conditionFault? = none ↔
      ∀ c ∈ s.allConditions, c.2.Known := by
    simp only [List.findSome?_eq_none_iff, conditionFault?_eq_none_iff]
  have hiff : s.InVocabulary ↔ s.declaredRules.find? Rule.hasUnknownActions = none ∧
      s.allConditions.findSome? conditionFault? = none := by
    rw [hactions, hconditions, forall_mem_allConditions]
    constructor
    · rintro ⟨hs, hg, hf, hv, hr, ha⟩
      exact ⟨ha, hs, hg, hf, hv, hr⟩
    · rintro ⟨ha, hs, hg, hf, hv, hr⟩
      exact ⟨hs, hg, hf, hv, hr, ha⟩
  rw [hiff]
  unfold checkVocabulary
  cases s.declaredRules.find? Rule.hasUnknownActions with
  | some r => simp
  | none => cases s.allConditions.findSome? conditionFault? <;> simp

/-! ## The check -/

/-- A schema passes the check exactly when it has none of the faults that are looked for. -/
theorem check_eq_ok_iff {s : Schema} {c : Config} :
    s.check c = .ok () ↔
      (s.fields.map (·.id)).Nodup ∧ (s.groups.map (·.key)).Nodup ∧
        (∀ g ∈ s.groups, RowsFit g.rows g.fields) ∧
        (c.strictSchema = true → s.InVocabulary) := by
  have hfields : firstRepeated? [] (s.fields.map (·.id)) = none ↔ (s.fields.map (·.id)).Nodup := by
    simp [firstRepeated?_eq_none_iff]
  have hgroups : checkGroups [] s.groups = .ok () ↔
      (s.groups.map (·.key)).Nodup ∧ ∀ g ∈ s.groups, RowsFit g.rows g.fields := by
    simp [checkGroups_eq_ok_iff]
  rw [← hfields, ← and_assoc (a := (s.groups.map (·.key)).Nodup), ← hgroups,
    ← checkVocabulary_eq_ok_iff]
  unfold check
  cases firstRepeated? [] (s.fields.map (·.id)) with
  | some id => simp [bind, Except.bind, throw, throwThe, MonadExceptOf.throw]
  | none =>
    refine andThen_eq_ok_iff.trans ?_
    cases c.strictSchema <;> simp [pure, Except.pure]

end Schema

end FormEngine
