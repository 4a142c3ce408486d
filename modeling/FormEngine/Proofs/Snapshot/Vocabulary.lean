import FormEngine.Proofs.Expr.Warnings
import FormEngine.Proofs.Schema.WellFormed
import FormEngine.Proofs.Update.Pass

/-!
# Forms with a known vocabulary

Under the strict setting a form is built from a schema whose conditions and actions are known. All
rules of its graph are, those of visibility conditions too (`InVocabulary.rule`), and evaluation
raises only what the conditions of rules and gates raise. So no step of the form and no report meets
an unknown operator (`strict_form_never_meets_unknown`).
-/

namespace FormEngine

/-! ## Rules of a graph -/

namespace Schema

variable {s : Schema}

theorem mem_allRules {r : Rule} (h : r ∈ s.allRules) :
    r ∈ s.declaredRules ∨
      (∃ g ∈ s.sections, ∃ e ∈ g.visibleWhen, r = Owner.mainSection.rule g.id g.id e) ∨
      (∃ g ∈ s.subsections, ∃ e ∈ g.visibleWhen, r = Owner.subsection.rule g.id g.key e) ∨
      ∃ f ∈ s.fields, ∃ e ∈ f.visibleWhen, r = Owner.field.rule f.id f.id e := by
  simp only [allRules, visibilityRules, groupVisibility, List.mem_append, List.mem_flatMap,
    List.mem_filterMap, Option.mem_toList, Option.map_eq_some_iff] at h
  simp only [subsections, List.mem_flatMap, Option.mem_def]
  grind

theorem InVocabulary.rule (h : s.InVocabulary) {r : Rule} (hr : r ∈ s.allRules) :
    r.condition.Known ∧ Action.unknown ∉ r.allActions := by
  rcases mem_allRules hr with hr | ⟨g, hg, e, he, rfl⟩ | ⟨g, hg, e, he, rfl⟩ | ⟨f, hf, e, he, rfl⟩
  · exact ⟨h.rules r hr, h.actions r hr⟩
  · exact ⟨h.sections g hg e he, by simp [Owner.rule, Rule.allActions]⟩
  · exact ⟨h.subsections g hg e he, by simp [Owner.rule, Rule.allActions]⟩
  · exact ⟨h.fields f hf e he, by simp [Owner.rule, Rule.allActions]⟩

end Schema

/-! ## Validators -/

theorem Verdict.ofBool_ne_skipped (b : Bool) (w : Warning) : ofBool b ≠ .skipped w := by
  cases b <;> exact nofun

namespace Validator

variable {v : Validator} {checks : Dict HostCheck} {values : Dict Value} {w : Warning}

theorem eq_of_judgePattern_skipped {field : String} {value bound : Value}
    (h : judgePattern field value bound = .skipped w) :
    ∃ pattern, w = .invalidPattern field pattern := by
  unfold judgePattern at h
  split at h
  · split at h
    · exact absurd h (Verdict.ofBool_ne_skipped _ _)
    · cases h
      exact ⟨_, rfl⟩
  · cases h

theorem eq_of_judgeGiven_skipped {field : String} {value : Value}
    (h : v.judgeGiven checks values field value = .skipped w) :
    (∃ pattern, w = .invalidPattern field pattern) ∨ ∃ name, w = .unknownCheck field name := by
  unfold judgeGiven at h
  cases hkind : v.kind with
  | required =>
    rw [hkind] at h
    cases h
  | pattern =>
    rw [hkind] at h
    exact .inl (eq_of_judgePattern_skipped h)
  | custom =>
    rw [hkind] at h
    dsimp only at h
    split at h
    · exact absurd h (Verdict.ofBool_ne_skipped _ _)
    · cases h
      exact .inr ⟨_, rfl⟩
  | _ =>
    rw [hkind] at h
    exact absurd h (Verdict.ofBool_ne_skipped _ _)

theorem eq_of_judge_skipped {field : Field} {value : Value}
    (h : v.judge checks values field value = .skipped w) :
    (∃ pattern, w = .invalidPattern field.id pattern) ∨
      ∃ name, w = .unknownCheck field.id name := by
  unfold judge at h
  split at h
  · exact absurd h (Verdict.ofBool_ne_skipped _ _)
  · split at h
    · cases h
    · exact eq_of_judgeGiven_skipped h

theorem exists_of_mem_firstFailure {judge : Validator → Verdict} {vs : List Validator}
    {w : Warning} (h : w ∈ (firstFailure judge vs).2) : ∃ v ∈ vs, judge v = .skipped w := by
  induction vs with
  | nil => cases h
  | cons v rest ih =>
    rw [firstFailure] at h
    split at h
    · cases h
    · obtain ⟨v', hv', hw⟩ := ih h
      exact ⟨v', List.mem_cons_of_mem _ hv', hw⟩
    · rename_i w' hjudge
      rcases List.mem_cons.1 h with rfl | h
      · exact ⟨v, List.mem_cons_self, hjudge⟩
      · obtain ⟨v', hv', hw⟩ := ih h
        exact ⟨v', List.mem_cons_of_mem _ hv', hw⟩

end Validator

namespace Snapshot

variable {s t : Snapshot}

/-! ## Forms in the vocabulary -/

theorem known_of_rule? (hs : s.form.Loaded) (hv : s.form.schema.InVocabulary) {id : String}
    {node : RuleNode} (h : s.form.graph.rule? id = some node) :
    node.rule.condition.Known ∧ Action.unknown ∉ node.rule.allActions := by
  rw [hs.graph] at h
  obtain ⟨r, hr, -, rfl⟩ := (RuleGraph.rule?_ofSchema hs.named).1 h
  exact hv.rule hr

theorem not_unknownOperator_evaluateWith (hs : s.form.Loaded) (hv : s.form.schema.InVocabulary)
    (params : Dict Value) (ids : List String) (name : String) :
    Warning.unknownOperator name ∉ RuleRun.warningsOf (s.evaluateWith params ids) := by
  intro hw
  obtain ⟨id, node, scope, hnode, hw⟩ := exists_of_mem_warnings_evaluateWith hw
  exact (known_of_rule? hs hv hnode).1.not_unknownOperator scope name hw

theorem not_unknownOperator_updateWarnings (hs : s.form.Loaded)
    (hv : s.form.schema.InVocabulary) (field : String) (value : Value) (name : String) :
    Warning.unknownOperator name ∉ s.updateWarnings field (s.cascadeOf field value) := by
  intro hw
  rcases List.mem_append.1 hw with hw | hw
  · obtain ⟨id, node, scope, hnode, hw⟩ := exists_of_mem_warnings_cascade hw
    exact (known_of_rule? (s := s) hs hv hnode).1.not_unknownOperator scope name hw
  · split at hw
    · cases List.mem_singleton.1 hw
    · cases hw

theorem not_unknownOperator_start {f : Form} (hf : f.Loaded) (hv : f.schema.InVocabulary)
    (name : String) : Warning.unknownOperator name ∉ f.start.warnings := by
  intro hw
  rcases List.mem_append.1 hw with hw | hw
  · obtain ⟨cycle, -, heq⟩ := List.mem_map.1 hw
    cases heq
  · exact not_unknownOperator_evaluateWith (s := f.blank) hf hv _ _ name hw

/-- Validation evaluates gates; what it skips besides are patterns and checks of the host. -/
theorem not_unknownOperator_validate (hv : s.form.schema.InVocabulary) (checks : Dict HostCheck)
    (name : String) : Warning.unknownOperator name ∉ (s.validate checks).warnings := by
  intro hw
  rcases List.mem_append.1 hw with hw | hw
  · obtain ⟨f, hf, hw⟩ := List.mem_flatMap.1 hw
    obtain ⟨v, hmem, hw⟩ := List.mem_flatMap.1 hw
    obtain ⟨e, he, hw⟩ := List.mem_flatMap.1 hw
    have hknown : e.Known := hv.gates f (List.mem_of_mem_filter hf) v hmem e (by simpa using he)
    exact hknown.not_unknownOperator s.scope name hw
  · obtain ⟨⟨id, failure, warnings⟩, hout, hw⟩ := List.mem_flatMap.1 hw
    obtain ⟨⟨id', f, vs⟩, -, heq⟩ := List.mem_map.1 hout
    obtain ⟨rfl, -, rfl⟩ : id' = id ∧ (s.failureOf checks f vs).1 = failure ∧
        (s.failureOf checks f vs).2 = warnings := by simpa [Prod.ext_iff] using heq
    obtain ⟨v, -, hskipped⟩ := Validator.exists_of_mem_firstFailure hw
    rcases Validator.eq_of_judge_skipped hskipped with ⟨_, h⟩ | ⟨_, h⟩ <;> cases h

/-! ## Steps -/

theorem Step.not_unknownOperator (h : Step s t) (hs : s.form.Loaded)
    (hv : s.form.schema.InVocabulary) {name : String}
    (hw : Warning.unknownOperator name ∉ s.warnings) :
    Warning.unknownOperator name ∉ t.warnings := by
  rcases h.cases with ⟨actions, rfl⟩ | ⟨field, value, hupdate⟩ | hreset
  · rwa [(applyAll_form s actions).2]
  · obtain ⟨-, -, rfl⟩ := update_eq_ok_iff.1 hupdate
    exact not_unknownOperator_updateWarnings hs hv field value name
  · obtain ⟨hnamed, rfl⟩ := build_ok hreset
    exact not_unknownOperator_start (f := .ofSchema ..) ⟨hnamed, rfl⟩ hv name

theorem Reaches.not_unknownOperator (h : Reaches s t) (hs : s.form.Loaded)
    (hv : s.form.schema.InVocabulary) {name : String}
    (hw : Warning.unknownOperator name ∉ s.warnings) :
    Warning.unknownOperator name ∉ t.warnings := by
  induction h with
  | refl => exact hw
  | tail hreach hstep ih =>
    obtain ⟨hloaded, hschema⟩ := Reaches.loaded hreach hs
    exact hstep.not_unknownOperator hloaded (hschema ▸ hv) ih

/-- Building a form undoes nothing: it leaves out actions, but it does not fail for warnings. -/
theorem build_ne_discarded {schema : Schema} {globals params : Dict Value} {config : Config}
    {warnings : List Warning} :
    build schema globals params config ≠ .error (.evaluationDiscarded warnings) := by
  unfold build Form.load
  cases config.validate <;> cases RuleGraph.build schema config <;>
    simp [Except.mapError, Except.map, bind, Except.bind, pure, Except.pure]

/-- A form that is built under the strict setting never meets an unknown operator: not in the
warnings of a snapshot that it can get to, nor in the warnings for which an update or a reset of it
is undone, nor when any of its rules are evaluated with any params, nor in a report. No rule of its
graph, declared or of a visibility condition, has an unknown action. -/
theorem strict_form_never_meets_unknown {schema : Schema} {globals params : Dict Value}
    {config : Config} {first s : Snapshot}
    (hbuild : build schema globals params config = .ok first)
    (hstrict : config.strictSchema = true) (hreach : Reaches first s) :
    (∀ name, Warning.unknownOperator name ∉ s.warnings) ∧
    (∀ warnings, ((∃ field value, s.update field value = .error (.evaluationDiscarded warnings)) ∨
        s.reset = .error (.evaluationDiscarded warnings)) →
      ∀ name, Warning.unknownOperator name ∉ warnings) ∧
    (∀ params ids name,
      Warning.unknownOperator name ∉ RuleRun.warningsOf (s.evaluateWith params ids)) ∧
    (∀ checks name, Warning.unknownOperator name ∉ (s.validate checks).warnings) ∧
    ∀ id node, s.form.graph.rule? id = some node → Action.unknown ∉ node.rule.allActions := by
  obtain ⟨hnamed, rfl⟩ := build_ok hbuild
  have hloaded : (Form.ofSchema schema globals params config).Loaded := ⟨hnamed, rfl⟩
  have hknown : schema.InVocabulary := by
    obtain ⟨f, hf, -⟩ := build_eq_ok_iff.1 hbuild
    obtain ⟨hgraph, -⟩ := Form.build_of_load hf
    exact (Schema.check_eq_ok_iff.1 (RuleGraph.build_eq_ok_iff.1 hgraph).1).2.2.2 hstrict
  obtain ⟨hs, hschema⟩ := Reaches.loaded hreach (by rwa [Form.form_start])
  have hv : s.form.schema.InVocabulary := by
    rw [hschema, Form.form_start]
    exact hknown
  refine ⟨fun name => ?_, ?_, not_unknownOperator_evaluateWith hs hv,
    not_unknownOperator_validate hv, fun id node hnode => (known_of_rule? hs hv hnode).2⟩
  · refine Reaches.not_unknownOperator hreach ?_ ?_ (not_unknownOperator_start hloaded hknown name)
    all_goals rwa [Form.form_start]
  · rintro warnings (⟨field, value, herror⟩ | herror)
    · rcases update_eq_error_iff.1 herror with ⟨-, heq⟩ | ⟨-, -, heq⟩
      · cases heq
      · cases heq
        exact not_unknownOperator_updateWarnings hs hv field value
    · exact absurd herror build_ne_discarded

/-- A meter whose readings are compared with one operand too few, by a rule and by a gate. -/
def meterForm : Schema where
  sections := [{
    id := "main"
    fields := [
      { id := "first", kind := .number },
      { id := "last", kind := .number
        visibleWhen := some (.var "first" none)
        validators := [{ kind := .required
                         gate := some (.op (.relation .equal) [.var "first" none]) }] }] }]
  rules := [{
    id := "compare"
    condition := .op (.relation .equal) [.var "first" none]
    actions := [.setError "last" "no consumption"] }]

theorem meterForm_never_meets_unknown :
    ∃ s warnings checked,
      build meterForm [] [] { strictSchema := true, discardOnWarning := true } = .ok s ∧
      s.warnings ≠ [] ∧ (∀ name, Warning.unknownOperator name ∉ s.warnings) ∧
      s.update "first" (.number (.int 7)) = .error (.evaluationDiscarded warnings) ∧
      warnings.length = 1 ∧ (∀ name, Warning.unknownOperator name ∉ warnings) ∧
      Reaches s checked ∧ (checked.validate []).warnings.length = 1 ∧
      ∀ name, Warning.unknownOperator name ∉ (checked.validate []).warnings := by
  let s := (Form.ofSchema meterForm [] [] { strictSchema := true, discardOnWarning := true }).start
  have hbuild : build meterForm [] [] { strictSchema := true, discardOnWarning := true } = .ok s :=
    build_eq_start (by decide +kernel)
  have hshown : Reaches s (s.applyAll [.setVisible .field "last" true]) := .single (.applyAll _)
  have hupdate : s.update "first" (.number (.int 7)) = .error (.evaluationDiscarded _) :=
    update_eq_error_iff.2 (.inr ⟨by decide +kernel, by decide +kernel, rfl⟩)
  obtain ⟨hwarnings, hdiscarded, -⟩ := strict_form_never_meets_unknown hbuild rfl .refl
  obtain ⟨-, -, -, hreport, -⟩ := strict_form_never_meets_unknown hbuild rfl hshown
  exact ⟨s, _, _, hbuild, List.append_ne_nil_of_right_ne_nil _ (by decide +kernel), hwarnings,
    hupdate, by decide +kernel, hdiscarded _ (.inl ⟨_, _, hupdate⟩), hshown, by decide +kernel,
    hreport []⟩

end Snapshot

end FormEngine
