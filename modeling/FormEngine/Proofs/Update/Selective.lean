import FormEngine.Proofs.RuleGraph.Cone
import FormEngine.Proofs.Update.Trace

/-!
# Updates stay in a cone

Where the readers of what has changed are in the cone of a field, so are the rules of the next pass,
and those that read what the pass changes (`cone_of_mem_changed`). So a cascade evaluates rules of
the cone only, and an update leaves everything alone that no rule of the cone acts on
(`update_stays_in_cone`).
-/

namespace FormEngine.Snapshot

open RuleGraph

variable {s : Snapshot} {field : String} {ids changed : List String}

/-! ## One pass -/

theorem exists_node_of_mem_evaluate (hs : s.form.Loaded) {run : RuleRun}
    (h : run ∈ s.evaluate ids) :
    run.rule ∈ ids ∧ ∃ node, s.form.graph.rule? run.rule = some node ∧
      run.actions ⊆ node.rule.allActions := by
  obtain ⟨before, node, after, hnodes, rfl⟩ := Form.exists_of_mem_runRules h
  have hmem : node ∈ s.nodesOf ids := by
    rw [show s.nodesOf ids = _ from hnodes]
    exact List.mem_append_right _ List.mem_cons_self
  obtain ⟨hid, hnode⟩ := rule?_of_mem_nodesOf hs hmem
  exact ⟨hid, node, hnode, fun _ haction => Rule.mem_allActions_of_mem_branch haction⟩

theorem coneActs_of_mem_evaluate (hs : s.form.Loaded)
    (h : ∀ id ∈ ids, s.form.graph.Cone field id) {run : RuleRun} (hrun : run ∈ s.evaluate ids) :
    s.form.graph.Cone field run.rule ∧
      ∀ action ∈ run.actions, s.form.graph.ConeActs field action := by
  obtain ⟨hid, node, hnode, hactions⟩ := exists_node_of_mem_evaluate hs hrun
  exact ⟨h _ hid, fun action haction => ⟨run.rule, node, h _ hid, hnode, hactions haction⟩⟩

theorem cone_of_mem_triggered (h : ∀ key ∈ changed, ∀ id ∈ s.form.graph.rulesFor key,
    s.form.graph.Cone field id) : ∀ id ∈ s.triggered changed, s.form.graph.Cone field id := by
  intro id hid
  obtain ⟨key, hkey, hmem⟩ := mem_triggered.1 hid
  exact h key hkey id hmem

/-- A pass over rules of a cone changes only fields that are read in the cone. -/
theorem cone_of_mem_changed (hs : s.form.Loaded)
    (h : ∀ id ∈ ids, s.form.graph.Cone field id) :
    ∀ key ∈ (s.pass ids).changed, ∀ id ∈ s.form.graph.rulesFor key,
      s.form.graph.Cone field id := by
  intro key hkey id hid
  obtain ⟨other, hother, hfed⟩ := exists_feeder_of_mem_triggered hs
    (List.mem_flatMap.2 ⟨key, hkey, hid⟩)
  exact (h other hother).step hfed

/-! ## Cascades -/

/-- A cascade from fields that are read in a cone evaluates rules of the cone, and all its actions
are theirs. -/
theorem cone_of_mem_cascade {limit : Nat} (hs : s.form.Loaded)
    (h : ∀ key ∈ changed, ∀ id ∈ s.form.graph.rulesFor key, s.form.graph.Cone field id)
    {run : RuleRun} (hrun : run ∈ (cascade limit s changed).runs) :
    s.form.graph.Cone field run.rule ∧
      ∀ action ∈ run.actions, s.form.graph.ConeActs field action := by
  fun_induction cascade limit s changed with
  | case1 limit s => cases hrun
  | case2 s first others => cases hrun
  | case3 limit s first others ids hids => cases hrun
  | case4 limit s first others ids hids p ih =>
    have hcone := cone_of_mem_triggered h
    rcases List.mem_append.1 hrun with hrun | hrun
    · exact coneActs_of_mem_evaluate hs hcone hrun
    · have hform := form_afterPass s p
      rw [hform] at ih
      exact ih hs (cone_of_mem_changed hs hcone) hrun

theorem cone_of_mem_cascadeOf (hs : s.form.Loaded) {value : Value} {run : RuleRun}
    (hrun : run ∈ (s.cascadeOf field value).runs) :
    s.form.graph.Cone field run.rule ∧
      ∀ action ∈ run.actions, s.form.graph.ConeActs field action := by
  refine cone_of_mem_cascade (s := s.edited field value) hs ?_ hrun
  intro key hkey id hid
  rw [List.mem_singleton.1 hkey] at hid
  exact .start hid

theorem coneActs_of_mem_cascadeOf (hs : s.form.Loaded) {value : Value} {action : Action}
    (h : action ∈ RuleRun.actionsOf (s.cascadeOf field value).runs) :
    s.form.graph.ConeActs field action := by
  obtain ⟨run, hrun, haction⟩ := List.mem_flatMap.1 h
  exact (cone_of_mem_cascadeOf hs hrun).2 action haction

/-! ## Updates -/

theorem cell_update_of_not_coneTargets (hs : s.form.Loaded) {value : Value} {t : Snapshot}
    (ht : s.update field value = .ok t) {id : String}
    (h : ¬ s.form.graph.ConeTargets field id) : t.cell id = s.cell id := by
  rw [update_eq_applyAll ht]
  exact cell_applyAll_of_not_target fun action haction htarget =>
    h ⟨action, coneActs_of_mem_cascadeOf hs haction, htarget⟩

/-- An update leaves a value alone that it does not edit and that no action of the cone sets. -/
theorem get?_update_of_not_coneSets (hs : s.form.Loaded) {value : Value} {t : Snapshot}
    (ht : s.update field value = .ok t) {key : String} (hkey : key ≠ field)
    (h : s.form.graph.hasField key = true → ¬ s.form.graph.ConeSets field key) :
    t.values.get? key = s.values.get? key := by
  rw [update_eq_applyAll ht]
  refine (get?_applyAll_of_not_set (s := s.edited field value) fun hfield v haction => ?_).trans ?_
  · exact h hfield ⟨v, coneActs_of_mem_cascadeOf hs haction⟩
  · exact (Dict.get?_insert ..).trans (if_neg (Ne.symm hkey))

/-- An update evaluates rules of the cone of its field only. What stands under an id that no action
of the cone targets is left alone: the state of a field, the state of a group, an error, and a value
unless it is the edited one. So is the fixed part of the form. -/
theorem update_stays_in_cone {t : Snapshot} (hs : s.form.Loaded) {value : Value}
    (ht : s.update field value = .ok t) :
    (∀ run ∈ (s.cascadeOf field value).runs, s.form.graph.Cone field run.rule) ∧
    (∀ id, ¬ s.form.graph.ConeTargets field id →
      t.ui.fields.get? id = s.ui.fields.get? id ∧
      t.ui.sections.get? id = s.ui.sections.get? id ∧
      t.errors.get? id = s.errors.get? id ∧
      (id ≠ field → t.values.get? id = s.values.get? id)) ∧
    t.form = s.form := by
  refine ⟨fun run hrun => (cone_of_mem_cascadeOf hs hrun).1, fun id hid => ?_, form_update ht⟩
  have hcell := cell_update_of_not_coneTargets hs ht hid
  refine ⟨congrArg Cell.field hcell, congrArg Cell.group hcell, congrArg Cell.error hcell, ?_⟩
  exact fun hne => get?_update_of_not_coneSets hs ht hne fun _ hsets => hid hsets.targets

/-- An order whose currency follows its country, with a note for dollars, and whose phone number is
dropped when a mail address is given. -/
def orderForm : Schema where
  sections := [{
    id := "main"
    fields := [
      { id := "country", kind := .text, defaultValue := some (.string "FR") },
      { id := "currency", kind := .text },
      { id := "note", kind := .text }]
    subsections := [{
      id := "contact"
      fields := [{ id := "mail", kind := .email }, { id := "phone", kind := .phone }] }] }]
  rules := [
    { id := "currency_of_country"
      condition := .op (.relation .equal) [.var "country" none, .literal (.string "FR")]
      actions := [.setValue "currency" (.string "EUR")]
      otherwise := [.setValue "currency" (.string "USD")] },
    { id := "note_for_dollars"
      condition := .op (.relation .equal) [.var "currency" none, .literal (.string "USD")]
      actions := [.setVisible .field "note" true]
      otherwise := [.setVisible .field "note" false] },
    { id := "drop_phone"
      condition := .var "mail" none
      actions := [.setValue "phone" (.string ""), .setError "phone" "dropped",
        .setEnabled (some .group) "subsection_contact" false] }]

theorem orderForm_update_stays_in_cone :
    ∃ t, (Form.ofSchema orderForm [] [] {}).start.update "country" (.string "US") = .ok t ∧
      ((Form.ofSchema orderForm [] [] {}).start.cascadeOf "country" (.string "US")).runs.map
        (·.rule) = ["currency_of_country", "note_for_dollars"] ∧
      t.ui.fields.get? "phone" =
        (Form.ofSchema orderForm [] [] {}).start.ui.fields.get? "phone" ∧
      t.values.get? "mail" = (Form.ofSchema orderForm [] [] {}).start.values.get? "mail" := by
  have hbuild : build orderForm [] [] {} = .ok _ := build_eq_start (by decide +kernel)
  have hform := Form.form_start (Form.ofSchema orderForm [] [] {})
  obtain ⟨t, ht⟩ := exists_ok_of_isSome (show ((Form.ofSchema orderForm [] [] {}).start.update
    "country" (.string "US")).toOption.isSome = true by decide +kernel)
  have hcells := (update_stays_in_cone (by rw [hform]; exact ⟨(build_ok hbuild).1, rfl⟩) ht).2.1
  have hstart : ∀ id ∈ (RuleGraph.ofSchema orderForm).rulesFor "country",
      id ∈ ["currency_of_country", "note_for_dollars"] := by decide +kernel
  have htargets : ∀ key, (RuleGraph.ofSchema orderForm).ConeTargets "country" key →
      key ∈ ["currency", "currency", "note", "note"] := fun key hkey =>
    hkey.mem_of_closed hstart (by decide +kernel)
  rw [hform] at hcells
  refine ⟨t, ht, by decide +kernel, (hcells "phone" fun h => ?_).1,
    (hcells "mail" fun h => ?_).2.2.2 (by decide)⟩
  · exact absurd (htargets _ h) (by decide)
  · exact absurd (htargets _ h) (by decide)

end FormEngine.Snapshot
