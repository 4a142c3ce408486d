import FormEngine.Proofs.Update.Pass

/-!
# No rule is left stale

A cascade that is not cut off evaluates every rule that reads a changed field, and the last
evaluation of every rule has seen the final values of the fields the rule is indexed under. The
invariant is `Cascade.Settles`; it is carried from the end of a cascade to its beginning, one pass
at a time, and cycles of rules do no harm to it.
-/

namespace FormEngine

open Value (sameOption sameOption_refl sameOption_comm sameOption_trans)

namespace Cascade

/-- Some pass evaluates a rule. -/
def Evaluated (c : Cascade) (id : String) : Prop := ∃ run ∈ c.runs, run.rule = id

/-- The last evaluation of a rule. -/
def lastRun? (c : Cascade) (id : String) : Option RuleRun :=
  c.runs.reverse.find? fun run => run.rule = id

/-- What a cascade owes to a state and the fields that have changed in it: rules that read one of
these fields or a field that ends up different are evaluated, and the last evaluation of a rule has
seen the final values of what the rule reads. -/
structure Settles (s : Snapshot) (changed : List String) (c : Cascade) : Prop where
  triggered : ∀ field ∈ changed, ∀ id ∈ s.form.graph.rulesFor field, c.Evaluated id
  moved : ∀ field, ∀ id ∈ s.form.graph.rulesFor field,
    sameOption (s.values.get? field) (c.last.values.get? field) = false → c.Evaluated id
  fresh : ∀ id run, c.lastRun? id = some run → ∀ field, id ∈ s.form.graph.rulesFor field →
    sameOption (run.seen.get? field) (c.last.values.get? field) = true

variable {c : Cascade} {p : Pass} {id : String}

theorem evaluated_after :
    (c.after p).Evaluated id ↔ (∃ run ∈ p.runs, run.rule = id) ∨ c.Evaluated id := by
  unfold Evaluated
  simp only [runs_after, List.mem_append, or_and_right, exists_or]

theorem evaluated_of_lastRun? {run : RuleRun} (h : c.lastRun? id = some run) :
    run ∈ c.runs ∧ run.rule = id :=
  ⟨List.mem_reverse.1 (List.mem_of_find?_eq_some h), by simpa using List.find?_some h⟩

theorem lastRun?_after {run : RuleRun} (h : (c.after p).lastRun? id = some run) :
    c.lastRun? id = some run ∨ ¬ c.Evaluated id ∧ run ∈ p.runs := by
  have hrule := (evaluated_of_lastRun? h).2
  unfold lastRun? at h ⊢
  rw [runs_after, List.reverse_append, List.find?_append, Option.or_eq_some_iff] at h
  rcases h with h | ⟨hnone, h⟩
  · exact .inl h
  · refine .inr ⟨?_, List.mem_reverse.1 (List.mem_of_find?_eq_some h)⟩
    rintro ⟨other, hmem, hother⟩
    exact List.find?_eq_none.1 hnone other (List.mem_reverse.2 hmem) (by simpa using hother)

end Cascade

namespace Snapshot

open Cascade

/-- A field that a rule reads stays as it is, in a pass and to the end, unless the later passes
evaluate the rule. -/
theorem same_of_not_evaluated {s : Snapshot} {ids : List String} {c : Cascade}
    (h : Settles (s.afterPass (s.pass ids)) (s.pass ids).changed c) {field id : String}
    (hid : id ∈ s.form.graph.rulesFor field) (hlater : ¬ c.Evaluated id) :
    (∀ run ∈ (s.pass ids).runs,
      sameOption (s.values.get? field) (run.seen.get? field) = true) ∧
      sameOption (s.values.get? field) (c.last.values.get? field) = true := by
  have hform : (s.afterPass (s.pass ids)).form = s.form := (applyAll_form _ _).1
  obtain ⟨htriggered, hmoved, -⟩ := h
  rw [hform] at htriggered hmoved
  obtain ⟨hseen, hafter⟩ := same_of_notMem_changed fun hmem =>
    hlater (htriggered field hmem id hid)
  have hend : sameOption ((s.afterPass (s.pass ids)).values.get? field)
      (c.last.values.get? field) = true := by
    by_contra hne
    exact hlater (hmoved field id hid (by simpa using hne))
  exact ⟨hseen, sameOption_trans hafter hend⟩

/-- A pass in front of a cascade that settles the changes of the pass. -/
theorem settles_after {s : Snapshot} (hs : s.form.Loaded) {changed : List String} {c : Cascade}
    (h : Settles (s.afterPass (s.pass (s.triggered changed)))
      (s.pass (s.triggered changed)).changed c) :
    Settles s changed (c.after (s.pass (s.triggered changed))) := by
  constructor
  case triggered =>
    intro field hfield id hid
    refine evaluated_after.2 (.inl ?_)
    refine (exists_run_iff hs).2 ⟨mem_triggered.2 ⟨field, hfield, hid⟩, ?_⟩
    rw [hs.graph] at hid ⊢
    exact Option.isSome_iff_exists.2 (RuleGraph.exists_of_mem_rulesFor hs.named hid)
  case moved =>
    intro field id hid hne
    by_contra hnot
    have hlater : ¬ c.Evaluated id := fun h => hnot (evaluated_after.2 (.inr h))
    have hsame := (same_of_not_evaluated h hid hlater).2
    rw [show (c.after _).last = c.last from rfl, hsame] at hne
    cases hne
  case fresh =>
    intro id run hrun field hid
    rcases lastRun?_after hrun with hrun | ⟨hlater, hrun⟩
    · have hform : (s.afterPass (s.pass (s.triggered changed))).form = s.form :=
        (applyAll_form _ _).1
      exact h.fresh id run hrun field (hform.symm ▸ hid)
    · obtain ⟨hseen, hend⟩ := same_of_not_evaluated h hid hlater
      have hsame := hseen run hrun
      rw [sameOption_comm] at hsame
      exact sameOption_trans hsame hend

/-- A cascade without passes settles what nothing reads. -/
theorem settles_nil {s : Snapshot} {changed : List String} {limited : Bool}
    (h : ∀ field ∈ changed, ∀ id, id ∉ s.form.graph.rulesFor field) :
    Settles s changed ⟨[], s, limited⟩ := by
  refine ⟨fun field hfield id hid => absurd hid (h field hfield id), ?_, ?_⟩
  · intro field id _ hne
    rw [sameOption_refl] at hne
    cases hne
  · intro id run hrun
    cases hrun

/-- A cascade that is not cut off settles its changes. -/
theorem settles_cascade {limit : Nat} {s : Snapshot} {changed : List String}
    (hs : s.form.Loaded) (h : (cascade limit s changed).limited = false) :
    Settles s changed (cascade limit s changed) := by
  fun_induction cascade limit s changed with
  | case1 limit s => exact settles_nil fun field hfield => absurd hfield List.not_mem_nil
  | case2 s field others => cases h
  | case3 limit s field others ids hids =>
    refine settles_nil fun f hf id hid => ?_
    have hmem : id ∈ ids := mem_triggered.2 ⟨f, hf, hid⟩
    rw [List.isEmpty_iff.1 hids] at hmem
    cases hmem
  | case4 limit s field others ids hids p ih =>
    refine settles_after hs (ih ?_ h)
    rw [show (s.afterPass p).form = s.form from (applyAll_form _ _).1]
    exact hs

theorem not_limited_of_update {s t : Snapshot} {field : String} {value : Value}
    (ht : s.update field value = .ok t)
    (hlimit : ∀ f passes, Warning.passLimit f passes ∉ t.warnings) :
    (s.cascadeOf field value).limited = false := by
  obtain ⟨-, -, rfl⟩ := update_eq_ok_iff.1 ht
  by_contra hlimited
  rw [Bool.not_eq_false] at hlimited
  refine hlimit field s.form.config.maxPasses ?_
  show _ ∈ s.updateWarnings field (s.cascadeOf field value)
  unfold updateWarnings
  rw [if_pos hlimited]
  exact List.mem_append_right _ List.mem_cons_self

/-- After an update without a limit warning no rule is stale: the rules indexed under the edited
field or under a field whose value is different now have been evaluated, and the values that the
last evaluation of a rule ran on are the final ones wherever the rule is indexed. -/
theorem no_stale_rule_of_update {s t : Snapshot} (hs : s.Reachable) {field : String}
    {value : Value} (ht : s.update field value = .ok t)
    (hlimit : ∀ f passes, Warning.passLimit f passes ∉ t.warnings) :
    (∀ key id, id ∈ s.form.graph.rulesFor key →
      key = field ∨ sameOption (s.values.get? key) (t.values.get? key) = false →
        ∃ run ∈ (s.cascadeOf field value).runs, run.rule = id) ∧
    ∀ id, (∃ run ∈ (s.cascadeOf field value).runs, run.rule = id) →
      ∃ run, (s.cascadeOf field value).lastRun? id = some run ∧
        ∀ key, s.form.graph.hasField key = true → id ∈ s.form.graph.rulesFor key →
          sameOption (run.seen.get? key) (t.values.get? key) = true := by
  have hlimited := not_limited_of_update ht hlimit
  have hvalues : t.values = (s.cascadeOf field value).last.values := by
    obtain ⟨-, -, rfl⟩ := update_eq_ok_iff.1 ht
    rfl
  have hsettles : Settles (s.edited field value) [field] (s.cascadeOf field value) :=
    settles_cascade hs.loaded hlimited
  rw [hvalues]
  constructor
  · rintro key id hid (rfl | hne)
    · exact hsettles.triggered key List.mem_cons_self id hid
    · by_cases hkey : field = key
      · exact hsettles.triggered key (by simp [hkey]) id hid
      · refine hsettles.moved key id hid ?_
        show sameOption ((s.values.insert field value).get? key) _ = false
        rwa [Dict.get?_insert, if_neg hkey]
  · rintro id ⟨run, hrun, hrule⟩
    obtain ⟨last, hlast⟩ : ∃ last, (s.cascadeOf field value).lastRun? id = some last :=
      Option.isSome_iff_exists.1 (List.find?_isSome.2
        ⟨run, List.mem_reverse.2 hrun, by simpa using hrule⟩)
    exact ⟨last, hlast, fun key _ hid => hsettles.fresh id last hlast key hid⟩

/-- A form with two fields that follow each other to `on`. -/
def mirrorForm : Schema where
  sections := [{
    id := "main"
    fields := [{ id := "left", kind := .text }, { id := "right", kind := .text }] }]
  rules := [
    { id := "left_to_right"
      condition := .op (.relation .equal) [.var "left" none, .literal (.string "on")]
      actions := [.setValue "right" (.string "on")] },
    { id := "right_to_left"
      condition := .op (.relation .equal) [.var "right" none, .literal (.string "on")]
      actions := [.setValue "left" (.string "on")] }]

theorem mirrorForm_no_stale_rule :
    ∃ t, (Form.ofSchema mirrorForm [] [] {}).start.update "left" (.string "on") = .ok t ∧
      ∃ run, ((Form.ofSchema mirrorForm [] [] {}).start.cascadeOf "left"
          (.string "on")).lastRun? "left_to_right" = some run ∧
        sameOption (run.seen.get? "left") (t.values.get? "left") = true := by
  obtain ⟨t, ht, hnone⟩ := exists_ok_of_any (show ((Form.ofSchema mirrorForm [] [] {}).start.update
    "left" (.string "on")).toOption.any (·.warnings.isEmpty) = true by decide +kernel)
  have hreach : (Form.ofSchema mirrorForm [] [] {}).start.Reachable :=
    ⟨mirrorForm, [], [], {}, _, build_eq_start (by decide +kernel), .refl⟩
  have hrule : "left_to_right" ∈
      (Form.ofSchema mirrorForm [] [] {}).start.form.graph.rulesFor "left" := by decide +kernel
  obtain ⟨hread, hlast⟩ := no_stale_rule_of_update hreach ht (by simp [List.isEmpty_iff.1 hnone])
  obtain ⟨run, hrun, hsame⟩ := hlast _ (hread "left" _ hrule (.inl rfl))
  exact ⟨t, ht, run, hrun, hsame "left" (by decide +kernel) hrule⟩

end Snapshot

end FormEngine
