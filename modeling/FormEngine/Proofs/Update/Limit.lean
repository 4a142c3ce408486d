import FormEngine.Proofs.Expr.Warnings
import FormEngine.Proofs.Update.Acyclic
import Mathlib.Data.List.Perm.Subperm

/-!
# The limit on passes

A cascade that is cut off has made as many passes as the limit allows, and its last pass has changed
a field. A rule of that pass ends a walk with an edge for each pass before it, and without cycles
such a walk meets a new rule at every step. So a limit above the number of rules is never reached
(`acyclic_update_within_limit`).
-/

namespace FormEngine

/-! ## Walks without cycles -/

namespace RuleGraph

variable {s : Schema} {starts : List String} {n : Nat} {id : String}

theorem Walk.exists_nodup (hs : s.WellNamed) (hc : (ofSchema s).cycles = [])
    (hstarts : ∀ a ∈ starts, a ∈ (ofSchema s).order) (h : Walk (ofSchema s) starts n id) :
    ∃ met : List String, met.length = n + 1 ∧ met.Nodup ∧ met ⊆ (ofSchema s).order ∧
      ∀ a ∈ met, Relation.ReflTransGen (fun a b => b ∈ (ofSchema s).fedBy a) a id := by
  induction h with
  | @start id hid =>
    refine ⟨[id], rfl, List.nodup_singleton id, ?_, ?_⟩
    · exact List.cons_subset.2 ⟨hstarts id hid, List.nil_subset _⟩
    · intro a ha
      rw [List.mem_singleton.1 ha]
  | @step n a b _ hb ih =>
    obtain ⟨met, hlength, hnodup, hsub, hreach⟩ := ih
    have hnew : b ∉ met := fun hmem =>
      not_transGen_fedBy hs hc b (.tail' (hreach b hmem) hb)
    refine ⟨b :: met, by rw [List.length_cons, hlength], List.nodup_cons.2 ⟨hnew, hnodup⟩, ?_, ?_⟩
    · exact List.cons_subset.2 ⟨(edge_of_mem_fedBy hs hb).2, hsub⟩
    · intro c hmem
      rcases List.mem_cons.1 hmem with rfl | hmem
      · exact .refl
      · exact (hreach c hmem).tail hb

/-- Without cycles a walk has fewer edges than there are rules. -/
theorem Walk.lt_length (hs : s.WellNamed) (hc : (ofSchema s).cycles = [])
    (hstarts : ∀ a ∈ starts, a ∈ (ofSchema s).order) (h : Walk (ofSchema s) starts n id) :
    n < (ofSchema s).order.length := by
  obtain ⟨met, hlength, hnodup, hsub, -⟩ := h.exists_nodup hs hc hstarts
  have hle : met.length ≤ (ofSchema s).order.length :=
    (List.subperm_of_subset hnodup hsub).length_le
  omega

end RuleGraph

namespace Snapshot

/-! ## Cascades that are cut off -/

theorem exists_last_of_limited {limit : Nat} {s : Snapshot} {changed : List String}
    (hlimit : 0 < limit) (h : (cascade limit s changed).limited = true) :
    ∃ before p, (cascade limit s changed).passes = before ++ [p] ∧ before.length + 1 = limit ∧
      p.changed ≠ [] := by
  fun_induction cascade limit s changed with
  | case1 limit s => cases h
  | case2 s field others => cases hlimit
  | case3 limit s field others ids hids => cases h
  | case4 limit s field others ids hids p ih =>
    change (cascade limit (s.afterPass p) p.changed).limited = true at h
    rcases Nat.eq_zero_or_pos limit with rfl | hpos
    · cases hchanged : p.changed with
      | nil =>
        rw [hchanged] at h
        cases h
      | cons first rest =>
        exact ⟨[], p, rfl, rfl, by rw [hchanged]; exact List.cons_ne_nil _ _⟩
    · obtain ⟨before, q, hpasses, hlength, hne⟩ := ih hpos h
      refine ⟨p :: before, q, ?_, by rw [List.length_cons, hlength], hne⟩
      rw [List.cons_append, ← hpasses]
      rfl

theorem exists_run_of_changed {s : Snapshot} {ids : List String}
    (h : (s.pass ids).changed ≠ []) : ∃ run, run ∈ (s.pass ids).runs := by
  obtain ⟨key, hkey⟩ := List.exists_mem_of_ne_nil _ h
  obtain ⟨value, haction, -, -⟩ := mem_changedBy.1 hkey
  obtain ⟨run, hrun, -⟩ := List.mem_flatMap.1 haction
  exact ⟨run, hrun⟩

/-- Without cycles a limit above the number of rules does not cut a cascade off. -/
theorem not_limited_of_acyclic {limit : Nat} {s : Snapshot} {changed : List String}
    (hs : s.form.Loaded) (hc : s.form.graph.cycles = [])
    (hlimit : s.form.graph.rules.length < limit) :
    (cascade limit s changed).limited = false := by
  by_contra hlimited
  rw [Bool.not_eq_false] at hlimited
  obtain ⟨before, p, hpasses, hlength, hne⟩ :=
    exists_last_of_limited (Nat.zero_lt_of_lt hlimit) hlimited
  have htrace := (trace_cascade limit s changed).1
  rw [hpasses] at htrace
  obtain ⟨run, hrun⟩ : ∃ run, run ∈ p.runs := by
    obtain ⟨_, hlast, -⟩ := htrace.drop hs
    cases hlast with
    | cons hp _ =>
      subst hp
      exact exists_run_of_changed hne
  have hwalk := htrace.walk hs hrun
  rw [hs.graph] at hc hlimit hwalk
  have hlt := hwalk.lt_length hs.named hc fun a ha => by
    obtain ⟨field, -, hid⟩ := List.mem_flatMap.1 ha
    exact RuleGraph.mem_order_of_mem_rulesFor hs.named hid
  rw [RuleGraph.length_rules_ofSchema hs.named] at hlimit
  omega

theorem isEvaluation_of_mem_cascade {limit : Nat} {s : Snapshot} {changed : List String}
    {w : Warning} (h : w ∈ (cascade limit s changed).warnings) : w.isEvaluation = true := by
  obtain ⟨id, node, scope, -, hw⟩ := exists_of_mem_warnings_cascade h
  exact Expr.isEvaluation_of_mem_warnings _ hw

/-! ## Updates -/

theorem warnings_of_discarded {s : Snapshot} {field : String} {value : Value}
    {warnings : List Warning}
    (h : s.update field value = .error (.evaluationDiscarded warnings)) :
    warnings = s.updateWarnings field (s.cascadeOf field value) := by
  unfold update at h
  by_cases hfield : s.form.graph.hasField field = true
  · rw [if_pos hfield] at h
    dsimp only at h
    split at h
    · cases h
      rfl
    · cases h
  · rw [if_neg hfield] at h
    cases h

/-- Updates of a form without cycles, and so of every form that is loaded under the rejecting
policy, raise no limit warning if the limit on passes is above the number of rules: neither in the
state after the update, nor among the warnings for which it is undone. -/
theorem acyclic_update_within_limit {schema : Schema} {globals params : Dict Value}
    {config : Config} {f : Form} (h : Form.load schema globals params config = .ok f)
    (hacyclic : f.graph.cycles = [] ∨ config.cyclePolicy = .reject)
    (hlimit : f.graph.rules.length < config.maxPasses) {s : Snapshot} (hs : s.form = f)
    (field : String) (value : Value) :
    (∀ t, s.update field value = .ok t →
      ∀ name passes, Warning.passLimit name passes ∉ t.warnings) ∧
    ∀ warnings, s.update field value = .error (.evaluationDiscarded warnings) →
      ∀ name passes, Warning.passLimit name passes ∉ warnings := by
  subst hs
  obtain ⟨hbuild, hconfig⟩ := Form.build_of_load h
  obtain ⟨hnamed, hform⟩ := Form.load_ok h
  have hc : s.form.graph.cycles = [] :=
    hacyclic.elim id (RuleGraph.cycles_eq_nil_of_reject hbuild)
  have hlimited : (s.cascadeOf field value).limited = false := by
    refine not_limited_of_acyclic (s := s.edited field value) ?_ hc ?_
    · show s.form.Loaded
      rw [hform]
      exact ⟨hnamed, rfl⟩
    · show s.form.graph.rules.length < s.form.config.maxPasses
      rwa [show s.form.config = config by rw [hconfig]]
  have hnone : ∀ name passes,
      Warning.passLimit name passes ∉ s.updateWarnings field (s.cascadeOf field value) := by
    intro name passes hmem
    unfold updateWarnings at hmem
    rw [hlimited, if_neg Bool.false_ne_true, List.append_nil] at hmem
    cases isEvaluation_of_mem_cascade hmem
  constructor
  · intro t ht
    obtain ⟨-, -, rfl⟩ := update_eq_ok_iff.1 ht
    exact hnone
  · intro warnings herror
    rw [warnings_of_discarded herror]
    exact hnone

theorem chainForm_within_limit :
    ∃ f t, Form.load chainForm [] [] { maxPasses := 4 } = .ok f ∧
      f.start.update "a" (.string "on") = .ok t ∧
      (f.start.cascadeOf "a" (.string "on")).passes.length = 3 ∧
      ∀ name passes, Warning.passLimit name passes ∉ t.warnings := by
  obtain ⟨f, hf⟩ := exists_ok_of_isSome
    (show (Form.load chainForm [] [] { maxPasses := 4 }).toOption.isSome = true by
      decide +kernel)
  obtain ⟨-, rfl⟩ := Form.load_ok hf
  obtain ⟨t, ht⟩ := exists_ok_of_isSome
    (show ((Form.ofSchema chainForm [] [] { maxPasses := 4 }).start.update "a"
      (.string "on")).toOption.isSome = true by decide +kernel)
  have hc := RuleGraph.cycles_eq_nil_of_feeds_later
    (show ∀ a ∈ (RuleGraph.ofSchema chainForm).order,
      ∀ b ∈ (RuleGraph.ofSchema chainForm).fedBy a, _ by decide +kernel)
  refine ⟨_, t, hf, ht, by decide +kernel, ?_⟩
  exact (acyclic_update_within_limit hf (.inl hc) (by decide +kernel) (Form.form_start _) _ _).1
    t ht

end Snapshot

end FormEngine
