import FormEngine.Proofs.Update.FirstPass
import FormEngine.Proofs.Update.Freshness
import FormEngine.Proofs.Update.Limit

/-!
# Limits compared

Nothing but the end of a cascade depends on the limit: under a smaller limit a cascade makes the
first passes of the longer one (`passes_cascade_take`). So a cascade that is not cut off is the same
under a larger limit, and the whole update with it (`update_withLimit`).

The limit is reported when the last pass that it leaves room for has changed a field
(`limited_cascade_iff`). A larger limit leads to another pass only if a rule reads such a field
(`isSome_passes_succ_iff`). So what is cut off is always reported, and the limit is reported for
nothing exactly when that pass has changed fields that no rule reads (`limit_reported_iff`).
-/

namespace FormEngine

/-! ## One cascade under two limits -/

namespace Snapshot

variable {n m : Nat} {s : Snapshot} {changed : List String}

theorem cascade_of_triggered_eq_nil (h : s.triggered changed = []) (n : Nat) :
    cascade (n + 1) s changed = ⟨[], s, false⟩ := by
  cases changed with
  | nil => rfl
  | cons field others => rw [cascade, if_pos (by rw [h]; rfl)]

theorem cascade_of_triggered_ne_nil (h : s.triggered changed ≠ []) (n : Nat) :
    cascade (n + 1) s changed =
      (cascade n (s.afterPass (s.pass (s.triggered changed)))
        (s.pass (s.triggered changed)).changed).after (s.pass (s.triggered changed)) := by
  cases changed with
  | nil => exact absurd rfl h
  | cons field others => rw [cascade, if_neg (by rwa [List.isEmpty_iff])]

theorem triggered_ne_nil_of_mem_passes {p : Pass} (h : p ∈ (cascade n s changed).passes) :
    s.triggered changed ≠ [] := by
  intro hids
  cases n with
  | zero => cases changed <;> cases h
  | succ n =>
    rw [cascade_of_triggered_eq_nil hids] at h
    cases h

/-- Under a smaller limit a cascade makes the first passes of the longer one. -/
theorem passes_cascade_take (h : n ≤ m) :
    (cascade n s changed).passes = (cascade m s changed).passes.take n := by
  induction n generalizing m s changed with
  | zero => cases changed <;> simp [cascade]
  | succ n ih =>
    obtain ⟨m, rfl⟩ := Nat.exists_eq_add_one_of_ne_zero (Nat.ne_zero_of_lt h)
    by_cases hids : s.triggered changed = []
    · simp [cascade_of_triggered_eq_nil hids]
    · rw [cascade_of_triggered_ne_nil hids, cascade_of_triggered_ne_nil hids]
      exact congrArg _ (ih (Nat.le_of_succ_le_succ h))

/-- A cascade that is not cut off is the same under a larger limit. -/
theorem cascade_of_not_limited (hle : n ≤ m) (h : (cascade n s changed).limited = false) :
    cascade m s changed = cascade n s changed := by
  induction n generalizing m s changed with
  | zero =>
    cases changed with
    | nil => rw [cascade, cascade]
    | cons field others => cases h
  | succ n ih =>
    obtain ⟨m, rfl⟩ := Nat.exists_eq_add_one_of_ne_zero (Nat.ne_zero_of_lt hle)
    by_cases hids : s.triggered changed = []
    · rw [cascade_of_triggered_eq_nil hids, cascade_of_triggered_eq_nil hids]
    · rw [cascade_of_triggered_ne_nil hids] at h ⊢
      rw [cascade_of_triggered_ne_nil hids, ih (Nat.le_of_succ_le_succ hle) h]

theorem triggered_afterPass (s : Snapshot) (p : Pass) (fields : List String) :
    (s.afterPass p).triggered fields = s.triggered fields := by
  unfold triggered
  rw [form_afterPass]

/-- Behind a pass there is another one exactly if a rule reads what the pass has changed, as long as
the limit leaves room for it. -/
theorem isSome_passes_succ_iff {i : Nat} (hi : i + 1 < n) :
    ((cascade n s changed).passes[i + 1]?).isSome = true ↔
      ∃ p, (cascade n s changed).passes[i]? = some p ∧ s.triggered p.changed ≠ [] := by
  induction i generalizing n s changed with
  | zero =>
    obtain ⟨n, rfl⟩ := Nat.exists_eq_add_of_le' hi
    by_cases hids : s.triggered changed = []
    · simp [cascade_of_triggered_eq_nil hids]
    · rw [cascade_of_triggered_ne_nil hids]
      by_cases hnext : s.triggered (s.pass (s.triggered changed)).changed = []
      · rw [cascade_of_triggered_eq_nil (by rwa [triggered_afterPass])]
        simp [Cascade.after, hnext]
      · rw [cascade_of_triggered_ne_nil (by rwa [triggered_afterPass])]
        simp [Cascade.after, hnext]
  | succ i ih =>
    obtain ⟨n, rfl⟩ := Nat.exists_eq_add_one_of_ne_zero (Nat.ne_zero_of_lt hi)
    by_cases hids : s.triggered changed = []
    · simp [cascade_of_triggered_eq_nil hids]
    · rw [cascade_of_triggered_ne_nil hids]
      show ((cascade n _ _).passes[i + 1]?).isSome = true ↔
        ∃ p, (cascade n _ _).passes[i]? = some p ∧ _
      rw [ih (Nat.lt_of_succ_lt_succ hi)]
      simp only [triggered_afterPass]

/-- A cascade is cut off exactly if the last pass that its limit leaves room for has changed a
field. -/
theorem limited_cascade_iff :
    (cascade (n + 1) s changed).limited = true ↔
      ∃ p, (cascade (n + 1) s changed).passes[n]? = some p ∧ p.changed ≠ [] := by
  constructor
  · intro h
    obtain ⟨before, p, hpasses, hlength, hne⟩ := exists_last_of_limited n.succ_pos h
    obtain rfl : before.length = n := Nat.succ.inj hlength
    exact ⟨p, by rw [hpasses, List.getElem?_concat_length], hne⟩
  · rintro ⟨p, hp, hne⟩
    induction n generalizing s changed with
    | zero =>
      have hids := triggered_ne_nil_of_mem_passes (List.mem_of_getElem? hp)
      rw [cascade_of_triggered_ne_nil hids] at hp ⊢
      cases hp
      obtain ⟨field, others, hchanged⟩ := List.exists_cons_of_ne_nil hne
      rw [hchanged]
      rfl
    | succ n ih =>
      have hids := triggered_ne_nil_of_mem_passes (List.mem_of_getElem? hp)
      rw [cascade_of_triggered_ne_nil hids] at hp ⊢
      exact ih hp

theorem runs_ne_nil_of_mem_passes (hs : s.form.Loaded) {p : Pass}
    (h : p ∈ (cascade n s changed).passes) : p.runs ≠ [] := by
  induction n generalizing s changed with
  | zero => cases changed <;> cases h
  | succ n ih =>
    have hids := triggered_ne_nil_of_mem_passes h
    rw [cascade_of_triggered_ne_nil hids] at h
    rcases List.mem_cons.1 h with rfl | h
    · obtain ⟨id, hid⟩ := List.exists_mem_of_ne_nil _ hids
      obtain ⟨field, -, hreads⟩ := mem_triggered.1 hid
      have hknown : (s.form.graph.rule? id).isSome = true := by
        rw [hs.graph] at hreads ⊢
        exact (RuleGraph.isSome_rule?_ofSchema hs.named).2
          (RuleGraph.mem_order_of_mem_rulesFor hs.named hreads)
      obtain ⟨run, hrun, -⟩ := (exists_run_iff hs).2 ⟨hid, hknown⟩
      exact List.ne_nil_of_mem hrun
    · exact ih (by rwa [form_afterPass]) h

end Snapshot

/-! ## Another limit -/

/-- The form with another limit on passes. -/
def Form.withLimit (f : Form) (limit : Nat) : Form :=
  { f with config := { f.config with maxPasses := limit } }

/-- The snapshot with another limit on passes. -/
def Snapshot.withLimit (s : Snapshot) (limit : Nat) : Snapshot :=
  { s with form := s.form.withLimit limit }

/-- The cascade, in the end at a state with another limit on passes. -/
def Cascade.withLimit (c : Cascade) (limit : Nat) : Cascade :=
  { c with last := c.last.withLimit limit }

theorem Form.runRules_withLimit (f : Form) (limit : Nat) (params values : Dict Value)
    (nodes : List RuleNode) :
    (f.withLimit limit).runRules params values nodes = f.runRules params values nodes := by
  induction nodes generalizing values with
  | nil => rfl
  | cons node rest ih => exact congrArg _ (ih _)

namespace Snapshot

theorem apply_withLimit (s : Snapshot) (limit : Nat) (a : Action) :
    (s.withLimit limit).apply a = (s.apply a).withLimit limit := by
  cases a with
  | setEnabled element target enabled => cases element <;> rfl
  | setValue target value =>
    simp only [apply, setValue, apply_ite (withLimit · limit)]
    rfl
  | setError target message =>
    simp only [apply, setError, apply_ite (withLimit · limit)]
    rfl
  | _ => rfl

theorem applyAll_withLimit (s : Snapshot) (limit : Nat) (actions : List Action) :
    (s.withLimit limit).applyAll actions = (s.applyAll actions).withLimit limit := by
  induction actions generalizing s with
  | nil => rfl
  | cons a rest ih => rw [applyAll_cons, applyAll_cons, apply_withLimit, ih]

theorem pass_withLimit (s : Snapshot) (limit : Nat) (ids : List String) :
    (s.withLimit limit).pass ids = s.pass ids := by
  have hruns : (s.withLimit limit).evaluate ids = s.evaluate ids :=
    Form.runRules_withLimit s.form limit _ _ _
  unfold pass
  rw [hruns]
  rfl

/-- A cascade looks at the limit that it is given, not at the one in the settings of the form. -/
theorem cascade_withLimit (n : Nat) (s : Snapshot) (changed : List String) (limit : Nat) :
    cascade n (s.withLimit limit) changed = (cascade n s changed).withLimit limit := by
  induction n generalizing s changed with
  | zero => cases changed <;> rfl
  | succ n ih =>
    by_cases hids : s.triggered changed = []
    · rw [cascade_of_triggered_eq_nil hids,
        cascade_of_triggered_eq_nil (s := s.withLimit limit) hids]
      rfl
    · have hpass : (s.withLimit limit).pass ((s.withLimit limit).triggered changed) =
          s.pass (s.triggered changed) := pass_withLimit s limit _
      rw [cascade_of_triggered_ne_nil hids,
        cascade_of_triggered_ne_nil (s := s.withLimit limit) hids, hpass, afterPass,
        applyAll_withLimit, ih]
      rfl

theorem cascadeOf_withLimit (s : Snapshot) (limit : Nat) (field : String) (value : Value) :
    (s.withLimit limit).cascadeOf field value =
      (cascade limit (s.edited field value) [field]).withLimit limit :=
  cascade_withLimit limit (s.edited field value) [field] limit

/-! ## What an update reports -/

/-- The warnings that an update ends with, whether it is kept or undone. -/
def warningsOf : Except EngineError Snapshot → List Warning
  | .ok t => t.warnings
  | .error (.evaluationDiscarded warnings) => warnings
  | .error _ => []

/-- An update raises a warning about the limit on passes. -/
def ReportsLimit (s : Snapshot) (field : String) (value : Value) : Prop :=
  ∃ name passes, Warning.passLimit name passes ∈ warningsOf (s.update field value)

section

variable {s : Snapshot} {field : String}

theorem warningsOf_update (hfield : s.form.graph.hasField field = true) (value : Value) :
    warningsOf (s.update field value) = s.updateWarnings field (s.cascadeOf field value) := by
  unfold update
  rw [if_pos hfield]
  dsimp only
  split <;> rfl

theorem reportsLimit_iff (hfield : s.form.graph.hasField field = true) (value : Value) :
    s.ReportsLimit field value ↔ (s.cascadeOf field value).limited = true := by
  unfold ReportsLimit
  rw [warningsOf_update hfield, updateWarnings]
  constructor
  · rintro ⟨name, passes, h⟩
    by_contra hlimited
    rw [if_neg hlimited, List.append_nil] at h
    cases isEvaluation_of_mem_cascade h
  · intro hlimited
    rw [if_pos hlimited]
    exact ⟨_, _, List.mem_append_right _ List.mem_cons_self⟩

/-- Raising the limit does not change an update that does not report it: the update ends the same
way, kept or undone, in the same state and with the same warnings. -/
theorem update_withLimit {limit : Nat} (hle : s.form.config.maxPasses ≤ limit) (field : String)
    (value : Value) (hnone : ¬s.ReportsLimit field value) :
    (s.withLimit limit).update field value = (s.update field value).map (·.withLimit limit) := by
  by_cases hfield : s.form.graph.hasField field = true
  · rw [reportsLimit_iff hfield, Bool.not_eq_true] at hnone
    have hcascade : (s.withLimit limit).cascadeOf field value =
        (s.cascadeOf field value).withLimit limit := by
      rw [cascadeOf_withLimit, cascade_of_not_limited hle hnone]
      rfl
    have hwarnings : (s.withLimit limit).updateWarnings field
        ((s.withLimit limit).cascadeOf field value) =
        s.updateWarnings field (s.cascadeOf field value) := by
      have hlimited : ((s.cascadeOf field value).withLimit limit).limited = false := hnone
      rw [hcascade, updateWarnings, updateWarnings, hlimited, hnone]
      rfl
    cases hu : s.update field value with
    | ok t =>
      obtain ⟨-, hkept, rfl⟩ := update_eq_ok_iff.1 hu
      refine update_eq_ok_iff.2 ⟨hfield, ?_, ?_⟩
      · rw [hwarnings]
        exact hkept
      · rw [hwarnings, hcascade]
        rfl
    | error e =>
      rcases update_eq_error_iff.1 hu with ⟨hnot, -⟩ | ⟨-, hundone, rfl⟩
      · rw [hnot] at hfield
        cases hfield
      · refine update_eq_error_iff.2 (.inr ⟨hfield, ?_, by rw [hwarnings]⟩)
        rw [hwarnings]
        exact hundone
  · rw [Bool.not_eq_true] at hfield
    rw [update_eq_error_iff.2 (.inl ⟨hfield, rfl⟩)]
    exact update_eq_error_iff.2 (.inl ⟨hfield, rfl⟩)

theorem chainForm_under_larger_limit :
    ∃ s t, build chainForm [] [] { maxPasses := 3 } = .ok s ∧
      (s.cascadeOf "a" (.string "on")).passes.length = 3 ∧
      ¬s.ReportsLimit "a" (.string "on") ∧ s.update "a" (.string "on") = .ok t ∧
      (s.withLimit 16).update "a" (.string "on") = .ok (t.withLimit 16) := by
  have hbuild : build chainForm [] [] { maxPasses := 3 } = .ok _ :=
    build_eq_start (by decide +kernel)
  obtain ⟨t, ht⟩ := exists_ok_of_isSome
    (show ((Form.ofSchema chainForm [] [] { maxPasses := 3 }).start.update "a"
      (.string "on")).toOption.isSome = true by decide +kernel)
  have hnone : ¬(Form.ofSchema chainForm [] [] { maxPasses := 3 }).start.ReportsLimit "a"
      (.string "on") :=
    (reportsLimit_iff (by decide +kernel) _).not.2 (by decide +kernel)
  refine ⟨_, t, hbuild, by decide +kernel, hnone, ht, ?_⟩
  rw [update_withLimit (by decide +kernel) _ _ hnone, ht]
  rfl

/-! ## What the limit cuts off -/

/-- The pass of an update behind which the limit leaves no room, if the update gets that far. -/
def finalPass? (s : Snapshot) (field : String) (value : Value) : Option Pass :=
  (s.cascadeOf field value).passes[s.form.config.maxPasses - 1]?

/-- A rule is indexed under a field that the pass at the limit has changed. -/
def CutsOff (s : Snapshot) (field : String) (value : Value) : Prop :=
  ∃ p, s.finalPass? field value = some p ∧ ∃ key ∈ p.changed, s.form.graph.rulesFor key ≠ []

theorem triggered_ne_nil_iff {changed : List String} :
    s.triggered changed ≠ [] ↔ ∃ key ∈ changed, s.form.graph.rulesFor key ≠ [] := by
  constructor
  · intro h
    obtain ⟨id, hid⟩ := List.exists_mem_of_ne_nil _ h
    obtain ⟨key, hkey, hreads⟩ := mem_triggered.1 hid
    exact ⟨key, hkey, List.ne_nil_of_mem hreads⟩
  · rintro ⟨key, hkey, h⟩
    obtain ⟨id, hreads⟩ := List.exists_mem_of_ne_nil _ h
    exact List.ne_nil_of_mem (mem_triggered.2 ⟨key, hkey, hreads⟩)

theorem cutsOff_iff_isSome {limit : Nat} (hpos : 0 < s.form.config.maxPasses)
    (hlt : s.form.config.maxPasses < limit) (field : String) (value : Value) :
    s.CutsOff field value ↔ (((s.withLimit limit).cascadeOf field value).passes[
      s.form.config.maxPasses]?).isSome = true := by
  obtain ⟨n, hn⟩ := Nat.exists_eq_add_one_of_ne_zero (Nat.ne_of_gt hpos)
  have hlonger : ((s.withLimit limit).cascadeOf field value).passes =
      (cascade limit (s.edited field value) [field]).passes := by
    rw [cascadeOf_withLimit]
    rfl
  have hfinal : s.finalPass? field value =
      (cascade limit (s.edited field value) [field]).passes[n]? := by
    rw [finalPass?, cascadeOf, passes_cascade_take (Nat.le_of_lt hlt), hn, Nat.add_sub_cancel,
      List.getElem?_take_of_lt n.lt_succ_self]
  unfold CutsOff
  simp only [hfinal, hlonger, ← triggered_ne_nil_iff]
  rw [hn] at hlt ⊢
  exact (isSome_passes_succ_iff hlt).symm

/-- The limit is reported when the pass at the limit has changed a field. What it cuts off are the
rules that are indexed under such a field: they would be evaluated next under every larger limit. So
what is cut off is reported; the limit is reported for nothing when no rule is indexed there. -/
theorem limit_reported_iff (hs : s.form.Loaded) (hfield : s.form.graph.hasField field = true)
    (hlimit : 0 < s.form.config.maxPasses) (value : Value) :
    (s.ReportsLimit field value ↔ ∃ p, s.finalPass? field value = some p ∧ p.changed ≠ []) ∧
    (∀ limit, s.form.config.maxPasses < limit →
      (s.CutsOff field value ↔ ∃ q,
        ((s.withLimit limit).cascadeOf field value).passes[s.form.config.maxPasses]? = some q ∧
          q.runs ≠ [])) ∧
    (s.CutsOff field value → s.ReportsLimit field value) ∧
    ((s.ReportsLimit field value → s.CutsOff field value) ↔
      ∀ p, s.finalPass? field value = some p → p.changed ≠ [] →
        ∃ key ∈ p.changed, s.form.graph.rulesFor key ≠ []) := by
  obtain ⟨n, hn⟩ := Nat.exists_eq_add_one_of_ne_zero (Nat.ne_of_gt hlimit)
  have hreports : s.ReportsLimit field value ↔
      ∃ p, s.finalPass? field value = some p ∧ p.changed ≠ [] := by
    rw [reportsLimit_iff hfield, finalPass?, cascadeOf, hn]
    exact limited_cascade_iff
  refine ⟨hreports, ?_, ?_, ?_⟩
  · intro limit hlt
    rw [cutsOff_iff_isSome hlimit hlt, Option.isSome_iff_exists]
    refine exists_congr fun q => (and_iff_left_of_imp fun hq => ?_).symm
    have hloaded : ((s.withLimit limit).edited field value).form.Loaded := ⟨hs.named, hs.graph⟩
    exact runs_ne_nil_of_mem_passes hloaded (List.mem_of_getElem? hq)
  · rintro ⟨p, hp, key, hkey, -⟩
    exact hreports.2 ⟨p, hp, List.ne_nil_of_mem hkey⟩
  · rw [hreports]
    constructor
    · intro h p hp hne
      obtain ⟨q, hq, hreads⟩ := h ⟨p, hp, hne⟩
      rw [hp] at hq
      cases hq
      exact hreads
    · rintro h ⟨p, hp, hne⟩
      exact ⟨p, hp, h p hp hne⟩

/-- Another country changes the currency in the only pass there is room for, and the rule for the
note, which reads the currency, would be next. -/
theorem currencyForm_cut_off :
    ∃ s : Snapshot, build currencyForm [] [] { maxPasses := 1 } = .ok s ∧
      s.CutsOff "country" (.string "US") ∧ s.ReportsLimit "country" (.string "US") ∧
      ∃ q, ((s.withLimit 2).cascadeOf "country" (.string "US")).passes[1]? = some q ∧
        q.runs ≠ [] := by
  have hbuild : build currencyForm [] [] { maxPasses := 1 } = .ok _ :=
    build_eq_start (by decide +kernel)
  have hform := Form.form_start (Form.ofSchema currencyForm [] [] { maxPasses := 1 })
  have hloaded : (Form.ofSchema currencyForm [] [] { maxPasses := 1 }).start.form.Loaded := by
    rw [hform]
    exact ⟨(build_ok hbuild).1, rfl⟩
  obtain ⟨p, hp, hchanged⟩ := (Option.any_eq_true _ _).1
    (show ((Form.ofSchema currencyForm [] [] { maxPasses := 1 }).start.finalPass? "country"
      (.string "US")).any (·.changed.contains "currency") = true by decide +kernel)
  have hcuts : (Form.ofSchema currencyForm [] [] { maxPasses := 1 }).start.CutsOff "country"
      (.string "US") :=
    ⟨p, hp, "currency", List.contains_iff_mem.1 hchanged, by decide +kernel⟩
  have hfield : (Form.ofSchema currencyForm [] [] { maxPasses := 1 }).start.form.graph.hasField
      "country" = true := by decide +kernel
  obtain ⟨-, hnext, hreported, -⟩ :=
    limit_reported_iff hloaded hfield (by decide +kernel) (.string "US")
  refine ⟨_, hbuild, hcuts, hreported hcuts, ?_⟩
  have hpass := (hnext 2 (by decide +kernel)).1 hcuts
  rwa [hform] at hpass

/-- A form in which a receipt is sent, and no rule reads that it has been. -/
def receiptForm : Schema where
  sections := [{
    id := "order"
    fields := [{ id := "paid", kind := .text }, { id := "receipt", kind := .text }] }]
  rules := [
    { id := "send_receipt", condition := isOn "paid",
      actions := [.setValue "receipt" (.string "sent")] }]

/-- The only pass there is room for sends the receipt. The limit is reported, although no limit
leads to another pass. -/
theorem limit_reported_for_nothing :
    ∃ s : Snapshot, build receiptForm [] [] { maxPasses := 1 } = .ok s ∧
      s.ReportsLimit "paid" (.string "on") ∧ ¬s.CutsOff "paid" (.string "on") ∧
      ∀ limit, 1 < limit →
        ((s.withLimit limit).cascadeOf "paid" (.string "on")).passes[1]? = none := by
  have hbuild : build receiptForm [] [] { maxPasses := 1 } = .ok _ :=
    build_eq_start (by decide +kernel)
  have hform := Form.form_start (Form.ofSchema receiptForm [] [] { maxPasses := 1 })
  have hcuts : ¬(Form.ofSchema receiptForm [] [] { maxPasses := 1 }).start.CutsOff "paid"
      (.string "on") := by
    rw [cutsOff_iff_isSome (by decide +kernel) (show _ < 2 by decide +kernel)]
    decide +kernel
  refine ⟨_, hbuild, (reportsLimit_iff (by decide +kernel) _).2 (by decide +kernel), hcuts, ?_⟩
  intro limit hlimit
  have hnext := (cutsOff_iff_isSome (by decide +kernel) (show _ < limit by rwa [hform]) _ _).not.1
    hcuts
  rwa [hform, Option.not_isSome_iff_eq_none] at hnext

end

end Snapshot

end FormEngine
