import FormEngine.Proofs.Snapshot.Standing
import FormEngine.Proofs.Update.Acyclic
import FormEngine.Proofs.Update.FirstPass

/-!
# Updates that edit nothing

A field of a form that was just begun is set to the value it has. The rules that read the field are
evaluated once more, and without cycles each of them takes the branch it took at the start
(`exists_sameOutcome`). So nothing changes, unless an action of theirs was undone at the start by an
action behind it: the update evaluates the rules that read the field and no others, and what they do
is done last.
-/

namespace FormEngine

open Value (sameOption sameOption_refl sameOption_comm sameOption_trans)

/-- Evaluations of one rule with one outcome, on whatever values. -/
structure RuleRun.SameOutcome (a b : RuleRun) : Prop where
  rule : a.rule = b.rule
  fired : a.fired = b.fired
  actions : a.actions = b.actions
  warnings : a.warnings = b.warnings

namespace Snapshot

variable {s : Snapshot}

/-! ## Steps without effect -/

theorem apply_withWarnings (s : Snapshot) (warnings : List Warning) (a : Action) :
    apply { s with warnings := warnings } a = { s.apply a with warnings := warnings } := by
  cases a with
  | setEnabled element target enabled => cases element <;> rfl
  | setValue target value =>
    simp only [apply, setValue]
    split <;> rfl
  | setError target message =>
    simp only [apply, setError]
    split <;> rfl
  | _ => rfl

theorem applyAll_withWarnings (s : Snapshot) (warnings : List Warning) (actions : List Action) :
    applyAll { s with warnings := warnings } actions =
      { s.applyAll actions with warnings := warnings } := by
  induction actions generalizing s with
  | nil => rfl
  | cons a rest ih => rw [applyAll_cons, apply_withWarnings, ih, applyAll_cons]

/-- Every value that one of the actions sets is there. -/
def SetsOld (s : Snapshot) (actions : List Action) : Prop :=
  ∀ key value, Action.setValue key value ∈ actions → s.form.graph.hasField key = true →
    sameOption (s.values.get? key) (some value) = true

/-- Whether the action sets what is there, if anything. -/
def setsOld (s : Snapshot) : Action → Bool
  | .setValue key value =>
    !s.form.graph.hasField key || sameOption (s.values.get? key) (some value)
  | _ => true

instance (s : Snapshot) (actions : List Action) : Decidable (s.SetsOld actions) :=
  decidable_of_iff (∀ action ∈ actions, s.setsOld action = true) (by
    constructor
    · intro h key value hmem hfield
      simpa [setsOld, hfield] using h _ hmem
    · intro h action hmem
      cases action with
      | setValue key value =>
        by_cases hfield : s.form.graph.hasField key = true
        · simp [setsOld, h key value hmem hfield]
        · simp [setsOld, hfield]
      | _ => rfl)

theorem SetsOld.values_applyAll {actions : List Action} (h : s.SetsOld actions) :
    (s.applyAll actions).values = s.values := by
  induction actions generalizing s with
  | nil => rfl
  | cons a rest ih =>
    have hform := (apply_form s a).1
    have hvalues : (s.apply a).values = s.values := values_apply_of_old fun key value ha =>
      h key value (ha ▸ List.mem_cons_self)
    rw [applyAll_cons, ih fun key value hmem => ?_, hvalues]
    rw [hform, hvalues]
    exact h key value (List.mem_cons_of_mem _ hmem)

theorem SetsOld.changedBy_eq_nil {actions : List Action} (h : s.SetsOld actions) :
    s.changedBy actions = [] := by
  refine List.eq_nil_iff_forall_not_mem.2 fun key hkey => ?_
  obtain ⟨value, hmem, hfield, hnew⟩ := mem_changedBy.1 hkey
  rw [h key value hmem hfield] at hnew
  cases hnew

theorem evaluate_nil (s : Snapshot) : s.evaluate [] = [] := by
  have hids : s.form.graph.sortRules [] = [] := List.eq_nil_iff_forall_not_mem.2 fun id hid =>
    List.not_mem_nil (RuleGraph.mem_sortRules.1 hid).1
  unfold evaluate evaluateWith
  rw [hids]
  rfl

theorem cascade_nil (limit : Nat) (s : Snapshot) : cascade limit s [] = ⟨[], s, false⟩ := by
  cases limit <;> rfl

theorem cascade_of_unchanged (limit : Nat) {field : String}
    (h : (s.pass (s.triggered [field])).changed = []) :
    (cascade (limit + 1) s [field]).runs = s.evaluate (s.triggered [field]) ∧
      (cascade (limit + 1) s [field]).limited = false := by
  unfold cascade
  by_cases hids : (s.triggered [field]).isEmpty = true
  · simp [List.isEmpty_iff.1 hids, evaluate_nil, Cascade.runs]
  · simp only [hids, h, cascade_nil, Bool.false_eq_true, if_false]
    exact ⟨List.append_nil _, rfl⟩

/-! ## Rules that are evaluated again -/

/-- On values like those that a pass leaves, a rule of the pass does what it did in the pass. -/
theorem Orderly.exists_sameOutcome (h : s.Orderly) {ids : List String} {node : RuleNode}
    (hnode : s.form.graph.rule? node.rule.id = some node) (hid : node.rule.id ∈ ids)
    {d : Dict Value} (hd : s.form.PlainValues d)
    (hsame : SameValues (s.afterPass (s.pass ids)).values d) :
    ∃ first ∈ s.evaluate ids, first.SameOutcome (s.form.runRule s.form.params d node) := by
  obtain ⟨first, hfirst, hrule⟩ :=
    (exists_run_iff h.loaded).2 ⟨hid, by rw [hnode]; rfl⟩
  obtain ⟨other, hother, hdef, hseen, hsee⟩ := h.run_of_mem_pass hfirst
  obtain rfl : other = node := by
    have hids : other.rule.id = node.rule.id := by
      rw [← hrule, hdef]
      rfl
    rw [hids, hnode] at hother
    exact (Option.some.inj hother).symm
  have houtcome := Form.evaluate_congr_same s.form.params h.loaded h.names hseen hd
    hnode fun key hkey => sameOption_trans (hsee key hkey) (hsame key)
  refine ⟨first, hfirst, ?_⟩
  rw [hdef]
  constructor
  · rfl
  all_goals simp only [Form.runRule, houtcome]

theorem Orderly.sameOutcomes (h : s.Orderly) (ids : List String) {nodes : List RuleNode}
    (hnodes : ∀ node ∈ nodes, s.form.graph.rule? node.rule.id = some node ∧ node.rule.id ∈ ids)
    (hold : ∀ node ∈ nodes, ∀ first ∈ s.evaluate ids, first.rule = node.rule.id →
      (s.afterPass (s.pass ids)).SetsOld first.actions)
    {d : Dict Value} (hd : s.form.PlainValues d)
    (hsame : SameValues (s.afterPass (s.pass ids)).values d) :
    ∀ run ∈ s.form.runRules s.form.params d nodes,
      ∃ first ∈ s.evaluate ids, first.SameOutcome run := by
  induction nodes generalizing d with
  | nil => exact fun run hrun => absurd hrun List.not_mem_nil
  | cons node rest ih =>
    obtain ⟨hnode, hid⟩ := hnodes node List.mem_cons_self
    obtain ⟨first, hfirst, hout⟩ := h.exists_sameOutcome hnode hid hd hsame
    intro run hrun
    rw [Form.runRules] at hrun
    rcases List.mem_cons.1 hrun with rfl | hrun
    · exact ⟨first, hfirst, hout⟩
    · have hform := form_afterPass s (s.pass ids)
      have hset := hold node List.mem_cons_self first hfirst (hout.rule)
      rw [hout.actions] at hset
      refine ih (fun other hother => hnodes other (List.mem_cons_of_mem _ hother))
        (fun other hother => hold other (List.mem_cons_of_mem _ hother)) (hd.overlay ?_)
        (fun key => Form.same_overlay (hsame key) fun value hmem hfield => ?_) run hrun
      · exact fun action haction => h.sets _ _ hnode action
          (Rule.mem_allActions_of_mem_branch haction)
      · exact hset key value hmem (hform ▸ hfield)

/-! ## Edits without effect -/

/-- What the rules that read a field did at the start left the values as they are now. -/
def ReadersSetOld (s : Snapshot) (field : String) : Prop :=
  ∀ run ∈ s.form.startRuns, run.rule ∈ s.form.graph.rulesFor field → s.SetsOld run.actions

instance (s : Snapshot) (field : String) : Decidable (s.ReadersSetOld field) := by
  unfold ReadersSetOld
  infer_instance

end Snapshot

namespace Form

/-- At the start, an action of a rule that reads the field was undone by an action behind it. -/
def ReaderUndone (f : Form) (field : String) : Prop :=
  ∃ before run after earlier action later, f.startRuns = before ++ run :: after ∧
    run.rule ∈ f.graph.rulesFor field ∧ run.actions = earlier ++ action :: later ∧
    ∃ other ∈ later ++ RuleRun.actionsOf after, other.Undoes action

variable {f : Form}

theorem orderly_blank (hf : f.Loaded) (hc : f.graph.cycles = []) (hnames : f.graph.ReadsByName)
    (hsets : f.graph.SetsNoNegativeZero) (hzeros : NoNegativeZeros f.startValues) :
    f.blank.Orderly :=
  ⟨hf, hc, hnames, hsets, (consistent_blank hf).plainValues hzeros⟩

theorem discards_eq_false_of_subset {some all : List Warning} (hsub : some ⊆ all)
    (h : f.discards all = false) : f.discards some = false := by
  unfold discards at h ⊢
  rw [Bool.and_eq_false_iff] at h ⊢
  refine h.imp_right fun hall => ?_
  rw [List.any_eq_false] at hall ⊢
  exact fun w hw => hall w (hsub hw)

theorem mem_order_of_rule? (hf : f.Loaded) {id : String} {node : RuleNode}
    (h : f.graph.rule? id = some node) : id ∈ f.graph.order := by
  rw [hf.graph] at h ⊢
  exact (RuleGraph.isSome_rule?_ofSchema hf.named).1 (by rw [h]; rfl)

theorem values_start (hkept : f.discards (RuleRun.warningsOf f.startRuns) = false) :
    f.start.values = (f.blank.afterPass (f.blank.pass f.graph.order)).values := by
  rw [Snapshot.start_eq_applyAll hkept]
  rfl

theorem reader_of_mem_nodesOf (hf : f.Loaded) {field : String} {node : RuleNode}
    (h : node ∈ f.start.nodesOf (f.start.triggered [field])) :
    f.graph.rule? node.rule.id = some node ∧ node.rule.id ∈ f.graph.rulesFor field := by
  obtain ⟨hid, hrule⟩ := Snapshot.rule?_of_mem_nodesOf (by rwa [form_start]) h
  obtain ⟨key, hkey, hmem⟩ := Snapshot.mem_triggered.1 hid
  rw [form_start] at hrule hmem
  exact ⟨hrule, List.mem_singleton.1 hkey ▸ hmem⟩

/-- On the first snapshot the rules that read a field do what they did at the start. -/
theorem readers_sameOutcome (h : f.blank.Orderly)
    (hkept : f.discards (RuleRun.warningsOf f.startRuns) = false) {field : String}
    (hold : f.start.ReadersSetOld field) :
    ∀ run ∈ f.start.evaluate (f.start.triggered [field]),
      run.rule ∈ f.graph.rulesFor field ∧ ∃ first ∈ f.startRuns, first.SameOutcome run := by
  have hf : f.Loaded := h.loaded
  have hform : (f.blank.afterPass (f.blank.pass f.graph.order)).form = f :=
    Snapshot.form_afterPass _ _
  have hvalues := values_start hkept
  intro run hrun
  rw [Snapshot.evaluate_eq_runRules, form_start] at hrun
  obtain ⟨before, node, after, hnodes, hdef⟩ := exists_of_mem_runRules hrun
  have hmem : node ∈ f.start.nodesOf (f.start.triggered [field]) := by
    rw [hnodes]
    exact List.mem_append_right _ List.mem_cons_self
  refine ⟨by rw [hdef]; exact (reader_of_mem_nodesOf hf hmem).2, ?_⟩
  refine h.sameOutcomes f.graph.order (fun node hnode => ?_)
    (fun node hnode first hfirst hrule key value hset hfield => ?_) ?_ (fun key => ?_) run hrun
  · have hrule := (reader_of_mem_nodesOf hf hnode).1
    exact ⟨hrule, mem_order_of_rule? hf hrule⟩
  · rw [hform] at hfield
    rw [← hvalues]
    refine hold first (by rwa [form_start]) ?_ key value hset (by rwa [form_start])
    rw [form_start, hrule]
    exact (reader_of_mem_nodesOf hf hnode).2
  · have hplain := (h.afterPass f.graph.order).plain
    rwa [hform, ← hvalues] at hplain
  · rw [hvalues]
    exact sameOption_refl _

theorem actionsOf_split {before after : List RuleRun} {run : RuleRun}
    {earlier later : List Action} {action : Action}
    (h : run.actions = earlier ++ action :: later) :
    RuleRun.actionsOf (before ++ run :: after) =
      (RuleRun.actionsOf before ++ earlier) ++ action :: (later ++ RuleRun.actionsOf after) := by
  rw [RuleRun.actionsOf_append, RuleRun.actionsOf_cons, h]
  simp

/-- What the rules that read a field have acted on at the start. -/
def readerTargets (f : Form) (field : String) : List (Option String) :=
  (f.startRuns.filter fun run => run.rule ∈ f.graph.rulesFor field).flatMap fun run =>
    run.actions.map Action.target?

theorem not_readerUndone_of_targets {field : String}
    (h : (RuleRun.actionsOf f.startRuns).Pairwise fun a b =>
      a.target? ∈ f.readerTargets field → b.target? ≠ a.target?) : ¬ f.ReaderUndone field := by
  rintro ⟨before, run, after, earlier, action, later, hruns, hreads, hactions, other, hother,
    hundoes⟩
  have hrun : run ∈ f.startRuns := by
    rw [hruns]
    exact List.mem_append_right _ List.mem_cons_self
  have htarget : action.target? ∈ f.readerTargets field :=
    List.mem_flatMap.2 ⟨run, List.mem_filter.2 ⟨hrun, by simpa using hreads⟩, List.mem_map.2
      ⟨action, by rw [hactions]; exact List.mem_append_right _ List.mem_cons_self, rfl⟩⟩
  rw [hruns, actionsOf_split hactions, List.pairwise_append] at h
  exact Action.not_undoes_of_target_ne (List.rel_of_pairwise_cons h.2.1 hother htarget) hundoes

theorem stands_start (hkept : f.discards (RuleRun.warningsOf f.startRuns) = false)
    {field : String} (hundone : ¬ f.ReaderUndone field) {run : RuleRun}
    (hrun : run ∈ f.startRuns) (hreads : run.rule ∈ f.graph.rulesFor field) {action : Action}
    (haction : action ∈ run.actions) : f.start.Stands action := by
  obtain ⟨before, after, hruns⟩ := List.append_of_mem hrun
  obtain ⟨earlier, later, hactions⟩ := List.append_of_mem haction
  have hordered := f.ordered_blank.applyAll (RuleRun.actionsOf before ++ earlier)
  have hstands := (Snapshot.stands_apply hordered action).applyAll (hordered.apply action)
    (later ++ RuleRun.actionsOf after) fun other hother hundoes =>
      hundone ⟨before, run, after, earlier, action, later, hruns, hreads, hactions, other, hother,
        hundoes⟩
  rw [Snapshot.start_eq_applyAll hkept, hruns, actionsOf_split hactions, Snapshot.applyAll_append,
    Snapshot.applyAll_cons]
  unfold Snapshot.Stands at hstands ⊢
  rw [Snapshot.apply_withWarnings, hstands]

theorem readersSetOld_start (hkept : f.discards (RuleRun.warningsOf f.startRuns) = false)
    {field : String} (hundone : ¬ f.ReaderUndone field) : f.start.ReadersSetOld field := by
  intro run hrun hreads key value hmem hfield
  rw [form_start] at hrun hreads
  exact ((Snapshot.stands_iff f.ordered_start).1
    (stands_start hkept hundone hrun hreads hmem)).2 key value rfl hfield

theorem edited_start {field : String} {value : Value}
    (hvalue : f.start.values.get? field = some value) :
    f.start.edited field value = { f.start with warnings := [] } := by
  unfold Snapshot.edited
  rw [Dict.insert_get? hvalue]

/-- Where the rules that read a field set what is there, setting it to its value evaluates them once
and changes no value. -/
theorem cascade_start (h : f.blank.Orderly)
    (hkept : f.discards (RuleRun.warningsOf f.startRuns) = false) (hpos : 0 < f.config.maxPasses)
    {field : String} (hold : f.start.ReadersSetOld field) {value : Value}
    (hvalue : f.start.values.get? field = some value) :
    (f.start.cascadeOf field value).runs = f.start.evaluate (f.start.triggered [field]) ∧
      (f.start.cascadeOf field value).limited = false ∧
      f.start.SetsOld (RuleRun.actionsOf (f.start.evaluate (f.start.triggered [field]))) := by
  have hsets : f.start.SetsOld
      (RuleRun.actionsOf (f.start.evaluate (f.start.triggered [field]))) := by
    intro key v hmem hfield
    obtain ⟨run, hrun, haction⟩ := List.mem_flatMap.1 hmem
    obtain ⟨hreads, first, hfirst, hout⟩ := readers_sameOutcome h hkept hold run hrun
    refine hold first (by rwa [form_start]) ?_ key v (hout.actions ▸ haction) hfield
    rwa [form_start, hout.rule]
  have hunchanged : ((f.start.edited field value).pass
      ((f.start.edited field value).triggered [field])).changed = [] := by
    rw [edited_start hvalue]
    exact hsets.changedBy_eq_nil
  obtain ⟨n, hn⟩ := Nat.exists_eq_add_one.2 hpos
  obtain ⟨hruns, hlimited⟩ := Snapshot.cascade_of_unchanged n hunchanged
  unfold Snapshot.cascadeOf
  rw [form_start, hn]
  refine ⟨hruns.trans ?_, hlimited, hsets⟩
  rw [edited_start hvalue]
  rfl

/-- Where the rules that read a field set what is there, setting the field to its value applies what
these rules did at the start once more. -/
theorem update_start (h : f.blank.Orderly)
    (hkept : f.discards (RuleRun.warningsOf f.startRuns) = false) (hpos : 0 < f.config.maxPasses)
    {field : String} (hold : f.start.ReadersSetOld field) {value : Value}
    (hvalue : f.start.values.get? field = some value) :
    f.start.update field value = .ok
      { f.start.applyAll (RuleRun.actionsOf (f.start.evaluate (f.start.triggered [field]))) with
        warnings := f.start.updateWarnings field (f.start.cascadeOf field value) } := by
  obtain ⟨hruns, hlimited, -⟩ := cascade_start h hkept hpos hold hvalue
  refine Snapshot.update_eq_ok_iff.2 ⟨?_, ?_, ?_⟩
  · rw [form_start]
    have hkey := (consistent_start h.loaded).values.mem_iff.1 (Dict.mem_keys_of_get? hvalue)
    rw [form_start] at hkey
    exact h.loaded.hasField_iff.2 hkey
  · rw [form_start]
    refine discards_eq_false_of_subset (fun w hw => ?_) hkept
    rw [Snapshot.updateWarnings, hlimited] at hw
    obtain ⟨p, hp, hw⟩ := List.mem_flatMap.1 ((List.mem_append.1 hw).resolve_right (by simp))
    obtain ⟨run, hrun, hw⟩ := List.mem_flatMap.1 hw
    have hmem : run ∈ (f.start.cascadeOf field value).runs := List.mem_flatMap.2 ⟨p, hp, hrun⟩
    rw [hruns] at hmem
    obtain ⟨-, first, hfirst, hout⟩ := readers_sameOutcome h hkept hold run hmem
    exact List.mem_flatMap.2 ⟨first, hfirst, hout.warnings ▸ hw⟩
  · have hlast : (f.start.cascadeOf field value).last =
        { f.start.applyAll (RuleRun.actionsOf (f.start.cascadeOf field value).runs) with
          warnings := [] } := by
      rw [← Snapshot.applyAll_withWarnings, ← edited_start hvalue]
      exact Snapshot.last_cascade ..
    rw [hlast, hruns]

end Form

namespace Snapshot

/-- In a form that was just begun, without cycles and with conditions that enter fields by name, a
field is set to the value it has. If the rules that read the field have set what is there, the
update succeeds; it evaluates these rules once, each does what it did at the start, and no value
changes. States and errors are the same exactly when doing these actions again changes nothing. All
of this is so when no action of these rules was undone at the start by an action behind it: then
the update changes nothing. -/
theorem update_unchanged {schema : Schema} {globals params : Dict Value} {config : Config}
    (h : build schema globals params config = .ok s) (hc : s.form.graph.cycles = [])
    (hnames : s.form.graph.ReadsByName) (hsets : s.form.graph.SetsNoNegativeZero)
    (hzeros : NoNegativeZeros s.form.startValues)
    (hkept : s.form.discards (RuleRun.warningsOf s.form.startRuns) = false)
    {field : String} {value : Value} (hvalue : s.values.get? field = some value) :
    (s.ReadersSetOld field → ∃ t, s.update field value = .ok t ∧ t.values = s.values ∧
      (s.cascadeOf field value).runs.map (·.rule) =
        s.form.graph.sortRules (s.triggered [field]) ∧
      (∀ run ∈ (s.cascadeOf field value).runs,
        ∃ first ∈ s.form.startRuns, first.SameOutcome run) ∧
      (t.ui = s.ui ∧ t.errors = s.errors ↔
        s.applyAll (RuleRun.actionsOf (s.cascadeOf field value).runs) = s)) ∧
    (¬ s.form.ReaderUndone field → ∃ t, s.update field value = .ok t ∧ t.values = s.values ∧
      t.ui = s.ui ∧ t.errors = s.errors) := by
  obtain ⟨f, hload, rfl⟩ := build_eq_ok_iff.1 h
  obtain ⟨hnamed, hf⟩ := Form.load_ok hload
  have hloaded : f.Loaded := hf ▸ ⟨hnamed, rfl⟩
  have hpos : 0 < f.config.maxPasses := hf ▸ (Form.load_eq_ok_iff.1 hload).1
  rw [Form.form_start] at hc hnames hsets hzeros hkept ⊢
  have horderly := Form.orderly_blank hloaded hc hnames hsets hzeros
  have hfirst (hold : f.start.ReadersSetOld field) :=
    Form.cascade_start horderly hkept hpos hold hvalue
  constructor
  · intro hold
    obtain ⟨hruns, -, hset⟩ := hfirst hold
    refine ⟨_, Form.update_start horderly hkept hpos hold hvalue, hset.values_applyAll, ?_, ?_, ?_⟩
    · rw [hruns, map_rule_evaluate (by rwa [Form.form_start]), Form.form_start]
    · rw [hruns]
      exact fun run hrun => (Form.readers_sameOutcome horderly hkept hold run hrun).2
    · rw [hruns]
      constructor
      · rintro ⟨hui, herrors⟩
        exact eq_of_applyAll _ hset.values_applyAll hui herrors
      · intro hsame
        rw [hsame]
        exact ⟨rfl, rfl⟩
  · intro hundone
    have hold := Form.readersSetOld_start hkept hundone
    have hsame : f.start.applyAll
        (RuleRun.actionsOf (f.start.evaluate (f.start.triggered [field]))) = f.start := by
      refine applyAll_of_stands fun action haction => ?_
      obtain ⟨run, hrun, hmem⟩ := List.mem_flatMap.1 haction
      obtain ⟨hreads, first, hmemFirst, hout⟩ :=
        Form.readers_sameOutcome horderly hkept hold run hrun
      exact Form.stands_start hkept hundone hmemFirst (hout.rule ▸ hreads) (hout.actions ▸ hmem)
    refine ⟨_, Form.update_start horderly hkept hpos hold hvalue, ?_⟩
    rw [hsame]
    exact ⟨rfl, rfl, rfl⟩

/-- A dinner whose dishes depend on the diet, one of them being off, with a table for the guests and
a note about the table. -/
def dinnerForm : Schema where
  sections := [{
    id := "dinner"
    fields := [
      { id := "diet", kind := .text },
      { id := "dish", kind := .select },
      { id := "guests", kind := .number },
      { id := "table", kind := .text },
      { id := "note", kind := .text }] }]
  rules := [
    { id := "dishes_of_diet"
      condition := .var "diet" none
      actions := [.setChoices "dish" []]
      otherwise := [.setChoices "dish" [⟨"Soup", .string "soup"⟩, ⟨"Steak", .string "steak"⟩],
        .setChoiceEnabled "dish" (.string "steak") false] },
    { id := "table_of_guests"
      condition := .op (.relation .greater) [.var "guests" none, .literal (.number (.int 6))]
      actions := [.setValue "table" (.string "hall")]
      otherwise := [.setValue "table" (.string "corner")] },
    { id := "note_for_corner"
      condition := .op (.relation .equal) [.var "table" none, .literal (.string "corner")]
      actions := [.setError "note" "by the window"] }]

/-- Setting the guests to what they are changes nothing. Setting the diet does the dishes once more,
one of which the first of these actions would turn on again. -/
theorem dinnerForm_update_unchanged :
    ∃ s, build dinnerForm [] [] {} = .ok s ∧
      (∃ value t, s.values.get? "guests" = some value ∧ s.update "guests" value = .ok t ∧
        t.values = s.values ∧ t.ui = s.ui ∧ t.errors = s.errors) ∧
      ∃ value t, s.values.get? "diet" = some value ∧ s.update "diet" value = .ok t ∧
        t.values = s.values ∧ (t.ui = s.ui ∧ t.errors = s.errors ↔
          s.applyAll (RuleRun.actionsOf (s.cascadeOf "diet" value).runs) = s) := by
  have hbuild : build dinnerForm [] [] {} = .ok _ := build_eq_start (by decide +kernel)
  have hnamed := (build_ok hbuild).1
  have hform := Form.form_start (Form.ofSchema dinnerForm [] [] {})
  have hc : (RuleGraph.ofSchema dinnerForm).cycles = [] :=
    RuleGraph.cycles_eq_nil_of_feeds_later (by decide +kernel)
  obtain ⟨guests, hguests⟩ := Option.isSome_iff_exists.1
    (show ((Form.ofSchema dinnerForm [] [] {}).start.values.get? "guests").isSome = true
      by decide +kernel)
  obtain ⟨diet, hdiet⟩ := Option.isSome_iff_exists.1
    (show ((Form.ofSchema dinnerForm [] [] {}).start.values.get? "diet").isSome = true
      by decide +kernel)
  have hmain {field : String} {value : Value}
      (hvalue : (Form.ofSchema dinnerForm [] [] {}).start.values.get? field = some value) :=
    update_unchanged hbuild (by rw [hform]; exact hc)
      (by rw [hform]; exact RuleGraph.readsByName_ofSchema hnamed (by decide +kernel))
      (by rw [hform]; exact RuleGraph.setsNoNegativeZero_ofSchema hnamed (by decide +kernel))
      (by rw [hform]; unfold NoNegativeZeros; decide +kernel) (by rw [hform]; decide +kernel)
      hvalue
  refine ⟨_, hbuild, ?_, ?_⟩
  · obtain ⟨t, ht⟩ := (hmain hguests).2 (by
      rw [hform]
      exact Form.not_readerUndone_of_targets (by decide +kernel))
    exact ⟨guests, t, hguests, ht⟩
  · obtain ⟨t, ht, hvalues, -, -, hsame⟩ := (hmain hdiet).1 (by decide +kernel)
    exact ⟨diet, t, hdiet, ht, hvalues, hsame⟩

/-- A dinner whose note is for no diet, and is put back for no wine. -/
def wineForm : Schema where
  sections := [{
    id := "dinner"
    fields := [
      { id := "diet", kind := .text }, { id := "wine", kind := .text },
      { id := "note", kind := .text }] }]
  rules := [
    { id := "no_note_without_diet"
      condition := .op .empty [.var "diet" none]
      actions := [.setVisible .field "note" false] },
    { id := "note_without_wine"
      condition := .op .empty [.var "wine" none]
      actions := [.setVisible .field "note" true] }]

/-- The note is shown at the start, since the rule for wine comes last. Setting the diet to what it
is evaluates the rule for diets alone, and the note is hidden. -/
theorem update_to_same_value_changes :
    ∃ s t value, build wineForm [] [] {} = .ok s ∧ s.form.graph.cycles = [] ∧
      s.form.discards (RuleRun.warningsOf s.form.startRuns) = false ∧
      s.form.graph.hasField "diet" = true ∧ s.values.get? "diet" = some value ∧
      s.update "diet" value = .ok t ∧ t.ui ≠ s.ui := by
  have hbuild : build wineForm [] [] {} = .ok _ := build_eq_start (by decide +kernel)
  have hform := Form.form_start (Form.ofSchema wineForm [] [] {})
  obtain ⟨diet, hdiet, hhidden⟩ := (Option.any_eq_true _ _).1
    (show ((Form.ofSchema wineForm [] [] {}).start.values.get? "diet").any (fun value =>
      ((Form.ofSchema wineForm [] [] {}).start.update "diet" value).toOption.any fun t =>
        !t.isVisible "note" && (Form.ofSchema wineForm [] [] {}).start.isVisible "note") = true
      by decide +kernel)
  obtain ⟨t, ht, hhidden⟩ := exists_ok_of_any hhidden
  refine ⟨_, t, diet, hbuild, ?_, ?_, by decide +kernel, hdiet, ht, fun hui => ?_⟩
  · rw [hform]
    exact RuleGraph.cycles_eq_nil_of_feeds_later (by decide +kernel)
  · rw [hform]
    decide +kernel
  · have hsame : t.isVisible "note" = (Form.ofSchema wineForm [] [] {}).start.isVisible "note" := by
      unfold isVisible containers
      rw [hui, form_update ht]
    rw [hsame] at hhidden
    simp at hhidden

end Snapshot

end FormEngine
