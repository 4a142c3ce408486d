import FormEngine.Proofs.Snapshot.Standing
import FormEngine.Proofs.Validation.Report

/-!
# Writing a report

A report is written by one action for each declared field, and no two of these are about the same
field. So every field gets the error of the report or none, whatever error stood there, and nothing
else changes (`cell_withReport`). Errors decide neither what is live nor what values are, so a
validation afterwards reports the same, and writing that changes nothing any more
(`report_written_exactly`).
-/

namespace FormEngine

/-! ## One field -/

theorem FieldUi.edit_error (f : FieldUi) (error : Option String) :
    f.edit (fun f => { f with error := error }) = { f with error := error } := by
  rcases edit_eq_or (fun f => { f with error := error }) f with ⟨hkept, hsame⟩ | hwritten
  · obtain rfl : error = f.error := error_eq_of_same hsame
    exact hkept
  · exact hwritten

namespace Cell

/-- The cell of a field with an error in place of any other, or without one. -/
def withError (error : Option String) (c : Cell) : Cell :=
  { c with field := c.field.map fun f => { f with error := error }, error := error }

theorem clearError_eq (c : Cell) : c.clearError = c.withError none := by
  simp [clearError, withError, editField, FieldUi.edit_error]

theorem setError_eq {c : Cell} (h : c.field.isSome = true) (message : String) :
    c.setError message = c.withError (some message) := by
  simp [setError, h, withError, editField, FieldUi.edit_error]

end Cell

namespace Report

/-- What a report says of a field. -/
def messageOf (r : Report) (id : String) : Option String := (r.errors.get? id).map (·.message)

/-- The action that writes what a report says of a field. -/
def actionOf (r : Report) (id : String) : Action :=
  match r.errors.get? id with
  | some e => .setError id e.message
  | none => .clearError id

variable {r : Report} {id : String}

@[simp] theorem target?_actionOf : (r.actionOf id).target? = some id := by
  unfold actionOf
  split <;> rfl

theorem actionOf_ne_setValue (key : String) (value : Value) :
    r.actionOf id ≠ .setValue key value := by
  unfold actionOf
  split <;> simp

theorem onCell_actionOf {c : Cell} (h : c.field.isSome = true) :
    (r.actionOf id).onCell c = c.withError (r.messageOf id) := by
  unfold actionOf messageOf
  cases r.errors.get? id with
  | some e => exact Cell.setError_eq h e.message
  | none => exact c.clearError_eq

end Report

namespace Snapshot

variable {s : Snapshot} {r : Report} {checks : Dict HostCheck} {id : String}

theorem cell_applyAll_map {ids : List String} {action : String → Action}
    (htarget : ∀ id, (action id).target? = some id) (hids : ids.Nodup) (hid : id ∈ ids) :
    (s.applyAll (ids.map action)).cell id = (action id).onCell (s.cell id) := by
  obtain ⟨before, after, rfl⟩ := List.append_of_mem hid
  have hother : ∀ others : List String, id ∉ others →
      ∀ a ∈ others.map action, a.target? ≠ some id := by
    intro others hnot a ha
    obtain ⟨other, hmem, rfl⟩ := List.mem_map.1 ha
    rw [htarget, Ne, Option.some.injEq]
    exact fun heq => hnot (heq ▸ hmem)
  obtain ⟨-, hafter, hdisjoint⟩ := List.nodup_append.1 hids
  have hbefore : id ∉ before := fun hmem => hdisjoint id hmem id List.mem_cons_self rfl
  rw [List.map_append, applyAll_append, List.map_cons, applyAll_cons,
    cell_applyAll_of_not_target (hother after (List.nodup_cons.1 hafter).1), cell_apply,
    if_pos (htarget id), cell_applyAll_of_not_target (hother before hbefore)]

theorem reportActions_eq (s : Snapshot) (r : Report) :
    s.reportActions r = (s.form.schema.fields.map (·.id)).map r.actionOf := by
  rw [List.map_map]
  rfl

theorem form_withReport (s : Snapshot) (r : Report) :
    (s.withReport r).form = s.form ∧ (s.withReport r).warnings = s.warnings :=
  applyAll_form s _

/-! ## What is written -/

theorem cell_withReport (h : s.Consistent) (r : Report)
    (hid : id ∈ s.form.schema.fields.map (·.id)) :
    (s.withReport r).cell id = (s.cell id).withError (r.messageOf id) := by
  rw [withReport, reportActions_eq,
    cell_applyAll_map (fun _ => Report.target?_actionOf) h.loaded.named.fields hid]
  exact Report.onCell_actionOf (Dict.has_iff.2 (h.fields.mem_iff.2 hid))

theorem cell_withReport_of_notMem (r : Report) (hid : id ∉ s.form.schema.fields.map (·.id)) :
    (s.withReport r).cell id = s.cell id := by
  rw [withReport, reportActions_eq]
  refine cell_applyAll_of_not_target fun a ha htarget => hid ?_
  obtain ⟨other, hother, rfl⟩ := List.mem_map.1 ha
  rw [Report.target?_actionOf, Option.some.injEq] at htarget
  exact htarget ▸ hother

theorem get?_fields_of_notMem (h : s.Consistent) (hid : id ∉ s.form.schema.fields.map (·.id)) :
    s.ui.fields.get? id = none :=
  Dict.get?_eq_none_iff.2 fun hmem => hid (h.fields.mem_iff.1 hmem)

theorem get?_fields_withReport (h : s.Consistent) (r : Report) (id : String) :
    (s.withReport r).ui.fields.get? id =
      (s.ui.fields.get? id).map fun f => { f with error := r.messageOf id } := by
  by_cases hid : id ∈ s.form.schema.fields.map (·.id)
  · exact congrArg Cell.field (cell_withReport h r hid)
  · have hcell := congrArg Cell.field (cell_withReport_of_notMem r hid)
    rw [get?_fields_of_notMem h hid]
    exact hcell.trans (get?_fields_of_notMem h hid)

theorem errors_withReport (h : s.Consistent) (hs : s.Ordered) (hr : r.errors.Sorted)
    (hkeys : r.errors.keys ⊆ s.form.schema.fields.map (·.id)) :
    (s.withReport r).errors = r.errors.mapValues (·.message) := by
  refine (hs.applyAll _).errors.ext (hr.of_keys_eq (Dict.keys_mapValues _ _)) fun id => ?_
  rw [Dict.get?_mapValues]
  by_cases hid : id ∈ s.form.schema.fields.map (·.id)
  · exact congrArg Cell.error (cell_withReport h r hid)
  · have hcell := congrArg Cell.error (cell_withReport_of_notMem r hid)
    have herror : s.errors.get? id = none := by
      rw [h.errors, get?_fields_of_notMem h hid]
      rfl
    rw [Dict.get?_eq_none_iff.2 fun hmem => hid (hkeys hmem)]
    exact hcell.trans herror

/-! ## What is kept -/

theorem sections_withReport (h : s.Consistent) (hs : s.Ordered) (r : Report) :
    (s.withReport r).ui.sections = s.ui.sections := by
  refine (hs.applyAll _).groups.ext hs.groups fun id => ?_
  by_cases hid : id ∈ s.form.schema.fields.map (·.id)
  · exact congrArg Cell.group (cell_withReport h r hid)
  · exact congrArg Cell.group (cell_withReport_of_notMem r hid)

theorem values_withReport (hs : s.Ordered) (r : Report) :
    (s.withReport r).values = s.values := by
  refine (hs.applyAll _).values.ext hs.values fun key => get?_applyAll_of_not_set ?_
  intro _ value hmem
  rw [reportActions_eq] at hmem
  obtain ⟨id, -, heq⟩ := List.mem_map.1 hmem
  exact Report.actionOf_ne_setValue key value heq

theorem isVisible_withReport (h : s.Consistent) (hs : s.Ordered) (r : Report) (id : String) :
    (s.withReport r).isVisible id = s.isVisible id ∧
      (s.withReport r).isDisabled id = s.isDisabled id := by
  unfold isVisible isDisabled containers
  rw [get?_fields_withReport h, sections_withReport h hs, (form_withReport s r).1]
  cases s.ui.fields.get? id <;> exact ⟨rfl, rfl⟩

theorem validate_withReport (h : s.Consistent) (hs : s.Ordered) (r : Report)
    (checks : Dict HostCheck) : (s.withReport r).validate checks = s.validate checks := by
  refine validate_congr (form_withReport s r).1 (values_withReport hs r) ?_ checks
  unfold liveFields
  rw [(form_withReport s r).1]
  refine List.filter_congr fun f _ => ?_
  obtain ⟨hvisible, hdisabled⟩ := isVisible_withReport h hs r f.id
  rw [isLive, hvisible, hdisabled, isLive]

/-- Each action of a report stands once the report is written. -/
theorem withReport_again (h : s.Consistent) (hs : s.Ordered) (r : Report) :
    (s.withReport r).withReport r = s.withReport r := by
  refine applyAll_of_stands fun a ha => (stands_iff (hs.applyAll _)).2 ⟨fun id hid => ?_, ?_⟩
  · rw [reportActions_eq, (form_withReport s r).1] at ha
    obtain ⟨target, hmem, rfl⟩ := List.mem_map.1 ha
    obtain rfl : target = id := by simpa using hid
    have hcell := cell_applyAll_map (s := s) (fun _ => Report.target?_actionOf (r := r))
      h.loaded.named.fields hmem
    rw [← reportActions_eq] at hcell
    rw [hcell, Action.onCell_again]
  · rintro key value rfl -
    rw [reportActions_eq] at ha
    obtain ⟨target, -, heq⟩ := List.mem_map.1 ha
    exact absurd heq (Report.actionOf_ne_setValue key value)

/-- Writing the report of a validation gives exactly the fields of the report their messages, takes
every other error away, whoever set it, and keeps all else; after it the form validates the same,
and writing the report again changes nothing. The report is about the live fields of which an open
validator fails, and has the first of these in the order of the schema. -/
theorem report_written_exactly (hs : s.Reachable) (checks : Dict HostCheck) {r : Report}
    {t : Snapshot} (hr : s.validate checks = r) (ht : s.withReport r = t) :
    (t.errors = r.errors.mapValues (·.message) ∧
      ∀ f ∈ s.form.schema.fields, (t.ui.fields.get? f.id).map (·.error) =
        some ((r.errors.get? f.id).map (·.message))) ∧
    (t.form = s.form ∧ t.values = s.values ∧ t.warnings = s.warnings ∧
      t.ui.sections = s.ui.sections ∧
      (∀ id, t.isVisible id = s.isVisible id ∧ t.isDisabled id = s.isDisabled id) ∧
      ∀ id, t.ui.fields.get? id = (s.ui.fields.get? id).map fun f =>
        { f with error := (r.errors.get? id).map (·.message) }) ∧
    (t.validate checks = r ∧ t.withReport r = t) ∧
    (∀ id, r.errors.has id = true ↔ ∃ f ∈ s.form.schema.fields, f.id = id ∧
      s.isVisible id = true ∧ s.isDisabled id = false ∧
        ∃ v ∈ f.validators, s.Fails checks f v) ∧
    ∀ id e, r.errors.get? id = some e ↔ ∃ f ∈ s.form.schema.fields, f.id = id ∧
      s.isVisible id = true ∧ s.isDisabled id = false ∧
        ∃ v, s.FirstFails checks f v ∧ e = s.errorOf v := by
  subst hr ht
  have h := hs.consistent
  have hkeys : (s.validate checks).errors.keys ⊆ s.form.schema.fields.map (·.id) := by
    intro id hid
    obtain ⟨f, hf, rfl, -⟩ := (has_errors_validate_iff h).1 (Dict.has_iff.2 hid)
    exact List.mem_map_of_mem (mem_liveFields.1 hf).1
  refine ⟨⟨errors_withReport h hs.ordered (sorted_errors_validate s checks) hkeys, ?_⟩,
    ⟨(form_withReport ..).1, values_withReport hs.ordered _, (form_withReport ..).2,
      sections_withReport h hs.ordered _, isVisible_withReport h hs.ordered _,
      get?_fields_withReport h _⟩,
    ⟨validate_withReport h hs.ordered _ checks, withReport_again h hs.ordered _⟩, ?_, ?_⟩
  · intro f hf
    have hfield : (s.ui.fields.get? f.id).isSome = true :=
      Dict.has_iff.2 (h.fields.mem_iff.2 (List.mem_map_of_mem hf))
    obtain ⟨ui, hui⟩ := Option.isSome_iff_exists.1 hfield
    rw [get?_fields_withReport h, hui]
    rfl
  · exact fun id => (has_errors_validate_iff h).trans exists_live_iff
  · exact fun id e => (get?_errors_validate_iff h).trans exists_live_iff

/-- A guest with a name that is short, and shorter still for formal letters, a table that is full,
and a note that is hidden. -/
def guestForm : Schema where
  globals := [("least", .number (.int 4))]
  sections := [{
    id := "guest"
    fields := [
      { id := "formal", kind := .switch },
      { id := "name", kind := .text, defaultValue := some (.string "Ada"),
        validators := [
          { kind := .minLength, bound := some (.number (.int 9)), message := some "too familiar"
            gate := some (.var "formal" none) },
          { kind := .required },
          { kind := .minLength, bound := some (.string "$\x7bglobals.least\x7d") },
          { kind := .maxLength, bound := some (.number (.int 2)) }] },
      { id := "note", kind := .text, validators := [{ kind := .required }] },
      { id := "table", kind := .integer, defaultValue := some (.number (.int 7)),
        validators := [{ kind := .required }] }] }]
  rules := [{
    id := "full"
    condition := .literal (.bool true)
    actions := [.setError "table" "taken", .setVisible .field "note" false] }]

theorem guestForm_report_written :
    ∃ s, build guestForm [] [] {} = .ok s ∧ s.errors = [("table", "taken")] ∧
      (s.withReport (s.validate [])).errors = [("name", "Must be at least 4 characters")] ∧
      (s.withReport (s.validate [])).validate [] = s.validate [] ∧
      (s.withReport (s.validate [])).withReport (s.validate []) =
        s.withReport (s.validate []) := by
  have hbuild : build guestForm [] [] {} = .ok _ := build_eq_start (by decide +kernel)
  obtain ⟨⟨herrors, -⟩, -, ⟨hvalidate, hagain⟩, -⟩ :=
    report_written_exactly ⟨guestForm, [], [], {}, _, hbuild, .refl⟩ [] rfl rfl
  have hreport : ((Form.ofSchema guestForm [] [] {}).start.validate []).errors =
      [("name", ⟨.minLength, "Must be at least 4 characters"⟩)] := by decide +kernel
  rw [hreport] at herrors
  exact ⟨_, hbuild, by decide +kernel, herrors, hvalidate, hagain⟩

end Snapshot

end FormEngine
