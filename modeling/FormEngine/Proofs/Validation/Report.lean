import FormEngine.Proofs.Dict.Order
import FormEngine.Proofs.Snapshot.Live

/-!
# What a report contains

A report has an entry for a live field exactly when an open validator of the field fails, and the
entry is that of the first one in the order of the schema (`get?_errors_validate_iff`). Nothing but
the values and what is live decides about it, so snapshots that agree on these have the same report
(`validate_congr`).
-/

namespace FormEngine

namespace Validator

theorem firstFailure_eq_find? (judge : Validator → Verdict) (vs : List Validator) :
    (firstFailure judge vs).1 = vs.find? fun v => judge v = .failed := by
  induction vs with
  | nil => rfl
  | cons v rest ih =>
    rw [firstFailure, List.find?_cons]
    cases hv : judge v with
    | failed => rfl
    | passed | skipped => simpa using ih

end Validator

namespace Snapshot

variable {s t : Snapshot} {checks : Dict HostCheck} {f : Field} {id : String}

/-! ## Active validators -/

theorem mem_liveFields : f ∈ s.liveFields ↔
    f ∈ s.form.schema.fields ∧ s.isVisible f.id = true ∧ s.isDisabled f.id = false := by
  simp [liveFields, isLive]

theorem exists_live_self_iff (h : s.Consistent) (hf : f ∈ s.liveFields) {P : Field → Prop} :
    (∃ g ∈ s.liveFields, g.id = f.id ∧ P g) ↔ P f := by
  constructor
  · rintro ⟨g, hg, heq, hP⟩
    have hinj := List.inj_on_of_nodup_map h.loaded.named.fields
    rwa [hinj (mem_liveFields.1 hg).1 (mem_liveFields.1 hf).1 heq] at hP
  · exact fun hP => ⟨f, hf, rfl, hP⟩

/-- A live field of an id, as a declared one that is visible and enabled. -/
theorem exists_live_iff {P : Field → Prop} : (∃ f ∈ s.liveFields, f.id = id ∧ P f) ↔
    ∃ f ∈ s.form.schema.fields,
      f.id = id ∧ s.isVisible id = true ∧ s.isDisabled id = false ∧ P f := by
  refine exists_congr fun f => ?_
  rw [mem_liveFields]
  constructor
  · rintro ⟨⟨hf, hvisible, hdisabled⟩, rfl, hP⟩
    exact ⟨hf, rfl, hvisible, hdisabled, hP⟩
  · rintro ⟨hf, rfl, hvisible, hdisabled, hP⟩
    exact ⟨⟨hf, hvisible, hdisabled⟩, rfl, hP⟩

theorem mem_activeFields_iff (h : s.Consistent) {e : String × Field × List Validator} :
    e ∈ s.activeFields ↔
      ∃ f ∈ s.liveFields, s.activeOf f ≠ [] ∧ e = (f.id, f, s.activeOf f) := by
  have hnodup : (((s.liveFields.map fun f => (f.id, f, s.activeOf f)).filter
      fun e => !e.2.2.isEmpty).map Prod.fst).Nodup :=
    (nodup_liveFields h fun f => (f, s.activeOf f)).sublist (List.filter_sublist.map _)
  rw [(Dict.sorted_ofList _).mem_iff (d := s.activeFields), activeFields,
    Dict.get?_ofList_eq_some_iff hnodup, List.mem_filter]
  constructor
  · rintro ⟨hmem, hactive⟩
    obtain ⟨f, hf, heq⟩ := List.mem_map.1 hmem
    obtain rfl : (f.id, f, s.activeOf f) = e := heq
    exact ⟨f, hf, by simpa using hactive, rfl⟩
  · rintro ⟨f, hf, hactive, rfl⟩
    exact ⟨List.mem_map.2 ⟨f, hf, rfl⟩, by simpa using hactive⟩

/-- A validator of a field is open and fails with its bound filled in. -/
def Fails (s : Snapshot) (checks : Dict HostCheck) (f : Field) (v : Validator) : Prop :=
  v.isOpen s.scope = true ∧
    (v.filledIn s.scope).judge checks s.values f (s.valueOrNull f.id) = .failed

instance (f : Field) (v : Validator) : Decidable (s.Fails checks f v) :=
  inferInstanceAs (Decidable (_ ∧ _))

/-- A validator of a field fails, and none that is declared before it. -/
def FirstFails (s : Snapshot) (checks : Dict HostCheck) (f : Field) (v : Validator) : Prop :=
  s.Fails checks f v ∧
    ∃ before after, f.validators = before ++ v :: after ∧ ∀ w ∈ before, ¬ s.Fails checks f w

theorem failureOf_activeOf (s : Snapshot) (checks : Dict HostCheck) (f : Field) :
    (s.failureOf checks f (s.activeOf f)).1 =
      (f.validators.find? fun v => s.Fails checks f v).map (·.filledIn s.scope) := by
  unfold failureOf activeOf
  rw [Validator.firstFailure_eq_find?, List.find?_map, List.find?_filter]
  refine congrArg _ (congrArg (f.validators.find? ·) (funext fun v => ?_))
  refine Bool.eq_iff_iff.2 (Iff.trans ?_ decide_eq_true_iff.symm)
  simp [Fails]

theorem failureOf_eq_some_iff {w : Validator} :
    (s.failureOf checks f (s.activeOf f)).1 = some w ↔
      ∃ v, s.FirstFails checks f v ∧ v.filledIn s.scope = w := by
  rw [failureOf_activeOf, Option.map_eq_some_iff]
  refine exists_congr fun v => and_congr_left fun _ => ?_
  rw [List.find?_eq_some_iff_append]
  simp [FirstFails]

theorem exists_firstFails_iff :
    (∃ v, s.FirstFails checks f v) ↔ ∃ v ∈ f.validators, s.Fails checks f v := by
  constructor
  · rintro ⟨v, hv, before, after, hsplit, -⟩
    exact ⟨v, by simp [hsplit], hv⟩
  · rintro ⟨v, hmem, hv⟩
    obtain ⟨w, hw⟩ := Option.isSome_iff_exists.1
      (List.find?_isSome.2 ⟨v, hmem, decide_eq_true hv⟩ :
        (f.validators.find? fun v => s.Fails checks f v).isSome = true)
    obtain ⟨hfails, before, after, hsplit, hnone⟩ := List.find?_eq_some_iff_append.1 hw
    exact ⟨w, of_decide_eq_true hfails, before, after, hsplit, by simpa using hnone⟩

/-! ## Entries -/

theorem sorted_errors_validate (s : Snapshot) (checks : Dict HostCheck) :
    (s.validate checks).errors.Sorted := by
  unfold validate
  show Dict.Sorted (List.filterMap _ (List.map _ _))
  rw [List.filterMap_map]
  refine List.Pairwise.filterMap _ (fun a b hlt x hx y hy => ?_) (Dict.sorted_ofList _)
  obtain ⟨-, -, rfl⟩ := Option.map_eq_some_iff.1 hx
  obtain ⟨-, -, rfl⟩ := Option.map_eq_some_iff.1 hy
  exact hlt

/-- The error that a report has for a validator with its bound filled in. -/
def errorOf (s : Snapshot) (v : Validator) : FieldError :=
  ⟨v.kind, (v.filledIn s.scope).failureMessage⟩

/-- A report has an entry for a live field of which an open validator fails, from the first one. -/
theorem get?_errors_validate_iff (h : s.Consistent) {e : FieldError} :
    (s.validate checks).errors.get? id = some e ↔
      ∃ f ∈ s.liveFields, f.id = id ∧ ∃ v, s.FirstFails checks f v ∧ e = s.errorOf v := by
  have hentry : (id, e) ∈ (s.validate checks).errors ↔
      (s.validate checks).errors.get? id = some e := (sorted_errors_validate s checks).mem_iff
  rw [← hentry]
  simp only [validate, List.mem_filterMap, List.mem_map, mem_activeFields_iff h,
    Option.map_eq_some_iff]
  constructor
  · rintro ⟨-, ⟨-, ⟨f, hf, -, rfl⟩, rfl⟩, w, hw, heq⟩
    obtain ⟨v, hv, rfl⟩ := failureOf_eq_some_iff.1 hw
    obtain ⟨rfl, rfl⟩ := Prod.ext_iff.1 heq
    exact ⟨f, hf, rfl, v, hv, rfl⟩
  · rintro ⟨f, hf, rfl, v, hv, rfl⟩
    have hfailure := failureOf_eq_some_iff.2 ⟨v, hv, rfl⟩
    have hactive : s.activeOf f ≠ [] := by
      intro hempty
      rw [hempty] at hfailure
      cases hfailure
    exact ⟨_, ⟨_, ⟨f, hf, hactive, rfl⟩, rfl⟩, _, hfailure, rfl⟩

theorem has_errors_validate_iff (h : s.Consistent) :
    (s.validate checks).errors.has id = true ↔
      ∃ f ∈ s.liveFields, f.id = id ∧ ∃ v ∈ f.validators, s.Fails checks f v := by
  rw [Dict.has, Option.isSome_iff_exists]
  simp only [get?_errors_validate_iff h, ← exists_firstFails_iff]
  constructor
  · rintro ⟨-, f, hf, rfl, v, hv, -⟩
    exact ⟨f, hf, rfl, v, hv⟩
  · rintro ⟨f, hf, rfl, v, hv⟩
    exact ⟨_, f, hf, rfl, v, hv, rfl⟩

/-- Validation looks at the values of fields and at what is live. -/
theorem validate_congr (hform : s.form = t.form) (hvalues : s.values = t.values)
    (hlive : s.liveFields = t.liveFields) (checks : Dict HostCheck) :
    s.validate checks = t.validate checks := by
  have hscope : s.scope = t.scope := by
    unfold scope
    rw [hform, hvalues]
  unfold validate activeFields gateWarnings activeOf failureOf valueOrNull
  rw [hlive, hscope, hvalues]

end Snapshot

end FormEngine
