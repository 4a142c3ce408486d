import FormEngine.ActiveSchema
import FormEngine.Proofs.Snapshot.Placement

/-!
# Live fields

A field is live when it is visible and enabled and so are the groups it stands in. The payload, the
validators, a report and the active schema find the live fields on ways of their own: the payload
goes through the values, the others through the schema, all by the index of locations. In every
reachable snapshot they agree with the outline of the form (`agree_on_live_fields`).
-/

namespace FormEngine.Snapshot

/-- The fields that pass the filters of a payload, in document order, by their own states and those
of the groups they stand in. -/
def passing (s : Snapshot) (stripHidden stripDisabled : Bool) : List String :=
  (s.form.schema.places.filter fun p =>
    (!stripHidden || s.showsPlace p) && (!stripDisabled || s.enablesPlace p)).map (·.field.id)

/-- The fields that are visible and enabled with all groups they stand in, in document order. -/
def liveIds (s : Snapshot) : List String :=
  (s.form.schema.places.filter fun p => s.showsPlace p && s.enablesPlace p).map (·.field.id)

/-- The live fields that have an active `required` validator, in document order. -/
def requiredIds (s : Snapshot) : List String :=
  s.liveIds.filter fun id => (s.activeValidators.get? id).any fun vs =>
    vs.any fun v => v.kind == .required

theorem liveIds_eq_passing (s : Snapshot) : s.liveIds = s.passing true true := rfl

variable {s : Snapshot}

/-! ## The outline and the index -/

theorem mem_passing (h : s.Consistent) {stripHidden stripDisabled : Bool} {id : String} :
    id ∈ s.passing stripHidden stripDisabled ↔ id ∈ s.form.schema.fields.map (·.id) ∧
      (stripHidden = true → s.isVisible id = true) ∧
      (stripDisabled = true → s.isDisabled id = false) := by
  rw [← Schema.map_field_places, List.map_map]
  simp only [passing, List.mem_map, List.mem_filter, Bool.and_eq_true, Bool.or_eq_true,
    Bool.not_eq_true', Function.comp_apply]
  constructor
  · rintro ⟨p, ⟨hp, hshown, henabled⟩, rfl⟩
    refine ⟨⟨p, hp, rfl⟩, fun ha => ?_, fun hb => ?_⟩
    · rw [h.isVisible_eq hp]
      simpa [ha] using hshown
    · rw [h.isDisabled_eq hp]
      simpa [hb] using henabled
  · rintro ⟨⟨p, hp, rfl⟩, hshown, henabled⟩
    rw [h.isVisible_eq hp] at hshown
    rw [h.isDisabled_eq hp] at henabled
    refine ⟨p, ⟨hp, ?_, ?_⟩, rfl⟩
    · cases stripHidden <;> simp_all
    · cases stripDisabled <;> simp_all

/-- The live fields of the outline are those of the index. -/
theorem liveIds_eq (h : s.Consistent) : s.liveIds = s.liveFields.map (·.id) := by
  unfold liveIds liveFields
  rw [← Schema.map_field_places, List.filter_map, List.map_map]
  refine congrArg _ (List.filter_congr fun p hp => ?_)
  simp [isLive, h.isVisible_eq hp, h.isDisabled_eq hp]

theorem nodup_liveIds (h : s.Consistent) : s.liveIds.Nodup := by
  rw [liveIds_eq h]
  exact h.loaded.named.fields.sublist (List.filter_sublist.map _)

theorem nodup_liveFields (h : s.Consistent) {α : Type} (a : Field → α) :
    ((s.liveFields.map fun f => (f.id, a f)).map Prod.fst).Nodup := by
  rw [List.map_map]
  exact liveIds_eq h ▸ nodup_liveIds h

/-! ## The payload -/

/-- A payload is the values of the fields that pass its filters. -/
theorem payload_eq (h : s.Consistent) (stripHidden stripDisabled : Bool) :
    s.payload stripHidden stripDisabled =
      s.values.filter fun e => e.1 ∈ s.passing stripHidden stripDisabled := by
  refine List.filter_congr fun e he => ?_
  have hkey : e.1 ∈ s.form.schema.fields.map (·.id) :=
    h.values.mem_iff.1 (List.mem_map.2 ⟨e, he, rfl⟩)
  rw [Bool.eq_iff_iff, decide_eq_true_eq, mem_passing h]
  cases stripHidden <;> cases stripDisabled <;> simp [hkey]

theorem keys_payload (h : s.Consistent) : (s.payload true true).keys.Perm s.liveIds := by
  have hn : (s.payload true true).keys.Nodup :=
    (h.values.nodup_iff.2 h.loaded.named.fields).sublist (List.filter_sublist.map _)
  refine (List.perm_ext_iff_of_nodup hn (nodup_liveIds h)).2 fun id => ?_
  rw [payload_eq h, liveIds_eq_passing]
  constructor
  · intro hid
    obtain ⟨e, he, rfl⟩ := List.mem_map.1 hid
    simpa using (List.mem_filter.1 he).2
  · intro hid
    obtain ⟨value, hvalue⟩ := Option.isSome_iff_exists.1
      (Dict.has_iff.2 (h.values.mem_iff.2 ((mem_passing h).1 hid).1))
    exact List.mem_map.2 ⟨(id, value),
      List.mem_filter.2 ⟨Dict.mem_of_get? hvalue, by simpa using hid⟩, rfl⟩

/-! ## Validators -/

theorem keys_activeFields (h : s.Consistent) : s.activeFields.keys ⊆ s.liveIds := by
  intro id hid
  obtain ⟨e, he, rfl⟩ := List.mem_map.1 ((Dict.mem_keys_ofList _ _).1 hid)
  obtain ⟨f, hf, rfl⟩ := List.mem_map.1 (List.mem_filter.1 he).1
  rw [liveIds_eq h]
  exact List.mem_map.2 ⟨f, hf, rfl⟩

theorem keys_activeValidators (s : Snapshot) : s.activeValidators.keys = s.activeFields.keys :=
  Dict.keys_mapValues _ _

/-- A report has errors for fields with active validators only. -/
theorem keys_errors_validate (s : Snapshot) (checks : Dict HostCheck) :
    (s.validate checks).errors.keys ⊆ s.activeFields.keys := by
  intro id hid
  obtain ⟨e, he, rfl⟩ := List.mem_map.1 hid
  obtain ⟨⟨id, failure, warnings⟩, hout, hfail⟩ := List.mem_filterMap.1 he
  obtain ⟨v, -, rfl⟩ := Option.map_eq_some_iff.1 hfail
  obtain ⟨active, hactive, heq⟩ := List.mem_map.1 hout
  exact List.mem_map.2 ⟨active, hactive, congrArg Prod.fst heq⟩

/-- A live field has its active validators, unless there are none. -/
theorem get?_activeValidators (h : s.Consistent) {f : Field} (hf : f ∈ s.liveFields) :
    s.activeValidators.get? f.id =
      if (s.activeOf f).isEmpty then none else some (s.activeOf f) := by
  unfold activeValidators activeFields
  rw [Dict.get?_mapValues,
    Dict.get?_ofList_filter (nodup_liveFields h _) (List.mem_map.2 ⟨f, hf, rfl⟩)]
  cases (s.activeOf f).isEmpty <;> rfl

theorem requiredIds_eq (h : s.Consistent) : s.requiredIds = s.requiredFields := by
  unfold requiredIds requiredFields
  rw [liveIds_eq h, List.filter_map]
  refine congrArg _ (List.filter_congr fun f hf => ?_)
  simp only [Function.comp_apply, get?_activeValidators h hf]
  split
  · rename_i hempty
    rw [List.isEmpty_iff.1 hempty]
    rfl
  · rfl

/-! ## The active schema -/

theorem get?_activeSchema_properties (s : Snapshot) :
    s.activeSchema.members.get? "properties" = some (.object (Dict.ofList
      (s.liveFields.map fun f => (f.id, s.fieldSchema f (s.activeOf f))))) := by
  unfold activeSchema
  cases s.form.schema.title <;> cases hr : s.requiredFields <;>
    simp [Encode.object, Encode.always, Encode.whenSome, Encode.whenAny, Value.members,
      Dict.ofList, Dict.insertAll, Dict.get?_insert]

theorem get?_activeSchema_required (s : Snapshot) :
    s.activeSchema.members.get? "required" =
      if s.requiredFields.isEmpty then none else some (.strings s.requiredFields) := by
  unfold activeSchema
  cases s.form.schema.title <;> cases hr : s.requiredFields <;>
    simp [Encode.object, Encode.always, Encode.whenSome, Encode.whenAny, Value.members,
      Value.strings, Dict.ofList, Dict.insertAll, Dict.get?_insert]

/-- In every reachable snapshot all consumers agree on which fields are live. A payload has the
values of the fields that pass its filters, unchanged. The payload without hidden and disabled
fields and the properties of the active schema have the live fields; active validators and errors of
a report are for live fields only; and the schema requires the live fields with an active `required`
validator, in document order. -/
theorem agree_on_live_fields (hs : s.Reachable) (checks : Dict HostCheck) :
    (∀ stripHidden stripDisabled, s.payload stripHidden stripDisabled =
      s.values.filter fun e => e.1 ∈ s.passing stripHidden stripDisabled) ∧
    (s.payload true true).keys.Perm s.liveIds ∧
    (∃ properties : Dict Value,
      s.activeSchema.members.get? "properties" = some (.object properties) ∧
        properties.keys.Perm s.liveIds) ∧
    s.activeSchema.members.get? "required" =
      (if s.requiredIds.isEmpty then none else some (.strings s.requiredIds)) ∧
    s.activeValidators.keys ⊆ s.liveIds ∧
    (s.validate checks).errors.keys ⊆ s.liveIds := by
  have h := hs.consistent
  refine ⟨payload_eq h, keys_payload h, ⟨_, get?_activeSchema_properties s, ?_⟩, ?_, ?_, ?_⟩
  · rw [liveIds_eq h]
    have hn : ((s.liveFields.map fun f => (f.id, s.fieldSchema f (s.activeOf f))).map
        Prod.fst).Nodup := by
      rw [List.map_map]
      exact liveIds_eq h ▸ nodup_liveIds h
    have hperm := Dict.keys_ofList_perm hn
    rwa [List.map_map] at hperm
  · rw [requiredIds_eq h]
    exact get?_activeSchema_required s
  · rw [keys_activeValidators]
    exact keys_activeFields h
  · exact List.Subset.trans (keys_errors_validate s checks) (keys_activeFields h)

/-- A plan that needs a card and an address of billing unless it is free. -/
def planForm : Schema where
  sections := [{
    id := "main"
    fields := [
      { id := "plan", kind := .text, defaultValue := some (.string "free"),
        validators := [{ kind := .required }] },
      { id := "card", kind := .text, validators := [{ kind := .required }] },
      { id := "team", kind := .text, validators := [
        { kind := .required
          gate := some (.op (.relation .equal) [.var "plan" none, .literal (.string "team")]) }] }]
    subsections := [{
      id := "billing"
      fields := [{ id := "street", kind := .text, validators := [{ kind := .required }] }] }] }]
  rules := [{
    id := "free_of_charge"
    condition := .op (.relation .equal) [.var "plan" none, .literal (.string "free")]
    actions := [.setEnabled (some .field) "card" false,
      .setVisible .group "subsection_billing" false]
    otherwise := [.setEnabled (some .field) "card" true,
      .setVisible .group "subsection_billing" true] }]

theorem planForm_live_fields :
    ∃ s, build planForm [] [] {} = .ok s ∧ s.liveIds = ["plan", "team"] ∧
      s.values.keys.length = 4 ∧
      (s.payload true true).keys.Perm ["plan", "team"] ∧
      (s.payload true false).keys.length = 3 ∧
      s.activeSchema.members.get? "required" = some (.strings ["plan"]) ∧
      (s.validate []).errors.keys ⊆ ["plan", "team"] := by
  have hbuild : build planForm [] [] {} = .ok _ := build_eq_start (by decide +kernel)
  obtain ⟨-, hpayload, -, hrequired, -, herrors⟩ := agree_on_live_fields
    ⟨planForm, [], [], {}, _, hbuild, .refl⟩ []
  have hlive : (Form.ofSchema planForm [] [] {}).start.liveIds = ["plan", "team"] := by
    decide +kernel
  have hids : (Form.ofSchema planForm [] [] {}).start.requiredIds = ["plan"] := by decide +kernel
  rw [hlive] at hpayload herrors
  rw [hids] at hrequired
  exact ⟨_, hbuild, hlive, by decide +kernel, hpayload, by decide +kernel, hrequired, herrors⟩

end FormEngine.Snapshot
