import FormEngine.Proofs.Validation.Report
import Mathlib.Data.List.DropRight

/-!
# Required fields

On a missing value a validator fails exactly when it is `required`: every other kind takes it as
met, a pattern that cannot be read and a check of the host included (`Validator.judge_of_missing`).
So the schema, which lists the fields with an open `required` validator, and the report, which takes
the first failing one among all validators, say the same of missing values
(`required_iff_reported_missing`).
-/

namespace FormEngine

/-! ## Missing values -/

theorem Text.trim_eq_nil_iff {cs : List Char} :
    Text.trim cs = [] ↔ ∀ c ∈ cs, Text.isBlank c = true := by
  unfold Text.trim
  rw [show Text.trimEnd (cs.dropWhile Text.isBlank) =
    (cs.dropWhile Text.isBlank).rdropWhile Text.isBlank from rfl, List.rdropWhile_eq_nil_iff]
  constructor
  · intro h
    rw [← List.dropWhile_eq_nil_iff, List.dropWhile_idempotent] at h
    exact List.dropWhile_eq_nil_iff.1 h
  · exact fun h c hc => h c ((List.dropWhile_sublist _).mem hc)

namespace Value

/-- Null, a text of blanks, an array without items or an object without members. -/
inductive Missing : Value → Prop where
  | null : Missing .null
  | blank {text : String} (h : ∀ c ∈ text.toList, Text.isBlank c = true) : Missing (.string text)
  | array : Missing (.array [])
  | object : Missing (.object [])

theorem isMissing_iff {v : Value} : v.isMissing = true ↔ v.Missing := by
  constructor
  · intro h
    cases v with
    | null => exact .null
    | string text => exact .blank (Text.trim_eq_nil_iff.1 (List.isEmpty_iff.1 h))
    | array items => exact List.isEmpty_iff.1 h ▸ .array
    | object members => exact List.isEmpty_iff.1 h ▸ .object
    | bool b => cases h
    | number n => cases h
  · intro h
    cases h with
    | blank htext => exact List.isEmpty_iff.2 (Text.trim_eq_nil_iff.2 htext)
    | _ => rfl

end Value

/-- On a missing value `required` fails and every other validator passes. -/
theorem Validator.judge_of_missing {value : Value} (h : value.Missing) (v : Validator)
    (checks : Dict HostCheck) (values : Dict Value) (field : Field) :
    v.judge checks values field value = if v.kind = .required then .failed else .passed := by
  unfold judge meetsRequired
  rw [Value.isMissing_iff.2 h]
  rfl

namespace Snapshot

variable {s : Snapshot} {checks : Dict HostCheck} {f : Field}

/-- A validator of a field is open and `required`. -/
def Requires (s : Snapshot) (v : Validator) : Prop :=
  v.isOpen s.scope = true ∧ v.kind = .required

theorem fails_iff_requires (h : (s.valueOrNull f.id).Missing) (v : Validator) :
    s.Fails checks f v ↔ s.Requires v := by
  unfold Fails Requires
  rw [Validator.judge_of_missing h]
  refine and_congr_right fun _ => ?_
  by_cases hkind : v.kind = .required <;> simp [Validator.filledIn, hkind]

/-! ## The list of the schema -/

/-- The active schema lists a field as required. -/
def ListsRequired (s : Snapshot) (id : String) : Prop :=
  ∃ names, s.activeSchema.members.get? "required" = some (.strings names) ∧ id ∈ names

theorem listsRequired_iff {id : String} : s.ListsRequired id ↔ id ∈ s.requiredFields := by
  unfold ListsRequired
  rw [get?_activeSchema_required]
  constructor
  · rintro ⟨names, hnames, hid⟩
    split at hnames
    · cases hnames
    · rename_i hany
      have hlists := Value.array.inj (Option.some.inj hnames)
      obtain rfl := List.map_injective_iff.2 (fun _ _ => Value.string.inj) hlists
      exact hid
  · intro hid
    refine ⟨s.requiredFields, if_neg ?_, hid⟩
    exact fun hempty => List.ne_nil_of_mem hid (List.isEmpty_iff.1 hempty)

theorem mem_requiredFields_iff (h : s.Consistent) (hf : f ∈ s.liveFields) :
    f.id ∈ s.requiredFields ↔ ∃ v ∈ f.validators, s.Requires v := by
  rw [← exists_live_self_iff h hf (P := fun g => ∃ v ∈ g.validators, s.Requires v)]
  simp [requiredFields, activeOf, Requires, Validator.filledIn, and_left_comm, and_comm]

/-- A live field whose value is missing is required by the active schema exactly when a report has
an error for it. The error is then that of its first open `required` validator, with the message
that this declares or else the default one, whatever other validators stand around it. -/
theorem required_iff_reported_missing (hs : s.Reachable) (checks : Dict HostCheck)
    (hf : f ∈ s.form.schema.fields) (hvisible : s.isVisible f.id = true)
    (henabled : s.isDisabled f.id = false) (hmissing : (s.valueOrNull f.id).Missing) :
    (s.ListsRequired f.id ↔ (s.validate checks).errors.has f.id = true) ∧
    ((s.validate checks).errors.has f.id = true →
      ∃ before v after, f.validators = before ++ v :: after ∧ s.Requires v ∧
        (∀ w ∈ before, ¬ s.Requires w) ∧
        (s.validate checks).errors.get? f.id =
          some ⟨.required, v.message.getD "This field is required"⟩) := by
  have h := hs.consistent
  have hlive : f ∈ s.liveFields := mem_liveFields.2 ⟨hf, hvisible, henabled⟩
  have hhas : (s.validate checks).errors.has f.id = true ↔ ∃ v ∈ f.validators, s.Requires v := by
    rw [has_errors_validate_iff h, exists_live_self_iff h hlive]
    simp only [fails_iff_requires hmissing]
  refine ⟨?_, fun hreported => ?_⟩
  · rw [listsRequired_iff, mem_requiredFields_iff h hlive, hhas]
  · obtain ⟨e, he⟩ := Option.isSome_iff_exists.1 hreported
    obtain ⟨v, ⟨hfails, before, after, hsplit, hbefore⟩, rfl⟩ :=
      (exists_live_self_iff h hlive).1 ((get?_errors_validate_iff h).1 he)
    simp only [fails_iff_requires hmissing] at hfails hbefore
    refine ⟨before, v, after, hsplit, hfails, hbefore, he.trans (congrArg some ?_)⟩
    obtain ⟨-, hkind⟩ := hfails
    simp [errorOf, Validator.failureMessage, Validator.defaultMessage, Validator.filledIn, hkind]

def nicknameField : Field where
  id := "nickname"
  kind := .text
  defaultValue := some (.string " \t")
  validators := [
    { kind := .custom, bound := some (.string "unique") },
    { kind := .required, message := some "Others will see it", gate := some (.var "public" none) },
    { kind := .pattern, bound := some (.string "(") },
    { kind := .required, message := some "Tell us a name" },
    { kind := .required }]

/-- A nickname of blanks, which no check accepts, on a page that others do not see. -/
def profileForm : Schema where
  sections := [{
    id := "profile"
    fields := [{ id := "public", kind := .switch }, nicknameField] }]

theorem profileForm_nickname_required :
    ∃ s, build profileForm [] [] {} = .ok s ∧ (s.valueOrNull "nickname").Missing ∧
      s.ListsRequired "nickname" ∧
      (s.validate [("unique", fun _ _ _ => false)]).errors.get? "nickname" =
        some ⟨.required, "Tell us a name"⟩ := by
  have hbuild : build profileForm [] [] {} = .ok _ := build_eq_start (by decide +kernel)
  have hmissing : ((Form.ofSchema profileForm [] [] {}).start.valueOrNull "nickname").Missing :=
    Value.isMissing_iff.1 (by decide +kernel)
  obtain ⟨hlisted, -⟩ := required_iff_reported_missing (f := nicknameField)
    ⟨profileForm, [], [], {}, _, hbuild, .refl⟩ [("unique", fun _ _ _ => false)]
    (by rw [Form.form_start]; exact List.mem_cons_of_mem _ List.mem_cons_self)
    (by decide +kernel) (by decide +kernel) hmissing
  exact ⟨_, hbuild, hmissing, hlisted.2 (by decide +kernel), by decide +kernel⟩

end Snapshot

end FormEngine
