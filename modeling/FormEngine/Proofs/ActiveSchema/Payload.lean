import FormEngine.Proofs.ActiveSchema.Keywords
import FormEngine.Proofs.Validation.Report

/-!
# Payloads and the active schema

The active schema asks of a payload what its live fields declare. Where a keyword is settled by
validation, a valid report vouches for it; what is left open are the types, the formats, the lengths
and patterns of missing values, numbers next to their bounds, and patterns that the reader of the
schema takes in another way (`accepts_payload_iff`). A field without a value is one of these: its
null has no type that a schema names.
-/

namespace FormEngine

open Encode

theorem Value.isNull_iff {v : Value} : v.isNull = true ↔ v = .null := by
  cases v <;> simp [isNull]

/-! ## Keys of schemas -/

theorem FieldKind.key_of_mem_keywords {k : FieldKind} {choices : Option (List Choice)}
    {e : String × Value} (h : e ∈ k.keywords choices) :
    e.1 = "enum" ∨ e.1 = "items" ∨ e.1 = "format" ∨ (e.1 = "type" ∧
      ∃ t ∈ ["number", "integer", "boolean", "array", "string"], e.2 = .string t) := by
  cases k <;> cases choices <;>
    simp_all [keywords, enumOf, formatted, always, whenSome] <;> grind

namespace Snapshot

variable {s : Snapshot} {d : Dialect}

/-- In a valid report no active validator of a live field fails. -/
theorem not_failed_of_valid (h : s.Consistent) {checks : Dict HostCheck}
    (hvalid : (s.validate checks).valid = true) {f : Field} (hf : f ∈ s.liveFields) :
    ∀ v ∈ s.activeOf f, v.judge checks s.values f (s.valueOrNull f.id) ≠ .failed := by
  intro w hw hfailed
  obtain ⟨v, hv, rfl⟩ := List.mem_map.1 hw
  obtain ⟨hmem, hopen⟩ := List.mem_filter.1 hv
  have hhas := (has_errors_validate_iff h).2 ⟨f, hf, rfl, v, hmem, hopen, hfailed⟩
  rw [List.isEmpty_iff.1 hvalid] at hhas
  cases hhas

/-- The keywords of the schema of a field. -/
def keywordsOf (s : Snapshot) (f : Field) : Dict Value := (s.fieldSchema f (s.activeOf f)).members

theorem mem_keywordsOf {f : Field} {e : String × Value} (h : e ∈ s.keywordsOf f) :
    e ∈ f.kind.keywords (s.shownChoices f.id) ∨ e.1 ∈ ["title", "description", "default"] ∨
      ∃ v ∈ s.activeOf f, e ∈ v.keywords f.kind := by
  have hmem := Dict.mem_of_mem_ofList h
  simp only [List.flatten_cons, List.flatten_nil, List.append_nil, List.mem_append,
    List.mem_flatMap] at hmem
  rcases hmem with he | he | he | he | he
  · exact .inl he
  · obtain ⟨-, -, rfl⟩ := mem_whenSome he
    exact .inr (.inl (by simp))
  · obtain ⟨-, -, rfl⟩ := mem_whenSome he
    exact .inr (.inl (by simp))
  · exact .inr (.inr he)
  · obtain ⟨-, -, rfl⟩ := mem_whenSome he
    exact .inr (.inl (by simp))

theorem notMem_keywordsOf_properties (f : Field) (argument : Value) :
    ("properties", argument) ∉ s.keywordsOf f := by
  intro h
  rcases mem_keywordsOf h with he | he | ⟨v, -, he⟩
  · have hkey := FieldKind.key_of_mem_keywords he
    simp at hkey
  · simp at he
  · have hkey := Validator.key_of_mem_keywords he
    simp [Validator.keywordNames] at hkey

theorem accepts_fieldSchema_iff {f : Field} {v : Value} :
    d.accepts (s.fieldSchema f (s.activeOf f)) v = true ↔
      ∀ e ∈ s.keywordsOf f, d.asserts e.1 e.2 v = true := by
  refine Dialect.meets_iff.trans (and_iff_left fun schemas hmem => ?_)
  exact absurd hmem (notMem_keywordsOf_properties f _)

/-! ## The payload -/

/-- The payload has the values of the live fields. -/
theorem get?_payload_live (h : s.Consistent) {f : Field} (hf : f ∈ s.liveFields) :
    (s.payload true true).get? f.id = some (s.valueOrNull f.id) := by
  have hmem : f.id ∈ (s.payload true true).keys := by
    rw [(keys_payload h).mem_iff, liveIds_eq h]
    exact List.mem_map_of_mem hf
  obtain ⟨v, hv⟩ := Option.isSome_iff_exists.1 (Dict.has_iff.2 hmem)
  have hvalues : s.values.get? f.id = some v := by
    refine Dict.get?_of_mem (h.values.nodup_iff.2 h.loaded.named.fields) ?_
    exact (List.mem_filter.1 (Dict.mem_of_get? hv)).1
  rw [hv, valueOrNull, hvalues, Option.getD_some]

theorem hasAll_requiredFields (h : s.Consistent) :
    (Value.array (s.requiredFields.map .string)).hasAll (.object (s.payload true true)) = true := by
  refine List.all_eq_true.2 fun name hname => ?_
  obtain ⟨id, hid, rfl⟩ := List.mem_map.1 hname
  obtain ⟨f, hf, rfl⟩ := List.mem_map.1 hid
  have hget := get?_payload_live h (List.mem_filter.1 hf).1
  simp [Value.string?, Dict.has, hget]

theorem asserts_payload (h : s.Consistent) : ∀ e ∈ s.activeSchema.members,
    d.asserts e.1 e.2 (.object (s.payload true true)) = true := by
  intro e he
  have hmem := Dict.mem_of_mem_ofList he
  simp only [List.flatten_cons, List.flatten_nil, List.append_nil, List.mem_append] at hmem
  rcases hmem with he | he | he | he
  · rw [List.mem_singleton.1 he]
    rfl
  · obtain ⟨-, -, rfl⟩ := mem_whenSome he
    rfl
  · rw [List.mem_singleton.1 he]
    exact Dialect.asserts_object ..
  · unfold whenAny at he
    split at he
    · cases he
    · rw [List.mem_singleton.1 he]
      exact hasAll_requiredFields h

theorem mem_activeSchema_properties {schemas : List (String × Value)} :
    ("properties", .object schemas) ∈ s.activeSchema.members ↔
      schemas = Dict.ofList (s.liveFields.map fun f => (f.id, s.fieldSchema f (s.activeOf f))) := by
  rw [(Dict.sorted_ofList _).mem_iff (d := s.activeSchema.members),
    get?_activeSchema_properties, Option.some.injEq, Value.object.injEq]
  exact eq_comm

/-- The payload is an instance of the active schema when the values of the live fields are instances
of their schemas. -/
theorem accepts_activeSchema_iff (h : s.Consistent) :
    d.accepts s.activeSchema (.object (s.payload true true)) = true ↔
      ∀ f ∈ s.liveFields,
        d.accepts (s.fieldSchema f (s.activeOf f)) (s.valueOrNull f.id) = true := by
  have hroot : s.activeSchema = .object s.activeSchema.members := rfl
  rw [hroot, Dialect.accepts, Dialect.meets_iff, and_iff_right (asserts_payload h)]
  constructor
  · intro hfits f hf
    have hall := Dialect.fits_iff.1 (hfits _ (mem_activeSchema_properties.2 rfl))
    refine hall (f.id, s.fieldSchema f (s.activeOf f)) (Dict.mem_of_get? ?_) _
      (get?_payload_live h hf)
    exact (Dict.get?_ofList_eq_some_iff (nodup_liveFields h _)).2 (List.mem_map.2 ⟨f, hf, rfl⟩)
  · intro hlive schemas hschemas
    rw [mem_activeSchema_properties.1 hschemas]
    refine Dialect.fits_iff.2 fun e he v hv => ?_
    obtain ⟨f, hf, rfl⟩ := List.mem_map.1 (Dict.mem_of_mem_ofList he)
    have hvalue := (get?_payload_live h hf).symm.trans hv
    exact Option.some.inj hvalue ▸ hlive f hf

/-! ## Validation -/

/-- A valid report vouches for every settled keyword. -/
theorem asserts_of_settles (h : s.Consistent) {checks : Dict HostCheck}
    (hvalid : (s.validate checks).valid = true) {f : Field} (hf : f ∈ s.liveFields)
    {e : String × Value} (he : e ∈ s.keywordsOf f)
    (hs : d.settles e.1 e.2 (s.valueOrNull f.id) = true) :
    d.asserts e.1 e.2 (s.valueOrNull f.id) = true := by
  obtain ⟨keyword, argument⟩ := e
  rcases mem_keywordsOf he with he | he | ⟨v, hv, he⟩
  · rcases FieldKind.key_of_mem_keywords he with rfl | rfl | rfl | ⟨rfl, -⟩ <;> cases hs
  · simp only [List.mem_cons, List.not_mem_nil, or_false] at he
    rcases he with rfl | rfl | rfl <;> rfl
  · exact Validator.asserts_of_not_failed (not_failed_of_valid h hvalid hf v hv) he hs

theorem exists_not_asserts_null {f : Field} (hselect : f.kind ≠ .select)
    (hradio : f.kind ≠ .radio) : ∃ e ∈ s.keywordsOf f, d.asserts e.1 e.2 .null = false := by
  have htype : "type" ∈ (f.kind.keywords (s.shownChoices f.id)).map Prod.fst := by
    cases hkind : f.kind <;> simp_all [FieldKind.keywords, always, FieldKind.formatted]
  have hkey : "type" ∈ (s.keywordsOf f).keys := by
    refine (Dict.mem_keys_ofList _ _).2 ?_
    simp only [List.flatten_cons, List.map_append, List.mem_append]
    exact .inl htype
  obtain ⟨⟨_, argument⟩, he, rfl⟩ := List.mem_map.1 hkey
  refine ⟨_, he, ?_⟩
  rcases mem_keywordsOf he with he | he | ⟨v, -, he⟩
  · obtain ⟨t, ht, rfl⟩ : ∃ t ∈ ["number", "integer", "boolean", "array", "string"],
        argument = .string t := by
      simpa using FieldKind.key_of_mem_keywords he
    simp only [List.mem_cons, List.not_mem_nil, or_false] at ht
    rcases ht with rfl | rfl | rfl | rfl | rfl <;> rfl
  · simp at he
  · have hname := Validator.key_of_mem_keywords he
    simp [Validator.keywordNames] at hname

theorem not_accepts_of_null (h : s.Consistent) {f : Field} (hf : f ∈ s.liveFields)
    (hselect : f.kind ≠ .select) (hradio : f.kind ≠ .radio)
    (hnull : s.valueOrNull f.id = .null) :
    d.accepts s.activeSchema (.object (s.payload true true)) = false := by
  refine Bool.eq_false_iff.2 fun haccepts => ?_
  have hvalue := accepts_fieldSchema_iff.1 ((accepts_activeSchema_iff h).1 haccepts f hf)
  obtain ⟨e, he, hnot⟩ := exists_not_asserts_null (s := s) (d := d) hselect hradio
  have hholds := hvalue e he
  rw [hnull, hnot] at hholds
  cases hholds

/-- Of a form that validates, the values of live fields have every keyword that is settled. So the
payload is an instance of the active schema exactly when they have the others too: when they are of
the types and formats of their fields, when missing texts and lists have the lengths and patterns,
when numbers with the double of a bound meet the bound exactly, and when patterns find in texts what
they find for validators. It is none when a live field that is not a selection has no value. -/
theorem accepts_payload_iff (hs : s.Reachable) (d : Dialect) {checks : Dict HostCheck}
    (hvalid : (s.validate checks).valid = true) :
    (∀ f ∈ s.liveFields, ∀ e ∈ s.keywordsOf f,
      d.settles e.1 e.2 (s.valueOrNull f.id) = true →
        d.asserts e.1 e.2 (s.valueOrNull f.id) = true) ∧
    (d.accepts s.activeSchema (.object (s.payload true true)) = true ↔
      ∀ f ∈ s.liveFields, ∀ e ∈ s.keywordsOf f,
        d.settles e.1 e.2 (s.valueOrNull f.id) = false →
          d.asserts e.1 e.2 (s.valueOrNull f.id) = true) ∧
    ∀ f ∈ s.liveFields, f.kind ≠ .select → f.kind ≠ .radio → s.valueOrNull f.id = .null →
      d.accepts s.activeSchema (.object (s.payload true true)) = false := by
  have h := hs.consistent
  refine ⟨fun f hf e he => asserts_of_settles h hvalid hf he, ?_,
    fun f hf => not_accepts_of_null h hf⟩
  rw [accepts_activeSchema_iff h]
  refine forall₂_congr fun f hf => ?_
  rw [accepts_fieldSchema_iff]
  refine forall₂_congr fun e he => ⟨fun hall _ => hall, fun hopen => ?_⟩
  cases hsettled : d.settles e.1 e.2 (s.valueOrNull f.id) with
  | true => exact asserts_of_settles h hvalid hf he hsettled
  | false => exact hopen hsettled

/-- A member with a name, an age, and a nickname that may be left out. -/
def memberForm : Schema where
  sections := [{
    id := "member"
    fields := [
      { id := "name", kind := .text, defaultValue := some (.string "Ada"),
        validators := [
          { kind := .required },
          { kind := .minLength, bound := some (.number (.int 2)) }] },
      { id := "age", kind := .integer, defaultValue := some (.number (.int 36)),
        validators := [
          { kind := .min, bound := some (.number (.int 13)) },
          { kind := .max, bound := some (.string "120") }] },
      { id := "nickname", kind := .text,
        validators := [{ kind := .maxLength, bound := some (.number (.int 8)) }] }] }]

theorem memberForm_accepted :
    ∃ s, build memberForm [] [] {} = .ok s ∧ (s.validate []).valid = true ∧
      s.liveFields.length = 3 ∧
      Dialect.validators.accepts s.activeSchema (.object (s.payload true true)) = true := by
  have hbuild : build memberForm [] [] {} = .ok _ := build_eq_start (by decide +kernel)
  have hvalid : ((Form.ofSchema memberForm [] [] {}).start.validate []).valid = true := by
    decide +kernel
  obtain ⟨-, hiff, -⟩ := accepts_payload_iff ⟨memberForm, [], [], {}, _, hbuild, .refl⟩
    Dialect.validators hvalid
  exact ⟨_, hbuild, hvalid, by decide +kernel, hiff.2 (by decide +kernel)⟩

def ageField : Field where
  id := "age"
  kind := .number

/-- A member who need not tell the age. -/
def ageForm : Schema where
  sections := [{ id := "member", fields := [ageField] }]

/-- The form is valid as it starts, and its payload is not an instance of its schema: the age is
null where the schema wants a number. -/
theorem valid_payload_not_accepted :
    ∃ s : Snapshot, s.Reachable ∧ (s.validate []).valid = true ∧
      (s.payload true true).get? "age" = some .null ∧
      ∀ d : Dialect, d.accepts s.activeSchema (.object (s.payload true true)) = false := by
  have hbuild : build ageForm [] [] {} = .ok _ := build_eq_start (by decide +kernel)
  have hreach : (Form.ofSchema ageForm [] [] {}).start.Reachable :=
    ⟨ageForm, [], [], {}, _, hbuild, .refl⟩
  have hlive : ageField ∈ (Form.ofSchema ageForm [] [] {}).start.liveFields :=
    List.mem_filter.2 ⟨by rw [Form.form_start]; exact List.mem_singleton.2 rfl, by decide +kernel⟩
  have hnull : (Form.ofSchema ageForm [] [] {}).start.valueOrNull ageField.id = .null :=
    Value.isNull_iff.1 (by decide +kernel)
  refine ⟨_, hreach, by decide +kernel, ?_,
    fun d => not_accepts_of_null hreach.consistent hlive (by decide) (by decide) hnull⟩
  exact (get?_payload_live hreach.consistent hlive).trans (congrArg some hnull)

end Snapshot

end FormEngine
