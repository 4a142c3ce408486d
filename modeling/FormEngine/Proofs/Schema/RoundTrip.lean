import FormEngine.Proofs.Expr.Canonical
import FormEngine.Proofs.Json.Record
import FormEngine.Schema.Encode
import FormEngine.Schema.Outline

/-!
# Schemas that are written and read back

A schema that was read from a document is written as a document that is read as the same schema
(`decode?_encode_of_decode?`). Reading settles other names, short forms, repeated members, the order
of members, and null and empty lists for absence; what is written has none of these left, so each
kind of record comes back as it was (`Faithful`), members by members.
-/

namespace FormEngine

open Decode

theorem Expr.ofJson_of_decode? {v : Value} {e : Expr} (h : Expr.decode? v = some e) :
    ofJson v.normalize = .ok e := by
  unfold decode? at h
  cases hread : ofJson v.normalize with
  | error x =>
    rw [hread] at h
    cases h
  | ok e' =>
    rw [hread] at h
    cases h
    rfl

theorem Expr.faithful : Faithful Expr.decode? Expr.toJson where
  reads_back {v e} h := by
    have hread := ofJson_of_decode? h
    have hnormal : e.toJson.normalize = e.toJson := normal_toJson _ _ hread v.normal_normalize
    rw [decode?, hnormal, ofJson_toJson _ _ hread]
    rfl
  ne_null {v e} h hv he :=
    hv (Value.normalize_eq_null_iff.1 (eq_null_of_toJson_eq_null (ofJson_of_decode? h) he))

namespace Choice

theorem normal_of_decode? {v : Value} {c : Choice} (h : decode? v = some c) : c.value.Normal := by
  simp only [decode?, Option.bind_eq_bind, Option.bind_eq_some_iff, Option.pure_def,
    Option.some.injEq] at h
  obtain ⟨m, -, label, -, value, hvalue, rfl⟩ := h
  obtain ⟨w, -, hw⟩ := Option.bind_eq_some_iff.1 hvalue
  exact Option.some.inj hw ▸ w.normal_normalize

theorem decode?_encode {c : Choice} (h : c.value.Normal) : decode? c.encode = some c := by
  have hvalue : value? c.value = some c.value := congrArg some h
  simp [decode?, encode, record?_object, need, text?, Value.string?, hvalue]

theorem faithful : Faithful decode? encode where
  reads_back h := decode?_encode (normal_of_decode? h)
  ne_null _ _ := Encode.object_ne_null _

end Choice

/-! ## Actions -/

namespace Action

/-- The values of the action are normal. -/
def Normal : Action → Prop
  | .setValue _ value => value.Normal
  | .setChoices _ choices => ∀ c ∈ choices, c.value.Normal
  | .setChoiceEnabled _ value _ => value.Normal
  | _ => True

section Reading

variable {m : Dict Value} {a : Action}

theorem normal_of_plain? {make : String → Action} (h : plain? make m = some a)
    (hmake : ∀ target, (make target).Normal) : a.Normal := by
  simp only [plain?, Option.bind_eq_bind, Option.bind_eq_some_iff, Option.pure_def,
    Option.some.injEq] at h
  obtain ⟨_, -, target, -, rfl⟩ := h
  exact hmake target

theorem normal_of_choice? {enabled : Bool} (h : choice? enabled m = some a) : a.Normal := by
  simp only [choice?, Option.bind_eq_bind, Option.bind_eq_some_iff, Option.pure_def,
    Option.some.injEq] at h
  obtain ⟨_, -, _, -, value, hvalue, rfl⟩ := h
  obtain ⟨v, -, hv⟩ := Option.bind_eq_some_iff.1 hvalue
  exact Option.some.inj hv ▸ v.normal_normalize

theorem normal_of_error? (h : error? m = some a) : a.Normal := by
  simp only [error?, Option.bind_eq_bind, Option.bind_eq_some_iff, Option.pure_def,
    Option.some.injEq] at h
  obtain ⟨_, -, _, -, _, -, rfl⟩ := h
  trivial

theorem normal_of_value {target : String} {value : Value}
    (h : orElse value? m "value" .null = some value) : (setValue target value).Normal := by
  unfold orElse at h
  split at h
  · cases h
    rfl
  · exact Option.some.inj h ▸ Value.normal_normalize _

theorem normal_of_choices {target : String} {choices : List Choice}
    (h : orElse (list? Choice.decode?) m "options" [] = some choices) :
    (setChoices target choices).Normal := by
  unfold orElse at h
  split at h
  · cases h
    exact nofun
  · intro c hc
    obtain ⟨v, hv⟩ := exists_of_mem_list? h c hc
    exact Choice.normal_of_decode? hv

theorem normal_of_ofType? {type : String} (h : ofType? type m = some a) : a.Normal := by
  unfold ofType? at h
  split at h
  all_goals
    first
    | exact normal_of_plain? h fun _ => trivial
    | exact normal_of_choice? h
    | exact normal_of_error? h
    | skip
  · simp only [Option.bind_eq_bind, Option.bind_eq_some_iff, Option.pure_def,
      Option.some.injEq] at h
    obtain ⟨_, -, _, -, value, hvalue, rfl⟩ := h
    exact normal_of_value hvalue
  · simp only [Option.bind_eq_bind, Option.bind_eq_some_iff, Option.pure_def,
      Option.some.injEq] at h
    obtain ⟨_, -, _, -, choices, hchoices, rfl⟩ := h
    exact normal_of_choices hchoices
  · cases h
    trivial

end Reading

theorem decode?_tagged {type target : String} {rest : List (String × Value)}
    (hrest : "type" ∉ rest.map Prod.fst) :
    decode? (tagged type target rest) =
      ofType? type (Dict.ofList (("target", .string target) :: rest)) := by
  have hothers : "type" ∉ (("target", Value.string target) :: rest).map Prod.fst := by
    simpa using hrest
  have htype : need typeName? (Dict.ofList (("type", .string type) ::
      ("target", .string target) :: rest)) "type" = some type := by
    rw [need, ← List.singleton_append, Dict.get?_ofList_append,
      Dict.get?_eq_none_iff.2 (by rwa [Dict.mem_keys_ofList])]
    rfl
  have herase : (Dict.ofList (("type", Value.string type) :: ("target", .string target) ::
      rest)).erase "type" = _ := Dict.erase_ofList_cons hothers
  unfold decode? tagged
  rw [record?_object]
  simp only [Encode.always, List.flatten_cons, List.flatten_nil, List.append_nil,
    List.cons_append, List.nil_append, Option.bind_eq_bind, Option.bind_some, htype]
  exact congrArg (ofType? type) herase

theorem decode?_encode {a : Action} (h : a.Normal) : decode? a.encode = some a := by
  cases a with
  | setVisible element target visible =>
    cases element <;> cases visible <;> exact decode?_tagged (by simp)
  | setEnabled element target enabled =>
    rcases element with _ | _ | _ <;> cases enabled <;> exact decode?_tagged (by simp)
  | setValue target value =>
    refine (decode?_tagged (by simp [Encode.always])).trans ?_
    rw [Encode.always, Dict.ofList_pair (by decide)]
    exact congrArg (fun v => some (setValue target v)) h
  | setChoices target choices =>
    refine (decode?_tagged (by simp [Encode.always])).trans ?_
    have hchoices : list? Choice.decode? (.array (choices.map Choice.encode)) = some choices :=
      mapM_map_encode fun c hc => Choice.decode?_encode (h c hc)
    rw [Encode.always, Dict.ofList_pair_swap (by decide)]
    exact congrArg (fun o => Option.bind o fun cs => some (setChoices target cs)) hchoices
  | setError target message =>
    refine (decode?_tagged (by simp [Encode.always])).trans ?_
    rw [Encode.always, Dict.ofList_pair_swap (by decide)]
    rfl
  | clearError target => exact decode?_tagged (by simp)
  | setChoiceEnabled target value enabled =>
    refine (decode?_tagged (by simp [Encode.always])).trans ?_
    rw [Encode.always, Dict.ofList_pair (by decide)]
    cases enabled <;> exact congrArg (fun v => some (setChoiceEnabled target v _)) h
  | unknown => rfl

theorem faithful : Faithful decode? encode where
  reads_back {v a} h := by
    simp only [decode?, Option.bind_eq_bind, Option.bind_eq_some_iff] at h
    obtain ⟨_, -, type, -, h⟩ := h
    exact decode?_encode (normal_of_ofType? h)
  ne_null {v a} _ _ := by
    cases a <;> exact Encode.object_ne_null _

theorem faithful_list : Faithful decodeList? fun actions => .array (actions.map encode) where
  reads_back {v actions} h := by
    show list? decode? (.array (actions.map encode)) = some actions
    unfold decodeList? at h
    split at h
    · obtain ⟨a, ha, rfl⟩ := Option.map_eq_some_iff.1 h
      exact mapM_map_encode (by simpa using faithful.reads_back ha)
    · exact faithful.list.reads_back h
  ne_null _ _ := nofun

end Action

/-! ## Rules and validators -/

theorem Rule.faithful : Faithful Rule.decode? Rule.encode where
  reads_back {v r} h := by
    simp only [decode?, Option.bind_eq_bind, Option.bind_eq_some_iff, Option.pure_def,
      Option.some.injEq] at h ⊢
    obtain ⟨m, -, id, hid, condition, hcondition, actions, hactions, otherwise, hotherwise, rfl⟩ :=
      h
    refine ⟨_, record?_object .., id, faithful_text.need hid ?_,
      condition, Expr.faithful.need hcondition ?_, actions, Action.faithful_list.need hactions ?_,
      otherwise, Action.faithful_list.orEmpty hotherwise ?_, rfl⟩
    all_goals simp
  ne_null _ _ := Encode.object_ne_null _

theorem Validator.faithful : Faithful Validator.decode? Validator.encode where
  reads_back {v d} h := by
    simp only [decode?, Option.bind_eq_bind, Option.bind_eq_some_iff, Option.pure_def,
      Option.some.injEq] at h ⊢
    obtain ⟨m, -, kind, hkind, bound, hbound, message, hmessage, gate, hgate, rfl⟩ := h
    refine ⟨_, record?_object .., kind, (faithful_case ValidatorKind.ofName?_name).need hkind ?_,
      bound, faithful_value.maybe hbound ?_, message, faithful_text.maybe hmessage ?_,
      gate, Expr.faithful.maybe hgate ?_, rfl⟩
    all_goals simp
  ne_null _ _ := Encode.object_ne_null _

/-! ## Fields -/

theorem RemoteSource.faithful : Faithful RemoteSource.decode? RemoteSource.encode where
  reads_back {v r} h := by
    simp only [decode?, Option.bind_eq_bind, Option.bind_eq_some_iff, Option.pure_def,
      Option.some.injEq] at h ⊢
    obtain ⟨m, -, url, hurl, method, hmethod, headers, hheaders, body, hbody, dependsOn,
      hdependsOn, itemsPath, hitemsPath, labelKey, hlabelKey, valueKey, hvalueKey, rfl⟩ := h
    refine ⟨_, record?_object .., url, faithful_text.need hurl ?_,
      method, faithful_text.orElse hmethod rfl ?_,
      headers, faithful_text.dict.orEmpty hheaders ?_,
      body, faithful_value.maybe hbody ?_,
      dependsOn, faithful_text.list.orEmpty hdependsOn ?_,
      itemsPath, faithful_text.maybe hitemsPath ?_,
      labelKey, faithful_text.orElse hlabelKey rfl ?_,
      valueKey, faithful_text.orElse hvalueKey rfl ?_, rfl⟩
    all_goals simp
  ne_null _ _ := Encode.object_ne_null _

theorem ChoiceSource.faithful : Faithful ChoiceSource.decode? ChoiceSource.encode where
  reads_back {v c} h := by
    unfold decode? at h
    split at h
    · obtain ⟨choices, hchoices, rfl⟩ := Option.map_eq_some_iff.1 h
      exact congrArg (Option.map listed) (Choice.faithful.list.reads_back hchoices)
    · obtain ⟨source, hsource, rfl⟩ := Option.map_eq_some_iff.1 h
      exact congrArg (Option.map remote) (RemoteSource.faithful.reads_back hsource)
  ne_null {v c} _ _ := by
    cases c with
    | listed choices => exact nofun
    | remote source => exact Encode.object_ne_null _

theorem Field.faithful : Faithful Field.decode? Field.encode where
  reads_back {v f} h := by
    simp only [decode?, Option.bind_eq_bind, Option.bind_eq_some_iff, Option.pure_def,
      Option.some.injEq] at h ⊢
    obtain ⟨m, -, id, hid, kind, hkind, label, hlabel, placeholder, hplaceholder, helpText,
      hhelpText, defaultValue, hdefaultValue, disabled, hdisabled, visibleWhen, hvisibleWhen,
      rules, hrules, validators, hvalidators, choices, hchoices, rfl⟩ := h
    refine ⟨_, record?_object .., id, faithful_text.need hid ?_,
      kind, (faithful_case FieldKind.ofName?_name).need hkind ?_,
      label, faithful_text.maybe hlabel ?_,
      placeholder, faithful_text.maybe hplaceholder ?_,
      helpText, faithful_text.maybe hhelpText ?_,
      defaultValue, faithful_value.maybe hdefaultValue ?_,
      disabled, faithful_flag.orElse hdisabled rfl ?_,
      visibleWhen, Expr.faithful.maybe hvisibleWhen ?_,
      rules, Rule.faithful.list.orEmpty hrules ?_,
      validators, Validator.faithful.list.orEmpty hvalidators ?_,
      choices, ChoiceSource.faithful.maybe hchoices ?_, rfl⟩
    all_goals simp
  ne_null _ _ := Encode.object_ne_null _

/-! ## Groups and schemas -/

theorem Row.faithful : Faithful Row.decode? Row.encode where
  reads_back {v r} h := by
    simp only [decode?, Option.bind_eq_bind, Option.bind_eq_some_iff, Option.pure_def,
      Option.some.injEq] at h ⊢
    obtain ⟨m, -, fields, hfields, rfl⟩ := h
    refine ⟨_, record?_object .., fields, faithful_text.list.need hfields ?_, rfl⟩
    simp [Value.strings]
  ne_null _ _ := Encode.object_ne_null _

theorem Subsection.faithful : Faithful Subsection.decode? Subsection.encode where
  reads_back {v g} h := by
    simp only [decode?, Option.bind_eq_bind, Option.bind_eq_some_iff, Option.pure_def,
      Option.some.injEq] at h ⊢
    obtain ⟨m, -, id, hid, title, htitle, visibleWhen, hvisibleWhen, disabled, hdisabled, fields,
      hfields, rows, hrows, rfl⟩ := h
    refine ⟨_, record?_object .., id, faithful_text.need hid ?_,
      title, faithful_text.maybe htitle ?_,
      visibleWhen, Expr.faithful.maybe hvisibleWhen ?_,
      disabled, faithful_flag.orElse hdisabled rfl ?_,
      fields, Field.faithful.list.orEmpty hfields ?_,
      rows, Row.faithful.list.orEmpty hrows ?_, rfl⟩
    all_goals simp
  ne_null _ _ := Encode.object_ne_null _

theorem Section.faithful : Faithful Section.decode? Section.encode where
  reads_back {v g} h := by
    simp only [decode?, Option.bind_eq_bind, Option.bind_eq_some_iff, Option.pure_def,
      Option.some.injEq] at h ⊢
    obtain ⟨m, -, id, hid, title, htitle, description, hdescription, visibleWhen, hvisibleWhen,
      disabled, hdisabled, fields, hfields, rows, hrows, subsections, hsubsections, rfl⟩ := h
    refine ⟨_, record?_object .., id, faithful_text.need hid ?_,
      title, faithful_text.maybe htitle ?_,
      description, faithful_text.maybe hdescription ?_,
      visibleWhen, Expr.faithful.maybe hvisibleWhen ?_,
      disabled, faithful_flag.orElse hdisabled rfl ?_,
      fields, Field.faithful.list.orEmpty hfields ?_,
      rows, Row.faithful.list.orEmpty hrows ?_,
      subsections, Subsection.faithful.list.orEmpty hsubsections ?_, rfl⟩
    all_goals simp
  ne_null _ _ := Encode.object_ne_null _

theorem Submission.faithful : Faithful Submission.decode? Submission.encode where
  reads_back {v d} h := by
    simp only [decode?, Option.bind_eq_bind, Option.bind_eq_some_iff, Option.pure_def,
      Option.some.injEq] at h ⊢
    obtain ⟨m, -, stripHidden, hstripHidden, stripDisabled, hstripDisabled, transform,
      htransform, rfl⟩ := h
    refine ⟨_, record?_object .., stripHidden, faithful_flag.orElse hstripHidden rfl ?_,
      stripDisabled, faithful_flag.orElse hstripDisabled rfl ?_,
      transform, faithful_text.maybe htransform ?_, rfl⟩
    all_goals simp
  ne_null _ _ := Encode.object_ne_null _

theorem Schema.faithful : Faithful Schema.decode? Schema.encode where
  reads_back {v s} h := by
    simp only [decode?, Option.bind_eq_bind, Option.bind_eq_some_iff, Option.pure_def,
      Option.some.injEq] at h ⊢
    obtain ⟨m, -, version, hversion, id, hid, title, htitle, sections, hsections, rules, hrules,
      globals, hglobals, navigation, hnavigation, submission, hsubmission, rfl⟩ := h
    refine ⟨_, record?_object .., version, faithful_text.orElse hversion rfl ?_,
      id, faithful_text.maybe hid ?_,
      title, faithful_text.maybe htitle ?_,
      sections, Section.faithful.list.need hsections ?_,
      rules, Rule.faithful.list.orEmpty hrules ?_,
      globals, faithful_value.dict.orEmpty hglobals ?_,
      navigation, faithful_value.maybe hnavigation ?_,
      submission, Submission.faithful.orElse hsubmission rfl ?_, rfl⟩
    all_goals simp [Dict.mapValues]
  ne_null _ _ := Encode.object_ne_null _

namespace Schema

/-- A schema that was read is written as a document that is read as the same schema, in all its
parts, and is written as the same document again. -/
theorem decode?_encode_of_decode? {v : Value} {s : Schema} (h : decode? v = some s) :
    decode? s.encode = some s ∧ (decode? s.encode).map encode = some s.encode := by
  have hread : decode? s.encode = some s := faithful.reads_back h
  exact ⟨hread, congrArg (Option.map encode) hread⟩

/-- A document with second names, short forms, nulls, empty lists, unknown members and repeated
keys. -/
def looseDocument : Value := .object [
  ("title", .null),
  ("remark", .string "ignored"),
  ("globals", .object [
    ("b", .number (.float ⟨true, 0⟩)),
    ("a", .null),
    ("b", .object [("y", .bool true), ("x", .array []), ("y", .bool false)])]),
  ("formRules", .array [.object [
    ("then", .object [
      ("value", .string "Too late"), ("target", .string "day"), ("type", .string "SET_ERROR")]),
    ("else", .array []),
    ("when", .object [("!", .object [("var", .array [.string "day"])])]),
    ("id", .string "late")]]),
  ("sections", .array [.object [
    ("id", .string "main"),
    ("rows", .array []),
    ("fields", .array [
      .object [
        ("type", .object [("boolean", .null)]),
        ("id", .string "gift"),
        ("rules", .array [.object [
          ("id", .string "wrap"),
          ("when", .object [("?:", .array [
            .object [("isGift", .object [])],
            .object [("var", .array [.string "gift", .object [("d", .null), ("c", .null)]])]])]),
          ("then", .array [
            .object [("type", .string "FLASH"), ("colour", .string "red")],
            .object [("target", .string "day"), ("type", .number (.int 10))]])]])],
      .object [
        ("id", .string "day"),
        ("type", .string "select"),
        ("defaultValue", .null),
        ("visibilityRule", .bool true),
        ("options", .object [
          ("headers", .object []), ("dependsOn", .array [.string "gift"]),
          ("url", .string "/days"), ("body", .null)]),
        ("validators", .array [.object [("value", .null), ("type", .string "required")]])],
      .object [
        ("options", .array [.object [("value", .null), ("label", .string "none")]]),
        ("id", .string "size"),
        ("type", .string "radio"),
        ("label", .null)]])]])]

theorem looseDocument_reads_back :
    ∃ s, decode? looseDocument = some s ∧ s.fields.length = 3 ∧ s.encode.members.keys =
      ["formRules", "globals", "sections", "submission", "version"] ∧
      decode? s.encode = some s ∧ (decode? s.encode).map encode = some s.encode := by
  obtain ⟨s, hs⟩ := Option.isSome_iff_exists.1
    (show (decode? looseDocument).isSome = true by decide +kernel)
  have hfields : (decode? looseDocument).map (·.fields.length) = some 3 := by decide +kernel
  have hkeys : (decode? looseDocument).map (·.encode.members.keys) =
      some ["formRules", "globals", "sections", "submission", "version"] := by decide +kernel
  rw [hs] at hfields hkeys
  exact ⟨s, hs, Option.some.inj hfields, Option.some.inj hkeys, decode?_encode_of_decode? hs⟩

end Schema

end FormEngine
