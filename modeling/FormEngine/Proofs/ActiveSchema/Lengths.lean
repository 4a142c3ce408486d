import FormEngine.Proofs.ActiveSchema.Payload
import FormEngine.Proofs.Json.Record

/-!
# Bounds on lengths

A validator about lengths lets a range of lengths pass. A value passes all of them when its length
lies in every range; the schema has one least and one greatest length only, those of the last
validators that have one. So the schema asks for nothing that validation does not ask for, and it
asks for all of it exactly when its two bounds leave no length to the others to refuse
(`lengths_exported`).
-/

namespace FormEngine

open Encode

@[simp] theorem Dict.get?_ofList_nil {α : Type} (key : String) :
    (ofList ([] : List (String × α))).get? key = none := rfl

/-! ## Values of the kind of a field -/

/-- A text of a field with one value, or an array of a field with many. -/
inductive FieldKind.Holds (k : FieldKind) : Value → Prop where
  | text (h : k.isMulti = false) (text : String) : Holds k (.string text)
  | items (h : k.isMulti = true) (items : List Value) : Holds k (.array items)

namespace FieldKind

variable {k : FieldKind} {x : Value} {n : Nat}

theorem Holds.exists_length (h : k.Holds x) (hgiven : x.isMissing = false) :
    ∃ n, 1 ≤ n ∧ x.length? = some n := by
  cases h with
  | text _ text =>
    refine ⟨text.length, Nat.one_le_iff_ne_zero.2 fun hzero => ?_, rfl⟩
    obtain rfl : text = "" := String.length_eq_zero_iff.1 hzero
    cases hgiven
  | items _ items =>
    refine ⟨items.length, Nat.one_le_iff_ne_zero.2 fun hzero => ?_, rfl⟩
    obtain rfl : items = [] := List.length_eq_zero_iff.1 hzero
    cases hgiven

theorem exists_holds (k : FieldKind) (hn : 1 ≤ n) :
    ∃ x, k.Holds x ∧ x.isMissing = false ∧ x.length? = some n := by
  obtain ⟨m, rfl⟩ := Nat.exists_eq_add_of_le' hn
  cases hk : k.isMulti with
  | true => exact ⟨_, .items hk (List.replicate (m + 1) .null), rfl, by simp [Value.length?]⟩
  | false =>
    refine ⟨_, .text hk (String.ofList (List.replicate (m + 1) 'a')), ?_, by simp [Value.length?]⟩
    have hblank : Text.trim (List.replicate (m + 1) 'a') = List.replicate (m + 1) 'a' :=
      Text.trim_eq_self fun c hc => List.eq_of_mem_replicate hc ▸ by decide
    rw [Value.isMissing, String.toList_ofList, hblank]
    rfl

end FieldKind

/-! ## What validators let pass -/

@[simp] theorem Verdict.ofBool_eq_passed {b : Bool} : ofBool b = .passed ↔ b = true := by
  cases b <;> simp [ofBool]

namespace Validator

variable {v : Validator} {vs : List Validator} {checks : Dict HostCheck} {values : Dict Value}
  {field : Field} {x : Value} {k : FieldKind} {n : Nat}

/-- A validator is about lengths. -/
def IsLength (v : Validator) : Prop := v.kind ∈ [.minLength, .maxLength, .length]

/-- The lengths that a validator lets pass. -/
def lengthRange (v : Validator) : LengthRange :=
  match v.kind with
  | .minLength => ⟨v.boundOrNull.lengthBound?, none⟩
  | .maxLength => ⟨none, v.boundOrNull.lengthBound?⟩
  | .length => v.boundOrNull.lengthRange
  | _ => ⟨none, none⟩

theorem has_lengthRange_of_not_isLength (h : ¬ v.IsLength) (n : Nat) : v.lengthRange.Has n := by
  have hnone : v.lengthRange = ⟨none, none⟩ := by
    unfold IsLength at h
    unfold lengthRange
    cases hkind : v.kind <;> simp_all
  rw [hnone]
  exact ⟨nofun, nofun⟩

theorem judge_eq_passed_iff (hv : v.IsLength) (hgiven : x.isMissing = false)
    (hn : x.length? = some n) :
    v.judge checks values field x = .passed ↔ v.lengthRange.Has n := by
  simp only [IsLength, List.mem_cons, List.not_mem_nil, or_false] at hv
  unfold judge judgeGiven lengthRange hasLength
  rw [hgiven, hn]
  rcases hv with hkind | hkind | hkind
  · simp [hkind, meets_iff, LengthRange.Has, atLeast]
  · simp [hkind, meets_iff, LengthRange.Has, atMost]
  · simp [hkind, fits_iff]

/-! ## What validators ask of the schema -/

/-- A length in a schema. -/
def lengthArgument (n : Nat) : Value := .number (.int n)

theorem get?_lengthKeyword (key : String) (bound : Option Value) (other : String) :
    (Dict.ofList (Value.lengthKeyword key bound)).get? other =
      if key = other then (bound.bind Value.lengthBound?).map lengthArgument else none :=
  get?_whenSome ..

theorem bind_bound (v : Validator) :
    v.bound.bind Value.lengthBound? = v.boundOrNull.lengthBound? := by
  unfold boundOrNull
  cases v.bound <;> rfl

theorem get?_keywords (v : Validator) (k : FieldKind) :
    (Dict.ofList (v.keywords k)).get? k.lengthKeywords.1 =
        v.lengthRange.least.map lengthArgument ∧
      (Dict.ofList (v.keywords k)).get? k.lengthKeywords.2 =
        v.lengthRange.most.map lengthArgument := by
  have hkeys : k.lengthKeywords = ("minItems", "maxItems") ∨
      k.lengthKeywords = ("minLength", "maxLength") := by
    unfold FieldKind.lengthKeywords
    split <;> simp
  unfold lengthRange
  cases hkind : v.kind with
  | length =>
    obtain ⟨least, most, hkeywords, hrange⟩ := keywords_of_length hkind k
    rw [hkeywords, hrange]
    rcases hkeys with h | h <;> simp [h, get?_lengthKeyword]
  | _ =>
    unfold keywords
    rcases hkeys with h | h <;> simp [h, hkind, get?_lengthKeyword, bind_bound]

/-- The range between the last least and the last greatest length of some validators. -/
def lastRange (vs : List Validator) : LengthRange :=
  ⟨(vs.filterMap (·.lengthRange.least)).getLast?, (vs.filterMap (·.lengthRange.most)).getLast?⟩

theorem lastRange_cons (v : Validator) (rest : List Validator) :
    (lastRange (v :: rest)).least = (lastRange rest).least.or v.lengthRange.least ∧
      (lastRange (v :: rest)).most = (lastRange rest).most.or v.lengthRange.most := by
  simp only [lastRange, List.getLast?_filterMap, List.reverse_cons, List.findSome?_append,
    List.findSome?_singleton, and_self]

theorem get?_flatMap_keywords (vs : List Validator) (k : FieldKind) :
    (Dict.ofList (vs.flatMap (·.keywords k))).get? k.lengthKeywords.1 =
        (lastRange vs).least.map lengthArgument ∧
      (Dict.ofList (vs.flatMap (·.keywords k))).get? k.lengthKeywords.2 =
        (lastRange vs).most.map lengthArgument := by
  induction vs with
  | nil => exact ⟨rfl, rfl⟩
  | cons v rest ih =>
    obtain ⟨hleast, hmost⟩ := get?_keywords v k
    obtain ⟨hlastLeast, hlastMost⟩ := lastRange_cons v rest
    rw [List.flatMap_cons, Dict.get?_ofList_append, Dict.get?_ofList_append, ih.1, ih.2, hleast,
      hmost, hlastLeast, hlastMost]
    exact ⟨Option.map_or.symm, Option.map_or.symm⟩

theorem has_lastRange (h : ∀ v ∈ vs, v.lengthRange.Has n) : (lastRange vs).Has n := by
  constructor
  · intro b hb
    obtain ⟨v, hv, hleast⟩ := List.mem_filterMap.1 (List.mem_of_getLast? hb)
    exact (h v hv).1 b hleast
  · intro b hb
    obtain ⟨v, hv, hmost⟩ := List.mem_filterMap.1 (List.mem_of_getLast? hb)
    exact (h v hv).2 b hmost

/-- With one least and one greatest length at most, the last ones are all there are. -/
theorem has_of_has_lastRange (hleast : (vs.filterMap (·.lengthRange.least)).length ≤ 1)
    (hmost : (vs.filterMap (·.lengthRange.most)).length ≤ 1) (h : (lastRange vs).Has n) :
    ∀ v ∈ vs, v.lengthRange.Has n := by
  have hsole : ∀ {bounds : List Nat}, bounds.length ≤ 1 → ∀ b ∈ bounds, b ∈ bounds.getLast? := by
    intro bounds hlength b hb
    match bounds, hlength with
    | [c], _ => exact congrArg some (List.mem_singleton.1 hb).symm
  intro v hv
  exact ⟨fun b hb => h.1 b (hsole hleast b (List.mem_filterMap.2 ⟨v, hv, hb⟩)),
    fun b hb => h.2 b (hsole hmost b (List.mem_filterMap.2 ⟨v, hv, hb⟩))⟩

end Validator

/-! ## What keywords ask of a value -/

namespace Dialect

variable {d : Dialect} {k : FieldKind} {x : Value} {n b : Nat}

/-- The keywords about lengths. -/
def lengthNames : List String := ["minLength", "maxLength", "minItems", "maxItems"]

theorem mem_lengthNames (k : FieldKind) :
    k.lengthKeywords.1 ∈ lengthNames ∧ k.lengthKeywords.2 ∈ lengthNames := by
  unfold FieldKind.lengthKeywords
  split <;> decide

theorem bounds_least :
    (Validator.lengthArgument b).bounds Number.le (some (.int (n : Nat))) = true ↔ b ≤ n := by
  rw [Validator.lengthArgument, Value.bounds_iff]
  simp only [Option.some.injEq, forall_eq', Number.le_int, Int.ofNat_le]

theorem bounds_most :
    (Validator.lengthArgument b).bounds Number.ge (some (.int (n : Nat))) = true ↔ n ≤ b := by
  rw [Validator.lengthArgument, Value.bounds_iff]
  simp only [Option.some.injEq, forall_eq', Number.ge_int, Int.ofNat_le]

/-- On a value of the kind of a field, the keywords of the field bound its length, and the two
others say nothing. -/
theorem asserts_length (hx : k.Holds x) (hn : x.length? = some n) :
    (∀ b, d.asserts k.lengthKeywords.1 (Validator.lengthArgument b) x = true ↔ b ≤ n) ∧
    (∀ b, d.asserts k.lengthKeywords.2 (Validator.lengthArgument b) x = true ↔ n ≤ b) ∧
    ∀ name ∈ lengthNames, name ≠ k.lengthKeywords.1 → name ≠ k.lengthKeywords.2 →
      ∀ argument, d.asserts name argument x = true := by
  cases hx with
  | text hk text =>
    obtain rfl : text.length = n := Option.some.inj hn
    have hkeys : k.lengthKeywords = ("minLength", "maxLength") := by
      simp [FieldKind.lengthKeywords, hk]
    rw [hkeys]
    refine ⟨fun b => bounds_least, fun b => bounds_most,
      fun name hname hleast hmost argument => ?_⟩
    simp only [lengthNames, List.mem_cons, List.not_mem_nil, or_false] at hname
    rcases hname with rfl | rfl | rfl | rfl
    · exact absurd rfl hleast
    · exact absurd rfl hmost
    · simp [asserts, Value.bounds, Value.itemCount?]
    · simp [asserts, Value.bounds, Value.itemCount?]
  | items hk items =>
    obtain rfl : items.length = n := Option.some.inj hn
    have hkeys : k.lengthKeywords = ("minItems", "maxItems") := by
      simp [FieldKind.lengthKeywords, hk]
    rw [hkeys]
    refine ⟨fun b => bounds_least, fun b => bounds_most,
      fun name hname hleast hmost argument => ?_⟩
    simp only [lengthNames, List.mem_cons, List.not_mem_nil, or_false] at hname
    rcases hname with rfl | rfl | rfl | rfl
    · simp [asserts, Value.bounds, Value.textLength?]
    · simp [asserts, Value.bounds, Value.textLength?]
    · exact absurd rfl hleast
    · exact absurd rfl hmost

end Dialect

namespace Snapshot

variable {s : Snapshot} {checks : Dict HostCheck} {d : Dialect} {f : Field} {x : Value} {n : Nat}

/-- The active validators of a field that are about lengths accept a value. -/
def MeetsLengths (s : Snapshot) (checks : Dict HostCheck) (f : Field) (x : Value) : Prop :=
  ∀ v ∈ s.activeOf f, v.IsLength → v.judge checks s.values f x = .passed

/-- A value has the keywords about lengths that the schema of a field has. -/
def HasLengths (s : Snapshot) (d : Dialect) (f : Field) (x : Value) : Prop :=
  ∀ e ∈ s.keywordsOf f, e.1 ∈ Dialect.lengthNames → d.asserts e.1 e.2 x = true

theorem meetsLengths_iff (hgiven : x.isMissing = false) (hn : x.length? = some n) :
    s.MeetsLengths checks f x ↔ ∀ v ∈ s.activeOf f, v.lengthRange.Has n := by
  refine forall₂_congr fun v _ => ?_
  by_cases hv : v.IsLength
  · rw [Validator.judge_eq_passed_iff hv hgiven hn, forall_prop_of_true hv]
  · exact iff_of_true (absurd · hv) (Validator.has_lengthRange_of_not_isLength hv n)

theorem get?_keywordsOf_lengths (s : Snapshot) (f : Field) :
    (s.keywordsOf f).get? f.kind.lengthKeywords.1 =
        (Validator.lastRange (s.activeOf f)).least.map Validator.lengthArgument ∧
      (s.keywordsOf f).get? f.kind.lengthKeywords.2 =
        (Validator.lastRange (s.activeOf f)).most.map Validator.lengthArgument := by
  have hkind : ∀ name ∈ Dialect.lengthNames,
      (Dict.ofList (f.kind.keywords (s.shownChoices f.id))).get? name = none := by
    intro name hname
    refine Dict.get?_eq_none_iff.2 fun hmem => ?_
    obtain ⟨e, he, rfl⟩ := List.mem_map.1 ((Dict.mem_keys_ofList _ _).1 hmem)
    rcases FieldKind.key_of_mem_keywords he with h | h | h | ⟨h, -⟩ <;>
      simp [h, Dialect.lengthNames] at hname
  have hactive : ∀ name ∈ Dialect.lengthNames, (s.keywordsOf f).get? name =
      (Dict.ofList ((s.activeOf f).flatMap (·.keywords f.kind))).get? name := by
    intro name hname
    have hnot : "title" ≠ name ∧ "description" ≠ name ∧ "default" ≠ name := by
      refine ⟨?_, ?_, ?_⟩ <;> rintro rfl <;> simp [Dialect.lengthNames] at hname
    refine (congrArg (Dict.get? · name) (show s.keywordsOf f = Dict.ofList (List.flatten _)
      from rfl)).trans ?_
    simp [hkind name hname, hnot.1, hnot.2.1, hnot.2.2]
  obtain ⟨hleast, hmost⟩ := Dialect.mem_lengthNames f.kind
  rw [hactive _ hleast, hactive _ hmost]
  exact Validator.get?_flatMap_keywords _ _

/-- The keywords about lengths that a schema has ask for a length between its two bounds. -/
theorem hasLengths_iff (hx : f.kind.Holds x) (hn : x.length? = some n) :
    s.HasLengths d f x ↔ (Validator.lastRange (s.activeOf f)).Has n := by
  obtain ⟨hleast, hmost⟩ := get?_keywordsOf_lengths s f
  have hmem {e : String × Value} : e ∈ s.keywordsOf f ↔ (s.keywordsOf f).get? e.1 = some e.2 :=
    (Dict.sorted_ofList _).mem_iff
  obtain ⟨hasksLeast, hasksMost, hother⟩ := Dialect.asserts_length (d := d) hx hn
  obtain ⟨hleastName, hmostName⟩ := Dialect.mem_lengthNames f.kind
  constructor
  · intro h
    constructor
    · intro b hb
      refine (hasksLeast b).1 (h (f.kind.lengthKeywords.1, _) (hmem.2 ?_) hleastName)
      rw [hleast, show (Validator.lastRange (s.activeOf f)).least = some b from hb]
      rfl
    · intro b hb
      refine (hasksMost b).1 (h (f.kind.lengthKeywords.2, _) (hmem.2 ?_) hmostName)
      rw [hmost, show (Validator.lastRange (s.activeOf f)).most = some b from hb]
      rfl
  · rintro ⟨habove, hbelow⟩ ⟨name, argument⟩ he hname
    rw [hmem] at he
    by_cases hisLeast : name = f.kind.lengthKeywords.1
    · subst hisLeast
      obtain ⟨b, hb, rfl⟩ := Option.map_eq_some_iff.1 (hleast.symm.trans he)
      exact (hasksLeast b).2 (habove b hb)
    · by_cases hisMost : name = f.kind.lengthKeywords.2
      · subst hisMost
        obtain ⟨b, hb, rfl⟩ := Option.map_eq_some_iff.1 (hmost.symm.trans he)
        exact (hasksMost b).2 (hbelow b hb)
      · exact hother name hname hisLeast hisMost argument

/-- The lengths that validation and the schema of a live field ask for, of given values of the kind
of the field. A value that all validators about lengths accept has all keywords about lengths.
The converse, that validation refuses no value for a length that the schema allows, holds exactly
when every positive length between the last least and the last greatest one that active validators
set lies in the ranges of them all, so at least when no end is set twice. -/
theorem lengths_exported (hs : s.Reachable) (checks : Dict HostCheck) (d : Dialect)
    (hf : f ∈ s.form.schema.fields) (hvisible : s.isVisible f.id = true)
    (henabled : s.isDisabled f.id = false) :
    (∃ properties : Dict Value,
      s.activeSchema.members.get? "properties" = some (.object properties) ∧
        properties.get? f.id = some (.object (s.keywordsOf f))) ∧
    (∀ x, f.kind.Holds x → x.isMissing = false → s.MeetsLengths checks f x →
      s.HasLengths d f x) ∧
    ((∀ x, f.kind.Holds x → x.isMissing = false →
        (s.MeetsLengths checks f x ↔ s.HasLengths d f x)) ↔
      ∀ n, 1 ≤ n → (Validator.lastRange (s.activeOf f)).Has n →
        ∀ v ∈ s.activeOf f, v.lengthRange.Has n) ∧
    (((s.activeOf f).filterMap (·.lengthRange.least)).length ≤ 1 →
      ((s.activeOf f).filterMap (·.lengthRange.most)).length ≤ 1 →
      ∀ x, f.kind.Holds x → x.isMissing = false →
        (s.MeetsLengths checks f x ↔ s.HasLengths d f x)) := by
  have hlive : f ∈ s.liveFields := mem_liveFields.2 ⟨hf, hvisible, henabled⟩
  have hcovers : (∀ x, f.kind.Holds x → x.isMissing = false →
        (s.MeetsLengths checks f x ↔ s.HasLengths d f x)) ↔
      ∀ n, 1 ≤ n → (Validator.lastRange (s.activeOf f)).Has n →
        ∀ v ∈ s.activeOf f, v.lengthRange.Has n := by
    constructor
    · intro hagree n hpos hlast
      obtain ⟨x, hx, hgiven, hn⟩ := f.kind.exists_holds hpos
      have hmeets := (hagree x hx hgiven).2 ((hasLengths_iff hx hn).2 hlast)
      exact (meetsLengths_iff hgiven hn).1 hmeets
    · intro hlasts x hx hgiven
      obtain ⟨n, hpos, hn⟩ := hx.exists_length hgiven
      rw [meetsLengths_iff hgiven hn, hasLengths_iff hx hn]
      exact ⟨Validator.has_lastRange, hlasts n hpos⟩
  refine ⟨⟨_, get?_activeSchema_properties s, ?_⟩, fun x hx hgiven => ?_, hcovers, ?_⟩
  · exact (Dict.get?_ofList_eq_some_iff (nodup_liveFields hs.consistent _)).2
      (List.mem_map.2 ⟨f, hlive, rfl⟩)
  · obtain ⟨n, -, hn⟩ := hx.exists_length hgiven
    rw [meetsLengths_iff hgiven hn, hasLengths_iff hx hn]
    exact Validator.has_lastRange
  · intro hleast hmost
    exact hcovers.2 fun n _ => Validator.has_of_has_lastRange hleast hmost

def pinField : Field where
  id := "pin"
  kind := .password
  validators := [
    { kind := .minLength, bound := some (.number (.int 2)) },
    { kind := .pattern, bound := some (.string "^[0-9]*$") },
    { kind := .length
      bound := some (.object [("max", .number (.int 8)), ("min", .string "3")]) }]

def pinForm : Schema where
  sections := [{ id := "card", fields := [pinField] }]

/-- The least length is set twice and the later one is the stricter, so the schema of the pin asks
for the lengths that validation asks for. -/
theorem pinForm_lengths :
    ∃ s, build pinForm [] [] {} = .ok s ∧
      (s.activeOf pinField).map (·.lengthRange) =
        [⟨some 2, none⟩, ⟨none, none⟩, ⟨some 3, some 8⟩] ∧
      ∀ x, pinField.kind.Holds x → x.isMissing = false →
        (s.MeetsLengths [] pinField x ↔ s.HasLengths Dialect.validators pinField x) := by
  have hbuild : build pinForm [] [] {} = .ok _ := build_eq_start (by decide +kernel)
  have hranges : ((Form.ofSchema pinForm [] [] {}).start.activeOf pinField).map (·.lengthRange) =
      [⟨some 2, none⟩, ⟨none, none⟩, ⟨some 3, some 8⟩] := by decide +kernel
  have hlast : Validator.lastRange ((Form.ofSchema pinForm [] [] {}).start.activeOf pinField) =
      ⟨some 3, some 8⟩ := by decide +kernel
  obtain ⟨-, -, hiff, -⟩ := lengths_exported ⟨pinForm, [], [], {}, _, hbuild, .refl⟩ []
    Dialect.validators (by rw [Form.form_start]; exact List.mem_singleton.2 rfl)
    (by decide +kernel) (by decide +kernel)
  refine ⟨_, hbuild, hranges, hiff.2 fun n _ hn => ?_⟩
  rw [hlast] at hn
  have hall : ∀ r ∈ ((Form.ofSchema pinForm [] [] {}).start.activeOf pinField).map (·.lengthRange),
      r.Has n := by
    simp only [hranges]
    simp [LengthRange.Has] at hn ⊢
    omega
  exact fun v hv => hall _ (List.mem_map_of_mem hv)

def nickField : Field where
  id := "nick"
  kind := .text
  defaultValue := some (.string "abcd")
  validators := [
    { kind := .minLength, bound := some (.number (.int 5)) },
    { kind := .minLength, bound := some (.number (.int 3)) }]

def nickForm : Schema where
  sections := [{ id := "card", fields := [nickField] }]

theorem nickForm_lengths_differ :
    ∃ s : Snapshot, s.Reachable ∧ nickField ∈ s.liveFields ∧
      nickField.kind.Holds (.string "abcd") ∧ (Value.string "abcd").isMissing = false ∧
      (s.validate []).errors.get? "nick" =
        some ⟨.minLength, "Must be at least 5 characters"⟩ ∧
      ¬ s.MeetsLengths [] nickField (.string "abcd") ∧
      ∀ d : Dialect, s.HasLengths d nickField (.string "abcd") := by
  have hbuild : build nickForm [] [] {} = .ok _ := build_eq_start (by decide +kernel)
  have hlive : nickField ∈ (Form.ofSchema nickForm [] [] {}).start.liveFields :=
    mem_liveFields.2 ⟨by rw [Form.form_start]; exact List.mem_singleton.2 rfl, by decide +kernel,
      by decide +kernel⟩
  have hranges : ((Form.ofSchema nickForm [] [] {}).start.activeOf nickField).map
      (·.lengthRange) = [⟨some 5, none⟩, ⟨some 3, none⟩] := by decide +kernel
  have hlast : Validator.lastRange ((Form.ofSchema nickForm [] [] {}).start.activeOf nickField) =
      ⟨some 3, none⟩ := by decide +kernel
  have hx : nickField.kind.Holds (.string "abcd") := .text rfl "abcd"
  have hgiven : (Value.string "abcd").isMissing = false := by decide +kernel
  refine ⟨_, ⟨nickForm, [], [], {}, _, hbuild, .refl⟩, hlive, hx, hgiven, by decide +kernel, ?_,
    fun d => (hasLengths_iff (n := 4) hx rfl).2 ?_⟩
  · rw [meetsLengths_iff (n := 4) hgiven rfl]
    intro hall
    have hfive : (⟨some 5, none⟩ : LengthRange) ∈
        ((Form.ofSchema nickForm [] [] {}).start.activeOf nickField).map (·.lengthRange) := by
      rw [hranges]
      exact List.mem_cons_self
    obtain ⟨v, hv, hrange⟩ := List.mem_map.1 hfive
    have hleast := (hall v hv).1 5 (by rw [hrange]; rfl)
    omega
  · rw [hlast]
    simp [LengthRange.Has]

end Snapshot

end FormEngine
