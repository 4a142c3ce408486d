import FormEngine.Proofs.ActiveSchema.Instance

/-!
# Validators and their keywords

A validator judges a value in its own way: a missing value passes, numbers are compared as doubles,
a pattern that cannot be read passes. A keyword of the schema knows nothing of this. `settles` says
where the two ways lead to the same, and there a value that its validators do not fail has all
their keywords (`Validator.asserts_of_not_failed`).
-/

namespace FormEngine

open Encode

/-- A least and a greatest length, where there are any. -/
structure LengthRange where
  least : Option Nat
  most : Option Nat
  deriving DecidableEq, Repr

/-- A length lies in the range. -/
def LengthRange.Has (r : LengthRange) (n : Nat) : Prop :=
  (∀ b ∈ r.least, b ≤ n) ∧ ∀ b ∈ r.most, n ≤ b

theorem mem_whenSome {α : Type} {key : String} {encode : α → Value} {a : Option α}
    {e : String × Value} (h : e ∈ whenSome key encode a) :
    ∃ b, a = some b ∧ e = (key, encode b) := by
  cases a with
  | none => cases h
  | some b => exact ⟨b, rfl, List.mem_singleton.1 h⟩

namespace Value

theorem numberBound?_eq_some {b argument : Value} (h : b.numberBound? = some argument) :
    ∃ n, argument = .number n ∧ b.toNumber? = some (.real n.toDouble) := by
  unfold numberBound? at h
  split at h
  · cases h
    exact ⟨_, rfl, rfl⟩
  · split at h
    · rename_i double hnumber
      split at h
      · cases h
        exact ⟨.float double, rfl, hnumber⟩
      · cases h
    · cases h

theorem eq_number {v : Value} {n : Number} (h : v.number? = some n) : v = .number n := by
  cases v with
  | number m => rw [Option.some.inj h]
  | _ => cases h

theorem eq_string {v : Value} {text : String} (h : v.string? = some text) : v = .string text := by
  cases v with
  | string other => rw [Option.some.inj h]
  | _ => cases h

theorem order?_number {b : Value} {n m : Number} (h : b.toNumber? = some (.real m.toDouble)) :
    (number n).order? b = some (compare n.toDouble.key m.toDouble.key) := by
  unfold order? numericPair?
  rw [h]
  rfl

theorem bounds_iff {relation : Number → Number → Bool} {b : Number} {size : Option Number} :
    (number b).bounds relation size = true ↔ ∀ n, size = some n → relation b n = true := by
  cases size <;> simp [bounds, number?]

theorem bounds_of_length (relation : Number → Number → Bool) {b : Number} {v : Value}
    (h : ∀ length, v.length? = some length → relation b (.int (length : Nat)) = true) :
    (number b).bounds relation v.itemCount? = true ∧
      (number b).bounds relation v.textLength? = true := by
  rw [bounds_iff, bounds_iff]
  constructor
  · intro n hn
    cases v with
    | array items =>
      rw [← Option.some.inj hn]
      exact h _ rfl
    | _ => cases hn
  · intro n hn
    cases v with
    | string text =>
      rw [← Option.some.inj hn]
      exact h _ rfl
    | _ => cases hn

/-- The lengths that an exact bound or a bound on both sides lets pass. -/
def lengthRange : Value → LengthRange
  | .object range =>
    ⟨(Dict.get? range "min").bind lengthBound?, (Dict.get? range "max").bind lengthBound?⟩
  | exact => ⟨exact.lengthBound?, exact.lengthBound?⟩

theorem mem_lengthKeyword {key : String} {bound : Option Value} {e : String × Value}
    (h : e ∈ lengthKeyword key bound) :
    ∃ n, bound.bind lengthBound? = some n ∧ e = (key, .number (.int (n : Nat))) :=
  mem_whenSome h

end Value

namespace Dialect

/-- Whether a pattern says the same of a text as a validator that has the pattern. -/
def agreesOn (d : Dialect) (pattern text : String) : Bool :=
  (Pattern.Regex.ofText? pattern).any fun r => d.finds pattern text == r.occursIn text

/-- The reading of validators, for which formats are notes. -/
def validators : Dialect where
  finds pattern text := (Pattern.Regex.ofText? pattern).any fun r => r.occursIn text
  hasFormat _ _ := true

/-- Whether a keyword holds of every value that the validators do not fail: a bound if the double
of the number is not that of the bound, a length or pattern if the value is given. No validator
looks at types, and none at the format of a kind. -/
def settles (d : Dialect) (keyword : String) (argument v : Value) : Bool :=
  match keyword with
  | "minimum" | "maximum" => argument.bounds Number.apart v.number?
  | "minLength" | "maxLength" | "minItems" | "maxItems" => !v.isMissing
  | "pattern" =>
    !v.isMissing && argument.string?.all fun pattern => v.string?.all (d.agreesOn pattern)
  | _ => false

variable {d : Dialect} {v : Value} {k : FieldKind} {n : Nat}

theorem settles_lengths (argument : Value) :
    d.settles k.lengthKeywords.1 argument v = !v.isMissing ∧
      d.settles k.lengthKeywords.2 argument v = !v.isMissing := by
  unfold FieldKind.lengthKeywords
  split <;> exact ⟨rfl, rfl⟩

theorem asserts_least (h : ∀ length, v.length? = some length → n ≤ length) :
    d.asserts k.lengthKeywords.1 (.number (.int n)) v = true := by
  have hbounds := Value.bounds_of_length Number.le fun length hlength =>
    Number.le_int.2 (Int.ofNat_le.2 (h length hlength))
  unfold FieldKind.lengthKeywords
  split
  · exact hbounds.1
  · exact hbounds.2

theorem asserts_most (h : ∀ length, v.length? = some length → length ≤ n) :
    d.asserts k.lengthKeywords.2 (.number (.int n)) v = true := by
  have hbounds := Value.bounds_of_length Number.ge fun length hlength =>
    Number.ge_int.2 (Int.ofNat_le.2 (h length hlength))
  unfold FieldKind.lengthKeywords
  split
  · exact hbounds.1
  · exact hbounds.2

end Dialect

@[simp] theorem Verdict.ofBool_ne_failed {b : Bool} : ofBool b ≠ .failed ↔ b = true := by
  cases b <;> simp [ofBool]

namespace Validator

variable {v : Validator} {checks : Dict HostCheck} {values : Dict Value} {field : Field}
  {value : Value} {d : Dialect} {k : FieldKind} {e : String × Value}

theorem judgeGiven_of_judge (hkind : v.kind ≠ .required)
    (h : v.judge checks values field value ≠ .failed) (hgiven : value.isMissing = false) :
    v.judgeGiven checks values field.id value ≠ .failed := by
  rwa [judge, if_neg hkind, hgiven, if_neg Bool.false_ne_true] at h

theorem bound_eq {α : Type} {read : Value → Option α} {argument : α}
    (h : v.bound.bind read = some argument) :
    v.bound = some v.boundOrNull ∧ read v.boundOrNull = some argument := by
  obtain ⟨b, hb, hargument⟩ := Option.bind_eq_some_iff.1 h
  unfold boundOrNull
  rw [hb]
  exact ⟨rfl, hargument⟩

theorem mem_lengthKeyword_boundOrNull {key : String}
    (h : e ∈ Value.lengthKeyword key v.bound) :
    e ∈ Value.lengthKeyword key (some v.boundOrNull) := by
  obtain ⟨n, hn, -⟩ := Value.mem_lengthKeyword h
  rwa [(bound_eq hn).1] at h

/-! ## Bounds on numbers -/

/-- A number that a validator does not fail is in relation to the bound, when the relation is that
of their doubles and these are different. -/
theorem bounds_of_order {relation : Number → Number → Bool} {outcome : Ordering}
    (hrelation : ∀ m n : Number, m.apart n = true →
      compare n.toDouble.key m.toDouble.key ≠ outcome → relation m n = true)
    (h : value.isMissing = false → value.order? v.boundOrNull ≠ some outcome) {argument : Value}
    (hbound : v.bound.bind Value.numberBound? = some argument)
    (hapart : argument.bounds Number.apart value.number? = true) :
    argument.bounds relation value.number? = true := by
  obtain ⟨m, rfl, hm⟩ := Value.numberBound?_eq_some (bound_eq hbound).2
  refine Value.bounds_iff.2 fun n hn => hrelation m n (Value.bounds_iff.1 hapart n hn) ?_
  rw [Value.eq_number hn] at h
  have horder := h rfl
  rwa [Value.order?_number hm, Ne, Option.some.injEq] at horder

theorem asserts_minimum
    (h : value.isMissing = false → value.order? v.boundOrNull ≠ some .lt) {argument : Value}
    (hbound : v.bound.bind Value.numberBound? = some argument)
    (hs : d.settles "minimum" argument value = true) :
    d.asserts "minimum" argument value = true :=
  bounds_of_order (fun _ _ hapart hne =>
    Number.le_of_apart hapart (not_lt.1 (compare_lt_iff_lt.not.1 hne))) h hbound hs

theorem asserts_maximum
    (h : value.isMissing = false → value.order? v.boundOrNull ≠ some .gt) {argument : Value}
    (hbound : v.bound.bind Value.numberBound? = some argument)
    (hs : d.settles "maximum" argument value = true) :
    d.asserts "maximum" argument value = true :=
  bounds_of_order (fun _ _ hapart hne =>
    Number.ge_of_apart hapart (not_lt.1 (compare_gt_iff_gt.not.1 hne))) h hbound hs

/-! ## Bounds on lengths -/

theorem meets_iff {relation : Nat → Nat → Bool} {bound : Option Value} {n : Nat} :
    meets relation n bound = true ↔
      ∀ b ∈ bound.bind Value.lengthBound?, relation n b = true := by
  unfold meets
  cases bound.bind Value.lengthBound? <;> simp

theorem meets_exact_iff {bound : Option Value} {n : Nat} : meets (· == ·) n bound = true ↔
    LengthRange.Has ⟨bound.bind Value.lengthBound?, bound.bind Value.lengthBound?⟩ n := by
  simp only [meets_iff, beq_iff_eq, LengthRange.Has]
  constructor
  · exact fun h => ⟨fun b hb => (h b hb).ge, fun b hb => (h b hb).le⟩
  · rintro h b hb
    exact le_antisymm (h.2 b hb) (h.1 b hb)

theorem fits_iff {bound : Value} {n : Nat} : fits n bound = true ↔ bound.lengthRange.Has n := by
  cases bound with
  | object range =>
    rw [fits, Bool.and_eq_true, meets_iff, meets_iff]
    simp [Value.lengthRange, LengthRange.Has, atLeast, atMost]
  | _ => simp only [fits, meets_exact_iff, Value.lengthRange, Option.bind_some]

theorem relation_of_meets {relation : Nat → Nat → Bool} {bound : Option Value} {n : Nat}
    (hbound : bound.bind Value.lengthBound? = some n)
    (h : hasLength value fun length => meets relation length bound) :
    ∀ length, value.length? = some length → relation length n = true := by
  intro length hlength
  unfold hasLength meets at h
  rwa [hlength, hbound] at h

theorem asserts_of_atLeast {bound : Option Value}
    (h : value.isMissing = false → hasLength value fun length => meets atLeast length bound)
    (he : e ∈ Value.lengthKeyword k.lengthKeywords.1 bound)
    (hs : d.settles e.1 e.2 value = true) : d.asserts e.1 e.2 value = true := by
  obtain ⟨n, hn, rfl⟩ := Value.mem_lengthKeyword he
  rw [(Dialect.settles_lengths ..).1, Bool.not_eq_true'] at hs
  exact Dialect.asserts_least fun length hlength =>
    of_decide_eq_true (relation_of_meets hn (h hs) length hlength)

theorem asserts_of_atMost {bound : Option Value}
    (h : value.isMissing = false → hasLength value fun length => meets atMost length bound)
    (he : e ∈ Value.lengthKeyword k.lengthKeywords.2 bound)
    (hs : d.settles e.1 e.2 value = true) : d.asserts e.1 e.2 value = true := by
  obtain ⟨n, hn, rfl⟩ := Value.mem_lengthKeyword he
  rw [(Dialect.settles_lengths ..).2, Bool.not_eq_true'] at hs
  exact Dialect.asserts_most fun length hlength =>
    of_decide_eq_true (relation_of_meets hn (h hs) length hlength)

theorem keywords_of_length (hkind : v.kind = .length) (k : FieldKind) :
    ∃ least most, v.keywords k = Value.lengthKeyword k.lengthKeywords.1 least ++
        Value.lengthKeyword k.lengthKeywords.2 most ∧
      v.boundOrNull.lengthRange =
        ⟨least.bind Value.lengthBound?, most.bind Value.lengthBound?⟩ := by
  unfold keywords boundOrNull
  rw [hkind]
  cases v.bound with
  | none =>
    refine ⟨none, none, rfl, ?_⟩
    simp only [Option.getD_none, Value.lengthRange]
    rfl
  | some bound =>
    cases bound with
    | object range =>
      refine ⟨Dict.get? range "min", Dict.get? range "max", rfl, ?_⟩
      simp only [Option.getD_some, Value.lengthRange]
    | _ =>
      refine ⟨some _, some _, rfl, ?_⟩
      simp only [Option.getD_some, Value.lengthRange, Option.bind_some]

theorem exists_of_mem_keywords_length (hkind : v.kind = .length) (he : e ∈ v.keywords k) :
    ∃ least most, e ∈ Value.lengthKeyword k.lengthKeywords.1 least ++
        Value.lengthKeyword k.lengthKeywords.2 most ∧
      ∀ value, (hasLength value fun length => fits length v.boundOrNull) →
        (hasLength value fun length => meets atLeast length least) ∧
          hasLength value fun length => meets atMost length most := by
  obtain ⟨least, most, hkeywords, hrange⟩ := keywords_of_length hkind k
  refine ⟨least, most, hkeywords ▸ he, fun value h => ?_⟩
  simp only [hasLength, Option.all_eq_true, fits_iff, hrange] at h ⊢
  constructor
  · intro length hlength
    exact meets_iff.2 fun b hb => decide_eq_true ((h length hlength).1 b hb)
  · intro length hlength
    exact meets_iff.2 fun b hb => decide_eq_true ((h length hlength).2 b hb)

/-! ## Patterns -/

theorem asserts_pattern {name pattern : String}
    (h : value.isMissing = false → judgePattern name value v.boundOrNull ≠ .failed)
    (hbound : v.bound.bind Value.string? = some pattern)
    (hs : d.settles "pattern" (.string pattern) value = true) :
    d.asserts "pattern" (.string pattern) value = true := by
  obtain ⟨hm, hagrees⟩ := Bool.and_eq_true_iff.1 hs
  cases value with
  | string text =>
    obtain ⟨r, hr, hfinds⟩ := (Option.any_eq_true _ _).1
      (show d.agreesOn pattern text = true from hagrees)
    have hpassed := h (by simpa using hm)
    rw [Value.eq_string (bound_eq hbound).2, judgePattern, hr, Verdict.ofBool_ne_failed] at hpassed
    exact (beq_iff_eq.1 hfinds).trans hpassed
  | _ => rfl

/-! ## Keywords -/

/-- What a keyword of a validator can be. -/
theorem cases_of_mem_keywords (he : e ∈ v.keywords k) :
    (v.kind = .min ∧ ∃ a, v.bound.bind Value.numberBound? = some a ∧ e = ("minimum", a)) ∨
    (v.kind = .max ∧ ∃ a, v.bound.bind Value.numberBound? = some a ∧ e = ("maximum", a)) ∨
    (v.kind = .minLength ∧ e ∈ Value.lengthKeyword k.lengthKeywords.1 v.bound) ∨
    (v.kind = .maxLength ∧ e ∈ Value.lengthKeyword k.lengthKeywords.2 v.bound) ∨
    (v.kind = .length ∧ e ∈ v.keywords k) ∨
    (v.kind = .pattern ∧ ∃ p, v.bound.bind Value.string? = some p ∧ e = ("pattern", .string p)) ∨
    e.1 = "format" := by
  have hkeywords := he
  unfold keywords at he
  cases hkind : v.kind with
  | min =>
    rw [hkind] at he
    exact .inl ⟨rfl, mem_whenSome he⟩
  | max =>
    rw [hkind] at he
    exact .inr (.inl ⟨rfl, mem_whenSome he⟩)
  | minLength =>
    rw [hkind] at he
    exact .inr (.inr (.inl ⟨rfl, he⟩))
  | maxLength =>
    rw [hkind] at he
    exact .inr (.inr (.inr (.inl ⟨rfl, he⟩)))
  | length => exact .inr (.inr (.inr (.inr (.inl ⟨rfl, hkeywords⟩))))
  | pattern =>
    rw [hkind] at he
    exact .inr (.inr (.inr (.inr (.inr (.inl ⟨rfl, mem_whenSome he⟩)))))
  | email | url =>
    rw [hkind] at he
    rw [List.mem_singleton.1 he]
    exact .inr (.inr (.inr (.inr (.inr (.inr rfl)))))
  | required | custom =>
    rw [hkind] at he
    cases he

/-- The keywords that validators set. -/
def keywordNames : List String :=
  ["minimum", "maximum", "minLength", "maxLength", "minItems", "maxItems", "pattern", "format"]

theorem key_of_mem_lengthKeywords {least most : Option Value}
    (he : e ∈ Value.lengthKeyword k.lengthKeywords.1 least ++
      Value.lengthKeyword k.lengthKeywords.2 most) : e.1 ∈ keywordNames := by
  have hnames : k.lengthKeywords.1 ∈ keywordNames ∧ k.lengthKeywords.2 ∈ keywordNames := by
    unfold FieldKind.lengthKeywords
    split <;> decide
  rcases List.mem_append.1 he with he | he
  · obtain ⟨-, -, rfl⟩ := Value.mem_lengthKeyword he
    exact hnames.1
  · obtain ⟨-, -, rfl⟩ := Value.mem_lengthKeyword he
    exact hnames.2

theorem key_of_mem_keywords (he : e ∈ v.keywords k) : e.1 ∈ keywordNames := by
  rcases cases_of_mem_keywords he with ⟨-, a, -, rfl⟩ | ⟨-, a, -, rfl⟩ | ⟨-, he⟩ | ⟨-, he⟩ |
    ⟨hkind, he⟩ | ⟨-, p, -, rfl⟩ | hformat
  · simp [keywordNames]
  · simp [keywordNames]
  · exact key_of_mem_lengthKeywords (List.mem_append_left (Value.lengthKeyword _ none) he)
  · exact key_of_mem_lengthKeywords (List.mem_append_right (Value.lengthKeyword _ none) he)
  · obtain ⟨least, most, he, -⟩ := exists_of_mem_keywords_length hkind he
    exact key_of_mem_lengthKeywords he
  · simp [keywordNames]
  · simp [keywordNames, hformat]

/-- A value that a validator does not fail has every keyword of the validator that is settled. -/
theorem asserts_of_not_failed (h : v.judge checks values field value ≠ .failed)
    (he : e ∈ v.keywords k) (hs : d.settles e.1 e.2 value = true) :
    d.asserts e.1 e.2 value = true := by
  have hgiven (hkind : v.kind ≠ .required) := judgeGiven_of_judge hkind h
  unfold judgeGiven at hgiven
  rcases cases_of_mem_keywords he with ⟨hkind, a, hbound, rfl⟩ | ⟨hkind, a, hbound, rfl⟩ |
    ⟨hkind, he⟩ | ⟨hkind, he⟩ | ⟨hkind, he⟩ | ⟨hkind, p, hbound, rfl⟩ | hformat
  · rw [hkind] at hgiven
    refine asserts_minimum (fun hm => ?_) hbound hs
    exact bne_iff_ne.1 (Verdict.ofBool_ne_failed.1 (hgiven (by decide) hm))
  · rw [hkind] at hgiven
    refine asserts_maximum (fun hm => ?_) hbound hs
    exact bne_iff_ne.1 (Verdict.ofBool_ne_failed.1 (hgiven (by decide) hm))
  · rw [hkind] at hgiven
    refine asserts_of_atLeast (fun hm => ?_) (mem_lengthKeyword_boundOrNull he) hs
    exact Verdict.ofBool_ne_failed.1 (hgiven (by decide) hm)
  · rw [hkind] at hgiven
    refine asserts_of_atMost (fun hm => ?_) (mem_lengthKeyword_boundOrNull he) hs
    exact Verdict.ofBool_ne_failed.1 (hgiven (by decide) hm)
  · rw [hkind] at hgiven
    obtain ⟨least, most, he, hboth⟩ := exists_of_mem_keywords_length hkind he
    have hfits (hm : value.isMissing = false) :=
      hboth value (Verdict.ofBool_ne_failed.1 (hgiven (by decide) hm))
    rcases List.mem_append.1 he with he | he
    · exact asserts_of_atLeast (fun hm => (hfits hm).1) he hs
    · exact asserts_of_atMost (fun hm => (hfits hm).2) he hs
  · rw [hkind] at hgiven
    exact asserts_pattern (hgiven (by decide)) hbound hs
  · rw [hformat] at hs
    cases hs

end Validator

end FormEngine
