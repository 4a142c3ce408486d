import FormEngine.Json.Value

/-!
# Equality of documents

`sameOption` extends the equality of documents to values that may be absent. Equality of documents
is identity as long as no double is a negative zero (`eq_of_same`).
-/

namespace FormEngine.Value

/-! ## Absent values -/

/-- Whether two values are equal documents or both absent. -/
def sameOption : Option Value → Option Value → Bool
  | some a, some b => a.same b
  | none, none => true
  | _, _ => false

@[simp] theorem sameOption_refl (a : Option Value) : sameOption a a = true := by
  cases a with
  | none => rfl
  | some a => exact a.same_refl

theorem sameOption_comm (a b : Option Value) : sameOption a b = sameOption b a := by
  cases a <;> cases b <;> simp [sameOption, same_comm]

theorem sameOption_trans {a b c : Option Value} (hab : sameOption a b = true)
    (hbc : sameOption b c = true) : sameOption a c = true := by
  cases a <;> cases b <;> cases c <;> simp_all [sameOption]
  exact same_trans _ _ _ hab hbc

theorem sameOption_some_right (a : Option Value) (b : Value) :
    sameOption a (some b) = a.any fun v => v.same b := by
  cases a <;> rfl

/-! ## Lists -/

theorem length_eq_of_sameItems : ∀ {a b : List Value}, sameItems a b = true → a.length = b.length
  | [], [], _ => rfl
  | _ :: _, _ :: _, h => by
    simp only [sameItems, Bool.and_eq_true] at h
    simp [length_eq_of_sameItems h.2]

theorem same_congr_right {v w : Value} (h : v.same w = true) (x : Value) :
    x.same v = x.same w :=
  Bool.eq_iff_iff.2
    ⟨fun hx => same_trans x v w hx h, fun hx => same_trans x w v hx (same_comm w v ▸ h)⟩

theorem memberOf_congr {v w : Value} (h : v.same w = true) (vs : List Value) :
    memberOf v vs = memberOf w vs :=
  congrArg vs.any (funext (same_congr_right h))

theorem memberOf_append_singleton (v w : Value) (vs : List Value) :
    memberOf v (vs ++ [w]) = (memberOf v vs || w.same v) := by
  simp [memberOf]

theorem memberOf_filter_not_same (v w : Value) (vs : List Value) :
    memberOf v (vs.filter fun x => !x.same w) = (!w.same v && memberOf v vs) := by
  simp only [memberOf, List.any_filter]
  induction vs with
  | nil => simp
  | cons x rest ih =>
    rw [List.any_cons, List.any_cons, ih, Bool.and_or_distrib_left]
    congr 1
    cases hx : x.same v with
    | false => simp
    | true => rw [← same_congr_right hx w, same_comm x w]

/-! ## Negative zeros -/

mutual

/-- Whether no double of the document is a negative zero. -/
def noNegativeZero : Value → Bool
  | .number (.float d) => !(d.negative && d.rank == 0)
  | .array items => noNegativeZeroItems items
  | .object members => noNegativeZeroMembers members
  | _ => true

def noNegativeZeroItems : List Value → Bool
  | [] => true
  | v :: rest => v.noNegativeZero && noNegativeZeroItems rest

def noNegativeZeroMembers : List (String × Value) → Bool
  | [] => true
  | (_, v) :: rest => v.noNegativeZero && noNegativeZeroMembers rest

end

theorem eq_of_same_number {a b : Number} (h : a.same b = true)
    (ha : noNegativeZero (.number a) = true) (hb : noNegativeZero (.number b) = true) : a = b := by
  cases a with
  | int a =>
    cases b with
    | int b => simpa [Number.same] using h
    | float b => simp [Number.same] at h
  | float a =>
    cases b with
    | int b => simp [Number.same] at h
    | float b =>
      obtain ⟨sa, ra⟩ := a
      obtain ⟨sb, rb⟩ := b
      simp only [noNegativeZero, Bool.not_eq_true', Bool.and_eq_false_iff, beq_eq_false_iff_ne]
        at ha hb
      simp only [Number.same, Double.same, Double.key, beq_iff_eq] at h
      cases sa <;> cases sb <;> simp at h ha hb ⊢ <;> omega

mutual

/-- Equal documents without negative zeros are identical. -/
theorem eq_of_same : ∀ a b : Value, a.same b = true → a.noNegativeZero = true →
    b.noNegativeZero = true → a = b
  | .null, b, h, _, _ => by cases b <;> simp_all [same]
  | .bool a, b, h, _, _ => by cases b <;> simp_all [same]
  | .string a, b, h, _, _ => by cases b <;> simp_all [same]
  | .number a, b, h, ha, hb => by
    cases b with
    | number b => rw [eq_of_same_number h ha hb]
    | _ => simp [same] at h
  | .array a, b, h, ha, hb => by
    cases b with
    | array b => rw [eq_of_sameItems a b h ha hb]
    | _ => simp [same] at h
  | .object a, b, h, ha, hb => by
    cases b with
    | object b => rw [eq_of_sameMembers a b h ha hb]
    | _ => simp [same] at h

theorem eq_of_sameItems : ∀ a b : List Value, sameItems a b = true →
    noNegativeZeroItems a = true → noNegativeZeroItems b = true → a = b
  | [], b, h, _, _ => by cases b <;> simp_all [sameItems]
  | a :: as, b, h, ha, hb => by
    cases b with
    | nil => simp [sameItems] at h
    | cons b bs =>
      simp only [sameItems, noNegativeZeroItems, Bool.and_eq_true] at h ha hb
      rw [eq_of_same a b h.1 ha.1 hb.1, eq_of_sameItems as bs h.2 ha.2 hb.2]

theorem eq_of_sameMembers : ∀ a b : List (String × Value), sameMembers a b = true →
    noNegativeZeroMembers a = true → noNegativeZeroMembers b = true → a = b
  | [], b, h, _, _ => by cases b <;> simp_all [sameMembers]
  | (k, a) :: as, b, h, ha, hb => by
    cases b with
    | nil => simp [sameMembers] at h
    | cons e bs =>
      obtain ⟨l, b⟩ := e
      simp only [sameMembers, noNegativeZeroMembers, Bool.and_eq_true, beq_iff_eq] at h ha hb
      rw [h.1.1, eq_of_same a b h.1.2 ha.1 hb.1, eq_of_sameMembers as bs h.2 ha.2 hb.2]

end

theorem eq_of_sameOption {a b : Option Value} (h : sameOption a b = true)
    (ha : ∀ v, a = some v → v.noNegativeZero = true)
    (hb : ∀ v, b = some v → v.noNegativeZero = true) : a = b := by
  cases a with
  | none => cases b with
    | none => rfl
    | some b => simp [sameOption] at h
  | some a => cases b with
    | none => simp [sameOption] at h
    | some b => rw [eq_of_same a b h (ha a rfl) (hb b rfl)]

end FormEngine.Value
