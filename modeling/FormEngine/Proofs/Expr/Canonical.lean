import FormEngine.Expr.Basic
import FormEngine.Proofs.Except
import FormEngine.Proofs.Json.Normal

/-!
# The canonical form of expressions

`respell` is the canonical spelling of an expression, as a function of documents: operators have
their first names, and operands no short forms. Reading does not tell a document from its canonical
spelling (`ofJson_respell`), and writing gives this spelling (`toJson_eq_respell`). So an expression
that was read is written in a form that is read as the same expression (`ofJson_toJson`). The form
of an expression from a normal document is normal (`normal_toJson`).
-/

namespace FormEngine

namespace Operator

theorem ofName_name_ofName (name : String) : ofName (ofName name).name = ofName name := by
  by_cases h : (ofName name).isUnknown = true
  · have hname : (ofName name).name = name := by
      unfold ofName at h ⊢
      split at h <;> first | rfl | cases h
    rw [hname]
  · exact ofName_name (Bool.not_eq_true _ ▸ h)

theorem name_ofName_ne_var {name : String} (h : name ≠ "var") : (ofName name).name ≠ "var" := by
  unfold ofName
  split <;> first | exact h | decide

end Operator

namespace Expr

/-! ## The canonical spelling -/

/-- An array of nothing but a path is written as the path. -/
def respellVar : Value → Value
  | .array [.string path] => .string path
  | operand => operand

mutual

/-- The canonical spelling of a document: operators by their first names, operands in arrays, and
the paths of variables alone where they have no default. What is no expression stays. -/
def respell : Value → Value
  | .array items => .array (respellItems items)
  | .object members => .object (respellMembers members)
  | scalar => scalar

def respellMembers : List (String × Value) → List (String × Value)
  | [(name, operand)] =>
    if name = "var" then [(name, respellVar operand)]
    else [((Operator.ofName name).name, .array (respellOperand operand))]
  | members => members

def respellOperand : Value → List Value
  | .array items => respellItems items
  | .object members => [.object (respellMembers members)]
  | scalar => [scalar]

def respellItems : List Value → List Value
  | [] => []
  | v :: rest => respell v :: respellItems rest

end

theorem var?_respellVar (operand : Value) : var? (respellVar operand) = var? operand := by
  unfold respellVar
  split <;> rfl

theorem ofMembers_respell_op {name : String} {operand : Value} {vs : List Value}
    (hname : name ≠ "var") (h : ofItems vs = ofOperand operand) :
    ofMembers [((Operator.ofName name).name, .array vs)] = ofMembers [(name, operand)] := by
  rw [ofMembers, ofMembers, if_neg (Operator.name_ofName_ne_var hname), if_neg hname, ofOperand, h,
    Operator.ofName_name_ofName]

mutual

/-- A document is read as its canonical spelling is, with the same answer or the same error. -/
theorem ofJson_respell : ∀ v : Value, ofJson (respell v) = ofJson v
  | .null | .bool _ | .number _ | .string _ => rfl
  | .array items => by rw [respell, ofJson, ofJson, ofItems_respellItems items]
  | .object members => ofMembers_respellMembers members

theorem ofMembers_respellMembers : ∀ members : List (String × Value),
    ofMembers (respellMembers members) = ofMembers members
  | [] => rfl
  | [(name, operand)] => by
    rw [respellMembers]
    split
    next hvar => rw [ofMembers, ofMembers, if_pos hvar, if_pos hvar, var?_respellVar]
    next hname => exact ofMembers_respell_op hname (ofItems_respellOperand operand)
  | _ :: _ :: _ => rfl

theorem ofItems_respellOperand : ∀ v : Value, ofItems (respellOperand v) = ofOperand v
  | .null | .bool _ | .number _ | .string _ => rfl
  | .array items => ofItems_respellItems items
  | .object members => by
    rw [respellOperand, ofItems, ofJson, ofMembers_respellMembers members, ofOperand, ofItems]
    cases ofMembers members <;> rfl

theorem ofItems_respellItems : ∀ vs : List Value, ofItems (respellItems vs) = ofItems vs
  | [] => rfl
  | v :: rest => by
    rw [respellItems, ofItems, ofItems, ofJson_respell v, ofItems_respellItems rest]

end

theorem toJson_eq_respell_of_var? {operand : Value} {e : Expr} (h : var? operand = .ok e) :
    e.toJson = .object [("var", respellVar operand)] := by
  unfold var? at h
  split at h <;> cases h <;> rfl

mutual

/-- An expression is written as the canonical spelling of what it was read from. -/
theorem toJson_eq_respell : ∀ (v : Value) (e : Expr), ofJson v = .ok e → e.toJson = respell v
  | .null, _, h | .bool _, _, h | .number _, _, h | .string _, _, h => by
    cases h
    rfl
  | .array items, e, h => by
    obtain ⟨es, hes, rfl⟩ := map_eq_ok_iff.1 h
    rw [toJson, respell, toItems_eq_respellItems items es hes]
  | .object members, e, h => toJson_eq_respellMembers members e h

theorem toJson_eq_respellMembers : ∀ (members : List (String × Value)) (e : Expr),
    ofMembers members = .ok e → e.toJson = .object (respellMembers members)
  | [], _, h => by
    cases h
    rfl
  | [(name, operand)], e, h => by
    rw [ofMembers] at h
    rw [respellMembers]
    split at h
    next hvar =>
      rw [if_pos hvar, hvar]
      exact toJson_eq_respell_of_var? h
    next hname =>
      obtain ⟨args, hargs, rfl⟩ := map_eq_ok_iff.1 h
      rw [if_neg hname, toJson, toItems_eq_respellOperand operand args hargs]
  | _ :: _ :: _, _, h => by cases h

theorem toItems_eq_respellOperand : ∀ (v : Value) (es : List Expr),
    ofOperand v = .ok es → toItems es = respellOperand v
  | .null, _, h | .bool _, _, h | .number _, _, h | .string _, _, h => by
    cases h
    rfl
  | .array items, es, h => toItems_eq_respellItems items es h
  | .object members, es, h => by
    obtain ⟨e, he, rfl⟩ := map_eq_ok_iff.1 h
    rw [toItems, toJson_eq_respellMembers members e he]
    rfl

theorem toItems_eq_respellItems : ∀ (vs : List Value) (es : List Expr),
    ofItems vs = .ok es → toItems es = respellItems vs
  | [], _, h => by
    cases h
    rfl
  | v :: rest, es, h => by
    obtain ⟨e, he, h⟩ := bind_eq_ok_iff.1 h
    obtain ⟨es', hes, h⟩ := bind_eq_ok_iff.1 h
    cases h
    rw [toItems, respellItems, toJson_eq_respell v e he, toItems_eq_respellItems rest es' hes]

end

/-- An expression is read again from what is written of it. -/
theorem ofJson_toJson (v : Value) (e : Expr) (h : ofJson v = .ok e) : ofJson e.toJson = .ok e := by
  rw [toJson_eq_respell v e h, ofJson_respell, h]

/-! ## Normal forms -/

theorem normal_singleton {key : String} {v : Value} (h : v.Normal) :
    (Value.object [(key, v)]).Normal :=
  Value.normal_object_iff.2 ⟨List.pairwise_singleton _ _, by simpa using h⟩

theorem normal_of_normal_singleton {key : String} {v : Value}
    (h : (Value.object [(key, v)]).Normal) : v.Normal :=
  (Value.normal_object_iff.1 h).2 _ (List.mem_singleton_self _)

theorem normal_respellVar {operand : Value} (hn : operand.Normal) :
    (respellVar operand).Normal := by
  unfold respellVar
  split
  · rfl
  · exact hn

mutual

theorem normal_respell : ∀ v : Value, v.Normal → (respell v).Normal
  | .null, hn | .bool _, hn | .number _, hn | .string _, hn => hn
  | .array items, hn =>
    Value.normal_array_iff.2 (normal_respellItems items (Value.normal_array_iff.1 hn))
  | .object members, hn => normal_respellMembers members hn

theorem normal_respellMembers : ∀ members : List (String × Value),
    (Value.object members).Normal → (Value.object (respellMembers members)).Normal
  | [], hn => hn
  | [(name, operand)], hn => by
    have hoperand := normal_of_normal_singleton hn
    rw [respellMembers]
    split
    · exact normal_singleton (normal_respellVar hoperand)
    · exact normal_singleton (Value.normal_array_iff.2 (normal_respellOperand operand hoperand))
  | _ :: _ :: _, hn => hn

theorem normal_respellOperand : ∀ v : Value, v.Normal → ∀ w ∈ respellOperand v, w.Normal
  | .null, hn | .bool _, hn | .number _, hn | .string _, hn => List.forall_mem_singleton.2 hn
  | .array items, hn => normal_respellItems items (Value.normal_array_iff.1 hn)
  | .object members, hn => List.forall_mem_singleton.2 (normal_respellMembers members hn)

theorem normal_respellItems : ∀ vs : List Value,
    (∀ v ∈ vs, v.Normal) → ∀ w ∈ respellItems vs, w.Normal
  | [], hn => hn
  | v :: rest, hn => by
    rw [List.forall_mem_cons] at hn
    rw [respellItems, List.forall_mem_cons]
    exact ⟨normal_respell v hn.1, normal_respellItems rest hn.2⟩

end

theorem normal_toJson (v : Value) (e : Expr) (h : ofJson v = .ok e) (hn : v.Normal) :
    e.toJson.Normal := by
  rw [toJson_eq_respell v e h]
  exact normal_respell v hn

theorem eq_null_of_toJson_eq_null {v : Value} {e : Expr} (h : ofJson v = .ok e)
    (he : e.toJson = .null) : v = .null := by
  rw [toJson_eq_respell v e h] at he
  cases v with
  | null => rfl
  | _ => cases he

end Expr

end FormEngine
