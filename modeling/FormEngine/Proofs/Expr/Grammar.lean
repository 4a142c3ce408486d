import FormEngine.Expr.Evaluate
import FormEngine.Proofs.Expr.Canonical

/-!
# The grammar of expressions

A document is an expression when each object in a position of an expression is a literal or a node,
and a variable node has an operand of its own kind (`WellShaped`). What a variable node holds is no
position of an expression, so its default may be any value.

Two documents are read as the same expression exactly when they have the same canonical spelling
(`ofJson_eq_ok_iff_respell_eq`), so second names and short forms make no difference.
-/

namespace FormEngine

namespace Expr

/-! ## Shapes -/

/-- The first value stands in a position of an expression in the second. An object of several
members has no positions inside: it is refused itself. -/
inductive Position : Value → Value → Prop where
  | self (v : Value) : Position v v
  | item {u v : Value} {items : List Value} (hmem : v ∈ items) (h : Position u v) :
      Position u (.array items)
  | operand {u v : Value} {name : String} (hname : name ≠ "var") (h : Position u v) :
      Position u (.object [(name, v)])

/-- The operand of a variable node: a path, or an array of a path and at most one more value. -/
def VarOperand (operand : Value) : Prop :=
  (∃ path, operand = .string path) ∨
    ∃ path rest, operand = .array (.string path :: rest) ∧ rest.length ≤ 1

/-- The members of a literal or a node. -/
def NodeShape (members : List (String × Value)) : Prop :=
  members = [] ∨ ∃ name operand, members = [(name, operand)] ∧ (name = "var" → VarOperand operand)

/-- Each object in a position of an expression is a literal or a node. -/
def WellShaped (v : Value) : Prop :=
  ∀ members, Position (.object members) v → NodeShape members

theorem nodeShape_singleton_iff {name : String} {operand : Value} :
    NodeShape [(name, operand)] ↔ (name = "var" → VarOperand operand) := by
  constructor
  · rintro (h | ⟨name', operand', h, hvar⟩)
    · cases h
    · cases h
      exact hvar
  · exact fun h => .inr ⟨name, operand, rfl, h⟩

theorem not_nodeShape_cons_cons {a b : String × Value} {rest : List (String × Value)} :
    ¬NodeShape (a :: b :: rest) := by
  rintro (h | ⟨_, _, h, -⟩) <;> cases h

theorem wellShaped_scalar {v : Value} (harray : ∀ items, v ≠ .array items)
    (hobject : ∀ members, v ≠ .object members) : WellShaped v := by
  intro members h
  cases h with
  | self => exact absurd rfl (hobject members)
  | item => exact absurd rfl (harray _)
  | operand => exact absurd rfl (hobject _)

theorem wellShaped_array_iff {items : List Value} :
    WellShaped (.array items) ↔ ∀ v ∈ items, WellShaped v := by
  constructor
  · exact fun h v hv members hm => h members (.item hv hm)
  · intro h members hm
    cases hm with
    | item hv hm => exact h _ hv members hm

theorem wellShaped_object_iff {members : List (String × Value)} :
    WellShaped (.object members) ↔ NodeShape members ∧
      ∀ name operand, members = [(name, operand)] → name ≠ "var" → WellShaped operand := by
  constructor
  · intro h
    refine ⟨h members (.self _), ?_⟩
    rintro name operand rfl hname inner hinner
    exact h inner (.operand hname hinner)
  · rintro ⟨hnode, hoperand⟩ inner hinner
    cases hinner with
    | self => exact hnode
    | operand hname hinner => exact hoperand _ _ rfl hname inner hinner

theorem wellShaped_literal : WellShaped (.object []) :=
  wellShaped_object_iff.2 ⟨.inl rfl, fun _ _ h => by cases h⟩

theorem wellShaped_var_iff {operand : Value} :
    WellShaped (.object [("var", operand)]) ↔ VarOperand operand := by
  rw [wellShaped_object_iff, nodeShape_singleton_iff]
  refine ⟨fun h => h.1 rfl, fun h => ⟨fun _ => h, ?_⟩⟩
  rintro name operand heq hname
  cases heq
  exact absurd rfl hname

theorem wellShaped_op_iff {name : String} {operand : Value} (hname : name ≠ "var") :
    WellShaped (.object [(name, operand)]) ↔ WellShaped operand := by
  rw [wellShaped_object_iff, nodeShape_singleton_iff]
  constructor
  · exact fun h => h.2 name operand rfl hname
  · refine fun h => ⟨fun hvar => absurd hvar hname, ?_⟩
    rintro name' operand' heq -
    cases heq
    exact h

theorem not_wellShaped_cons_cons {a b : String × Value} {rest : List (String × Value)} :
    ¬WellShaped (.object (a :: b :: rest)) :=
  fun h => not_nodeShape_cons_cons (wellShaped_object_iff.1 h).1

/-! ## What is read -/

theorem exists_var?_iff {operand : Value} : (∃ e, var? operand = .ok e) ↔ VarOperand operand := by
  constructor
  · rintro ⟨e, h⟩
    unfold var? at h
    split at h
    · exact .inl ⟨_, rfl⟩
    · exact .inr ⟨_, [], rfl, Nat.zero_le 1⟩
    · exact .inr ⟨_, [_], rfl, Nat.le_refl 1⟩
    · cases h
    · cases h
  · rintro (⟨path, rfl⟩ | ⟨path, rest, rfl, hrest⟩)
    · exact ⟨_, rfl⟩
    · match rest with
      | [] => exact ⟨_, rfl⟩
      | [fallback] => exact ⟨_, rfl⟩
      | _ :: _ :: _ => simp at hrest

theorem exists_ofOperand_iff (v : Value) :
    (∃ es, ofOperand v = .ok es) ↔ ∃ e, ofJson v = .ok e := by
  cases v with
  | array items => rw [ofOperand, ofJson, exists_map_eq_ok_iff]
  | object members => rw [ofOperand, ofJson, exists_map_eq_ok_iff]
  | _ => exact ⟨fun _ => ⟨_, rfl⟩, fun _ => ⟨_, rfl⟩⟩

theorem exists_ofItems_cons_iff {v : Value} {rest : List Value} :
    (∃ es, ofItems (v :: rest) = .ok es) ↔
      (∃ e, ofJson v = .ok e) ∧ ∃ es, ofItems rest = .ok es := by
  constructor
  · rintro ⟨es, h⟩
    obtain ⟨e, he, h⟩ := bind_eq_ok_iff.1 h
    obtain ⟨es', hes, -⟩ := bind_eq_ok_iff.1 h
    exact ⟨⟨e, he⟩, es', hes⟩
  · rintro ⟨⟨e, he⟩, es, hes⟩
    exact ⟨e :: es, by rw [ofItems, he, hes]; rfl⟩

mutual

theorem exists_ofJson_iff : ∀ v : Value, (∃ e, ofJson v = .ok e) ↔ WellShaped v
  | .null | .bool _ | .number _ | .string _ =>
    ⟨fun _ => wellShaped_scalar nofun nofun, fun _ => ⟨_, rfl⟩⟩
  | .array items => by
    rw [ofJson, exists_map_eq_ok_iff, exists_ofItems_iff items, wellShaped_array_iff]
  | .object members => exists_ofMembers_iff members

theorem exists_ofMembers_iff : ∀ members : List (String × Value),
    (∃ e, ofMembers members = .ok e) ↔ WellShaped (.object members)
  | [] => ⟨fun _ => wellShaped_literal, fun _ => ⟨_, rfl⟩⟩
  | [(name, operand)] => by
    rw [ofMembers]
    split
    next hvar => rw [hvar, wellShaped_var_iff, exists_var?_iff]
    next hname =>
      rw [exists_map_eq_ok_iff, exists_ofOperand_iff, exists_ofJson_iff operand,
        wellShaped_op_iff hname]
  | _ :: _ :: _ => by
    refine iff_of_false ?_ not_wellShaped_cons_cons
    rintro ⟨_, h⟩
    cases h

theorem exists_ofItems_iff : ∀ items : List Value,
    (∃ es, ofItems items = .ok es) ↔ ∀ v ∈ items, WellShaped v
  | [] => ⟨fun _ => nofun, fun _ => ⟨_, rfl⟩⟩
  | v :: rest => by
    rw [exists_ofItems_cons_iff, exists_ofJson_iff v, exists_ofItems_iff rest,
      List.forall_mem_cons]

end

/-! ## What is accepted -/

/-- Documents are read as the same expression exactly when they have the same canonical spelling. -/
theorem ofJson_eq_ok_iff_respell_eq {v w : Value} {e : Expr} (h : ofJson v = .ok e) :
    ofJson w = .ok e ↔ respell w = respell v := by
  constructor
  · intro hw
    rw [← toJson_eq_respell w e hw, toJson_eq_respell v e h]
  · intro hw
    rw [← ofJson_respell w, hw, ofJson_respell, h]

/-- A document is read as an expression exactly when it is well-shaped. The expression is then
written in the canonical spelling of the document, and read from what was written. It is read from
all documents of this spelling and from no others, so these have one outcome in every scope. -/
theorem ofJson_reads_wellShaped_and_respells (v : Value) :
    ((∃ e, ofJson v = .ok e) ↔ WellShaped v) ∧
      ∀ e, ofJson v = .ok e →
        ofJson e.toJson = .ok e ∧ e.toJson = respell v ∧
          (∀ w, ofJson w = .ok e ↔ respell w = respell v) ∧
            ∀ w s, respell w = respell v → (ofJson w).map (evaluate s) = .ok (e.evaluate s) := by
  refine ⟨exists_ofJson_iff v, fun e h => ?_⟩
  have hspelling : ∀ w, ofJson w = .ok e ↔ respell w = respell v :=
    fun _ => ofJson_eq_ok_iff_respell_eq h
  refine ⟨ofJson_toJson v e h, toJson_eq_respell v e h, hspelling, fun w s hw => ?_⟩
  rw [(hspelling w).2 hw]
  rfl

/-- A choice in second names and short forms. -/
def shorthand : Value :=
  .object [("?:", .array [.object [("!", .object [("var", .array [.string "paid"])])],
    .string "due", .object [("or", .object [("var", .array [.string "note", .null])])]])]

/-- The same choice as it is written. -/
def longhand : Value :=
  .object [("if", .array [.object [("not", .array [.object [("var", .string "paid")]])],
    .string "due", .object [("or", .array [.object [("var", .array [.string "note", .null])]])]])]

theorem shorthand_read_as_longhand :
    WellShaped shorthand ∧ ∃ e, ofJson shorthand = .ok e ∧ e.toJson = longhand ∧
      ofJson longhand = .ok e := by
  obtain ⟨hshape, hread⟩ := ofJson_reads_wellShaped_and_respells shorthand
  obtain ⟨e, he⟩ : ∃ e, ofJson shorthand = .ok e := ⟨_, rfl⟩
  obtain ⟨hagain, hwritten, -, -⟩ := hread e he
  have hlong : e.toJson = longhand := hwritten
  exact ⟨hshape.1 ⟨e, he⟩, e, he, hlong, hlong ▸ hagain⟩

end Expr

end FormEngine
