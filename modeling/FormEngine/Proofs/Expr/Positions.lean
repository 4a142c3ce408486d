import FormEngine.Proofs.Expr.Dependence

/-!
# Positions of variables

A part of an expression has a position: the numbers of the items and operands on the way to it. The
order of lists of numbers, in which a list stands before its extensions, is the order in which the
parts are written down: a node before its operands, and operands from the left.

The walk over an expression meets the variable nodes in the order of their positions
(`pairwise_occurrences`), and all of them (`mem_occurrences_iff`), whatever evaluation would skip.
So `variablePaths` lists what an outcome can depend on, by first position
(`variablePaths_decide_outcome`).
-/

namespace FormEngine

namespace Expr

/-- Items of a list and operands of an operator. -/
def children : Expr → List Expr
  | .literal _ => []
  | .list items => items
  | .var _ _ => []
  | .op _ args => args

/-- The part of an expression at a position. -/
def at? : Expr → List Nat → Option Expr
  | e, [] => some e
  | e, i :: position => e.children[i]?.bind fun child => child.at? position

/-- A variable node with this path stands at a position. -/
def ReadsAt (e : Expr) (position : List Nat) (path : String) : Prop :=
  ∃ fallback, e.at? position = some (.var path fallback)

theorem readsAt_cons_iff {e : Expr} {i : Nat} {position : List Nat} {path : String} :
    e.ReadsAt (i :: position) path ↔
      ∃ child, e.children[i]? = some child ∧ child.ReadsAt position path := by
  simp only [ReadsAt, at?, Option.bind_eq_some_iff]
  constructor
  · rintro ⟨fallback, child, hchild, h⟩
    exact ⟨child, hchild, fallback, h⟩
  · rintro ⟨child, hchild, fallback, h⟩
    exact ⟨fallback, child, hchild, h⟩

/-! ## The walk -/

mutual

/-- The variable nodes with their positions, as a walk over the expression meets them. -/
def occurrences : Expr → List (List Nat × String)
  | .literal _ => []
  | .list items => occurrencesFrom 0 items
  | .var path _ => [([], path)]
  | .op _ args => occurrencesFrom 0 args

/-- The variable nodes of parts that are numbered from `n` on. -/
def occurrencesFrom (n : Nat) : List Expr → List (List Nat × String)
  | [] => []
  | e :: rest => e.occurrences.map (Prod.map (n :: ·) id) ++ occurrencesFrom (n + 1) rest

end

mutual

theorem map_snd_occurrences : ∀ e : Expr, e.occurrences.map Prod.snd = e.mentions
  | .literal _ => rfl
  | .list items => map_snd_occurrencesFrom 0 items
  | .var _ _ => rfl
  | .op _ args => map_snd_occurrencesFrom 0 args

theorem map_snd_occurrencesFrom (n : Nat) : ∀ es : List Expr,
    (occurrencesFrom n es).map Prod.snd = mentionsOf es
  | [] => rfl
  | e :: rest => by
    rw [occurrencesFrom, List.map_append, List.map_map, mentionsOf, ← map_snd_occurrences e,
      map_snd_occurrencesFrom (n + 1) rest]
    rfl

end

theorem nil_notMem_occurrencesFrom {path : String} (n : Nat) (es : List Expr) :
    ([], path) ∉ occurrencesFrom n es := by
  induction es generalizing n with
  | nil => simp [occurrencesFrom]
  | cons e rest ih => simp [occurrencesFrom, ih (n + 1)]

mutual

/-- The walk meets all variable nodes, each at its position. -/
theorem mem_occurrences_iff {path : String} : ∀ (e : Expr) (position : List Nat),
    (position, path) ∈ e.occurrences ↔ e.ReadsAt position path
  | .literal _, [] | .literal _, _ :: _ => by simp [occurrences, ReadsAt, at?, children]
  | .var _ _, [] => by simp [occurrences, ReadsAt, at?, eq_comm]
  | .var _ _, _ :: _ => by simp [occurrences, ReadsAt, at?, children]
  | .list items, [] => by
    simp [occurrences, nil_notMem_occurrencesFrom, ReadsAt, at?]
  | .op _ args, [] => by
    simp [occurrences, nil_notMem_occurrencesFrom, ReadsAt, at?]
  | .list items, i :: position => by
    rw [occurrences, cons_mem_occurrencesFrom_iff 0 items i position, readsAt_cons_iff]
    simp [children]
  | .op _ args, i :: position => by
    rw [occurrences, cons_mem_occurrencesFrom_iff 0 args i position, readsAt_cons_iff]
    simp [children]

theorem cons_mem_occurrencesFrom_iff {path : String} (n : Nat) : ∀ (es : List Expr) (i : Nat)
    (position : List Nat), (i :: position, path) ∈ occurrencesFrom n es ↔
      n ≤ i ∧ ∃ child, es[i - n]? = some child ∧ child.ReadsAt position path
  | [], _, _ => by simp [occurrencesFrom]
  | e :: rest, i, position => by
    have hfirst : (i :: position, path) ∈ e.occurrences.map (Prod.map (n :: ·) id) ↔
        i = n ∧ e.ReadsAt position path := by
      rw [← mem_occurrences_iff e position, List.mem_map]
      constructor
      · rintro ⟨occurrence, h, heq⟩
        cases heq
        exact ⟨rfl, h⟩
      · rintro ⟨rfl, h⟩
        exact ⟨_, h, rfl⟩
    have hindex (h : n < i) : (e :: rest)[i - n]? = rest[i - (n + 1)]? := by
      rw [show i - n = i - (n + 1) + 1 by omega, List.getElem?_cons_succ]
    rw [occurrencesFrom, List.mem_append, hfirst,
      cons_mem_occurrencesFrom_iff (n + 1) rest i position]
    constructor
    · rintro (⟨rfl, h⟩ | ⟨hlt, child, hchild, h⟩)
      · exact ⟨Nat.le_refl i, e, by rw [Nat.sub_self]; rfl, h⟩
      · exact ⟨Nat.le_of_lt hlt, child, (hindex hlt).trans hchild, h⟩
    · rintro ⟨hle, child, hchild, h⟩
      rcases Nat.eq_or_lt_of_le hle with rfl | hlt
      · rw [Nat.sub_self] at hchild
        cases hchild
        exact .inl ⟨rfl, h⟩
      · exact .inr ⟨hlt, child, (hindex hlt).symm.trans hchild, h⟩

end

mutual

theorem pairwise_occurrences : ∀ e : Expr, e.occurrences.Pairwise fun a b => a.1 < b.1
  | .literal _ => .nil
  | .list items => pairwise_occurrencesFrom 0 items
  | .var _ _ => List.pairwise_singleton _ _
  | .op _ args => pairwise_occurrencesFrom 0 args

theorem pairwise_occurrencesFrom (n : Nat) : ∀ es : List Expr,
    (occurrencesFrom n es).Pairwise fun a b => a.1 < b.1
  | [] => .nil
  | e :: rest => by
    refine List.pairwise_append.2 ⟨?_, pairwise_occurrencesFrom (n + 1) rest, ?_⟩
    · refine List.pairwise_map.2 ((pairwise_occurrences e).imp fun h => ?_)
      exact List.cons_lt_cons_iff.2 (.inr ⟨rfl, h⟩)
    · rintro a ha ⟨position, path⟩ hb
      obtain ⟨a', -, rfl⟩ := List.mem_map.1 ha
      cases position with
      | nil => exact absurd hb (nil_notMem_occurrencesFrom _ _)
      | cons i position =>
        have hle := ((cons_mem_occurrencesFrom_iff _ _ _ _).1 hb).1
        exact List.cons_lt_cons_iff.2 (.inl hle)

end

/-! ## First positions -/

theorem pairwise_distinct_map_snd {α β : Type} [DecidableEq β] {R : α → α → Prop}
    {l : List (α × β)} (h : l.Pairwise fun a b => R a.1 b.1) :
    (distinct (l.map Prod.snd)).Pairwise fun p q =>
      ∃ a, (a, p) ∈ l ∧ ∀ b, (b, q) ∈ l → R a b := by
  induction l with
  | nil => exact .nil
  | cons first rest ih =>
    obtain ⟨place, p⟩ := first
    obtain ⟨hfirst, hrest⟩ := List.pairwise_cons.1 h
    have hbehind {q : β} (hq : q ∈ (distinct (rest.map Prod.snd)).filter (· ≠ p)) {b : α}
        (hb : (b, q) ∈ (place, p) :: rest) : (b, q) ∈ rest := by
      refine (List.mem_cons.1 hb).resolve_left fun heq => ?_
      simp only [List.mem_filter, decide_eq_true_eq] at hq
      exact hq.2 (congrArg Prod.snd heq)
    rw [List.map_cons, distinct]
    refine List.pairwise_cons.2 ⟨fun q hq => ?_, ?_⟩
    · exact ⟨place, List.mem_cons_self, fun b hb => hfirst _ (hbehind hq hb)⟩
    · refine ((ih hrest).filter _).imp_of_mem ?_
      rintro q r - hr ⟨a, ha, hbefore⟩
      exact ⟨a, List.mem_cons_of_mem _ ha, fun b hb => hbefore b (hbehind hr hb)⟩

theorem mem_variablePaths_iff_readsAt {e : Expr} {path : String} :
    path ∈ e.variablePaths ↔ ∃ position, e.ReadsAt position path := by
  rw [mem_variablePaths, ← map_snd_occurrences, List.mem_map]
  constructor
  · rintro ⟨⟨position, path⟩, h, rfl⟩
    exact ⟨position, (mem_occurrences_iff e position).1 h⟩
  · rintro ⟨position, h⟩
    exact ⟨_, (mem_occurrences_iff e position).2 h, rfl⟩

/-- Of two listed paths the first one stands at a position before all those of the second. -/
theorem pairwise_variablePaths (e : Expr) : e.variablePaths.Pairwise fun p q =>
    ∃ a, e.ReadsAt a p ∧ ∀ b, e.ReadsAt b q → a < b := by
  rw [variablePaths, ← map_snd_occurrences]
  refine (pairwise_distinct_map_snd (pairwise_occurrences e)).imp ?_
  rintro p q ⟨a, ha, hbefore⟩
  exact ⟨a, (mem_occurrences_iff e a).1 ha, fun b hb =>
    hbefore b ((mem_occurrences_iff e b).2 hb)⟩

/-- An expression has one outcome, value and warnings, in scopes that agree on the paths it lists.
It lists exactly the paths of its variable nodes, wherever they stand, each once and in the order of
their first positions. -/
theorem variablePaths_decide_outcome (e : Expr) :
    (∀ s t : Scope, (∀ path ∈ e.variablePaths, s.resolve? path = t.resolve? path) →
      e.evaluate s = e.evaluate t) ∧
    (∀ path, path ∈ e.variablePaths ↔ ∃ position, e.ReadsAt position path) ∧
    e.variablePaths.Nodup ∧
    e.variablePaths.Pairwise fun p q => ∃ a, e.ReadsAt a p ∧ ∀ b, e.ReadsAt b q → a < b :=
  ⟨fun _ _ h => evaluate_congr h, fun _ => mem_variablePaths_iff_readsAt, nodup_distinct _,
    pairwise_variablePaths e⟩

/-- A ticket is free for members and for the young; what the operator `near` says is not asked
where the first operand is true. -/
def freeTicket : Expr :=
  .op .or [.var "member" none, .op (.relation .less) [.var "age" none, .literal (.number (.int 6))],
    .op (.unknown "near") [.var "city" none, .var "age" none]]

theorem freeTicket_outcome :
    freeTicket.evaluate ⟨[("age", .number (.int 5)), ("seat", .string "A1")], [], [], .fallback⟩ =
      freeTicket.evaluate ⟨[("age", .number (.int 5))], [], [("seat", .null)], .fallback⟩ := by
  refine (variablePaths_decide_outcome freeTicket).1 _ _ ?_
  have hpaths : freeTicket.variablePaths = ["member", "age", "city"] := by decide
  rw [hpaths]
  simp only [List.mem_cons, List.not_mem_nil, or_false, forall_eq_or_imp, forall_eq]
  exact ⟨rfl, rfl, rfl⟩

end Expr

end FormEngine
