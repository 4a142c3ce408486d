import FormEngine.Digraph.Search
import Mathlib.Data.List.Nodup
import Mathlib.Logic.Relation

/-!
# The invariant of the search

`Edge next nodes` relates a node to its successors among the nodes. `Sound path t` is the invariant
of the search for components, while the edges of the nodes of the path are still being followed:
older open nodes reach newer ones, every open node reaches back to the path, and closed components
are classes of nodes that reach one another. A node that is entered keeps every part of it
(`Sound.enter`). `Following` is the invariant of the loop over the edges of one node, which holds
when the node is entered (`following_enter`), and `Explored` says what the exploration of a node
gives.
-/

namespace FormEngine.Digraph

/-- `b` is a successor of `a` and one of the nodes. -/
def Edge (next : String → List String) (nodes : List String) (a b : String) : Prop :=
  b ∈ next a ∧ b ∈ nodes

variable {next : String → List String} {nodes : List String}

namespace Search

/-- The invariant of the search. -/
structure Sound (next : String → List String) (nodes path : List String) (t : Search) : Prop where
  known : ∀ a, t.isMet a = true → a ∈ nodes
  met_iff : ∀ a, t.isMet a = true ↔ a ∈ t.stack ∨ a ∈ t.components.flatten
  /-- No node is open twice, closed twice, or open and closed. -/
  once : (t.stack ++ t.components.flatten).Nodup
  entered : t.numbers.keys.Nodup ∧ t.numbers.keys.length = t.entered
  number_lt : ∀ a, t.isMet a = true → t.number a < t.entered
  decreasing : t.stack.Pairwise fun a b => t.number b < t.number a
  pathOpen : ∀ p ∈ path, p ∈ t.stack
  older : ∀ a ∈ t.stack, ∀ b ∈ t.stack, t.number a ≤ t.number b →
    Relation.ReflTransGen (Edge next nodes) a b
  back : ∀ a ∈ t.stack, ∃ p ∈ path, t.number p ≤ t.number a ∧
    Relation.ReflTransGen (Edge next nodes) a p
  followed : ∀ a, t.isMet a = true → a ∉ path → ∀ b, Edge next nodes a b → t.isMet b = true
  /-- Edges of closed nodes lead to closed nodes. -/
  closed : ∀ a ∈ t.components.flatten, ∀ b, Edge next nodes a b → b ∈ t.components.flatten
  classes : ∀ c ∈ t.components, ∀ a ∈ c, ∀ b,
    b ∈ c ↔
      Relation.ReflTransGen (Edge next nodes) a b ∧ Relation.ReflTransGen (Edge next nodes) b a

/-- What stays the same about the nodes that have been met. -/
structure Grows (t u : Search) : Prop where
  met : ∀ a, t.isMet a = true → u.isMet a = true
  number : ∀ a, t.isMet a = true → u.number a = t.number a
  link : ∀ a, t.isMet a = true → u.link a = t.link a

/-- What the exploration of a node gives, from the state before it to the state after it. -/
structure Explored (next : String → List String) (nodes path : List String) (t : Search)
    (a : String) (u : Search) : Prop where
  sound : Sound next nodes path u
  grows : Grows t u
  met : u.isMet a = true
  number : u.number a = t.entered
  link_le : u.link a ≤ u.number a
  link_reached : ∃ b, (b ∈ u.stack ∨ b = a) ∧ u.number b = u.link a ∧
    Relation.ReflTransGen (Edge next nodes) a b
  /-- Edges from newly opened nodes to older ones are taken in by the link. -/
  opened : ∃ new, u.stack = new ++ t.stack ∧ (∀ b ∈ new, t.isMet b = false) ∧
    ∀ b ∈ new, ∀ c ∈ t.stack, Edge next nodes b c → u.link a ≤ u.number c

/-- The invariant of the loop over the edges of a node: the state before the node was entered, the
edges that remain, and the state now. -/
structure Following (next : String → List String) (nodes path : List String) (t : Search)
    (a : String) (rest : List String) (u : Search) : Prop where
  start : Sound next nodes path t
  unmet : t.isMet a = false
  below : ∀ p ∈ path, Relation.ReflTransGen (Edge next nodes) p a
  edges : ∀ b ∈ rest, b ∈ next a
  sound : Sound next nodes (a :: path) u
  grows : Grows t u
  number : u.number a = t.entered
  link_le : u.link a ≤ u.number a
  link_reached : ∃ b ∈ u.stack, u.number b = u.link a ∧ Relation.ReflTransGen (Edge next nodes) a b
  opened : ∃ new, u.stack = new ++ a :: t.stack ∧ (∀ b ∈ new, t.isMet b = false) ∧
    ∀ b ∈ new, ∀ c ∈ a :: t.stack, Edge next nodes b c → u.link a ≤ u.number c
  followed : ∀ b, Edge next nodes a b →
    b ∈ rest ∨ u.isMet b = true ∧ (b ∈ u.stack → u.link a ≤ u.number b)

variable {path rest new : List String} {t u v : Search} {a b : String}

theorem Grows.refl (t : Search) : Grows t t := ⟨fun _ h => h, fun _ _ => rfl, fun _ _ => rfl⟩

theorem Grows.trans (h : Grows t u) (h' : Grows u v) : Grows t v :=
  ⟨fun a ha => h'.met a (h.met a ha),
    fun a ha => (h'.number a (h.met a ha)).trans (h.number a ha),
    fun a ha => (h'.link a (h.met a ha)).trans (h.link a ha)⟩

theorem Grows.unmet (h : Grows t u) (hb : u.isMet b = false) : t.isMet b = false := by
  rw [Bool.eq_false_iff] at hb ⊢
  exact fun hmet => hb (h.met b hmet)

/-! ## Open and closed nodes -/

theorem Sound.met_of_open (h : Sound next nodes path t) (ha : a ∈ t.stack) : t.isMet a = true :=
  (h.met_iff a).2 (.inl ha)

theorem Sound.not_closed (h : Sound next nodes path t) (ha : a ∈ t.stack) :
    a ∉ t.components.flatten :=
  fun hclosed => List.disjoint_of_nodup_append h.once ha hclosed

theorem Sound.closed_of_reach (h : Sound next nodes path t) (ha : a ∈ t.components.flatten)
    (hwalk : Relation.ReflTransGen (Edge next nodes) a b) : b ∈ t.components.flatten := by
  induction hwalk with
  | refl => exact ha
  | tail _ hedge ih => exact h.closed _ ih _ hedge

theorem Sound.lower (h : Sound next nodes path t) (a : String) (n : Nat) :
    Sound next nodes path (t.lower a n) :=
  { h with }

theorem sound_empty : Sound next nodes [] {} where
  known := fun _ h => by cases h
  met_iff := fun _ => by simp [isMet, Dict.has]
  once := List.nodup_nil
  entered := ⟨List.nodup_nil, rfl⟩
  number_lt := fun _ h => by cases h
  decreasing := .nil
  pathOpen := fun _ h => by cases h
  older := fun _ h => by cases h
  back := fun _ h => by cases h
  followed := fun _ h => by cases h
  closed := fun _ h => by cases h
  classes := fun _ h => by cases h

/-! ## Entering a node -/

theorem number_enter_of_met (hmet : t.isMet a = false) :
    (t.enter a).number a = t.entered ∧
      ∀ b, t.isMet b = true → a ≠ b ∧ (t.enter a).number b = t.number b := by
  refine ⟨by rw [number_enter, if_pos rfl], fun b hb => ?_⟩
  have hne : a ≠ b := by
    rintro rfl
    rw [hmet] at hb
    cases hb
  exact ⟨hne, by rw [number_enter, if_neg hne]⟩

namespace Sound

theorem reaches (h : Sound next nodes path t)
    (hpath : ∀ p ∈ path, Relation.ReflTransGen (Edge next nodes) p a) (hb : b ∈ t.stack) :
    Relation.ReflTransGen (Edge next nodes) b a := by
  obtain ⟨p, hp, -, hwalk⟩ := h.back b hb
  exact hwalk.trans (hpath p hp)

theorem followed_enter (h : Sound next nodes path t) (hb : (t.enter a).isMet b = true)
    (hout : b ∉ a :: path) {c : String} (hedge : Edge next nodes b c) :
    (t.enter a).isMet c = true := by
  rw [List.mem_cons, not_or] at hout
  rw [isMet_enter] at hb ⊢
  exact .inr (h.followed b (hb.resolve_left hout.1) hout.2 c hedge)

section Enter

variable (h : Sound next nodes path t) (hmet : t.isMet a = false)
include h hmet

theorem number_enter_of_open (hb : b ∈ t.stack) : (t.enter a).number b = t.number b :=
  ((number_enter_of_met hmet).2 b (h.met_of_open hb)).2

theorem once_enter : ((t.enter a).stack ++ (t.enter a).components.flatten).Nodup := by
  have hfresh : a ∉ t.stack ++ t.components.flatten := by
    rw [List.mem_append, ← h.met_iff a, hmet]
    exact Bool.false_ne_true
  exact List.nodup_cons.2 ⟨hfresh, h.once⟩

theorem entered_enter :
    (t.enter a).numbers.keys.Nodup ∧
      (t.enter a).numbers.keys.length = (t.enter a).entered := by
  have hkey : a ∉ t.numbers.keys := fun hkey => by
    rw [← Dict.has_iff] at hkey
    exact ((number_enter_of_met hmet).2 a hkey).1 rfl
  have hperm := Dict.keys_insert_perm hkey t.entered
  refine ⟨hperm.nodup_iff.2 (List.nodup_cons.2 ⟨hkey, h.entered.1⟩), ?_⟩
  show (t.numbers.insert a t.entered).keys.length = t.entered + 1
  rw [hperm.length_eq, List.length_cons, h.entered.2]

theorem number_lt_enter (hb : (t.enter a).isMet b = true) :
    (t.enter a).number b < (t.enter a).entered := by
  obtain ⟨hnumber, hold⟩ := number_enter_of_met hmet
  show _ < t.entered + 1
  rcases (isMet_enter t a b).1 hb with rfl | hb
  · omega
  · have := h.number_lt b hb
    rw [(hold b hb).2]
    omega

theorem decreasing_enter :
    (t.enter a).stack.Pairwise fun b c => (t.enter a).number c < (t.enter a).number b := by
  refine List.pairwise_cons.2 ⟨fun b hb => ?_, ?_⟩
  · rw [(number_enter_of_met hmet).1, h.number_enter_of_open hmet hb]
    exact h.number_lt b (h.met_of_open hb)
  · refine h.decreasing.imp_of_mem fun {b c} hb hc hlt => ?_
    rwa [h.number_enter_of_open hmet hb, h.number_enter_of_open hmet hc]

theorem older_enter (hpath : ∀ p ∈ path, Relation.ReflTransGen (Edge next nodes) p a) {c : String}
    (hb : b ∈ (t.enter a).stack) (hc : c ∈ (t.enter a).stack)
    (hle : (t.enter a).number b ≤ (t.enter a).number c) :
    Relation.ReflTransGen (Edge next nodes) b c := by
  rcases List.mem_cons.1 hb with rfl | hb'
  · rcases List.mem_cons.1 hc with rfl | hc'
    · exact .refl
    · have hnewest := (List.pairwise_cons.1 (h.decreasing_enter hmet)).1 c hc'
      omega
  · rcases List.mem_cons.1 hc with rfl | hc'
    · exact h.reaches hpath hb'
    · rw [h.number_enter_of_open hmet hb', h.number_enter_of_open hmet hc'] at hle
      exact h.older b hb' c hc' hle

theorem back_enter (hb : b ∈ (t.enter a).stack) :
    ∃ p ∈ a :: path, (t.enter a).number p ≤ (t.enter a).number b ∧
      Relation.ReflTransGen (Edge next nodes) b p := by
  rcases List.mem_cons.1 hb with rfl | hb
  · exact ⟨b, List.mem_cons_self, Nat.le_refl _, .refl⟩
  · obtain ⟨p, hp, hle, hwalk⟩ := h.back b hb
    refine ⟨p, List.mem_cons_of_mem _ hp, ?_, hwalk⟩
    rwa [h.number_enter_of_open hmet hb, h.number_enter_of_open hmet (h.pathOpen p hp)]

end Enter

/-- Entered from the path, a node joins the path. -/
theorem enter (h : Sound next nodes path t) (ha : a ∈ nodes) (hmet : t.isMet a = false)
    (hpath : ∀ p ∈ path, Relation.ReflTransGen (Edge next nodes) p a) :
    Sound next nodes (a :: path) (t.enter a) where
  known := fun b hb => ((isMet_enter t a b).1 hb).elim (fun heq => heq ▸ ha) (h.known b)
  met_iff := fun b => by
    rw [isMet_enter, h.met_iff]
    show _ ↔ b ∈ a :: t.stack ∨ b ∈ t.components.flatten
    rw [List.mem_cons, or_assoc]
  once := h.once_enter hmet
  entered := h.entered_enter hmet
  number_lt := fun _ hb => h.number_lt_enter hmet hb
  decreasing := h.decreasing_enter hmet
  pathOpen := fun _ hp => (List.mem_cons.1 hp).elim (fun heq => heq ▸ List.mem_cons_self)
    fun hp => List.mem_cons_of_mem _ (h.pathOpen _ hp)
  older := fun _ hb _ hc hle => h.older_enter hmet hpath hb hc hle
  back := fun _ hb => h.back_enter hmet hb
  followed := fun _ hb hout _ hedge => h.followed_enter hb hout hedge
  closed := h.closed
  classes := h.classes

end Sound

theorem following_enter (h : Sound next nodes path t) (ha : a ∈ nodes) (hmet : t.isMet a = false)
    (hpath : ∀ p ∈ path, Relation.ReflTransGen (Edge next nodes) p a) :
    Following next nodes path t a (next a) (t.enter a) := by
  obtain ⟨hnumber, hmetBefore⟩ := number_enter_of_met hmet
  have hlink : (t.enter a).link a = t.entered := by rw [link_enter, if_pos rfl]
  have hgrows : Grows t (t.enter a) := {
    met := fun b hb => (isMet_enter t a b).2 (.inr hb)
    number := fun b hb => (hmetBefore b hb).2
    link := fun b hb => by rw [link_enter, if_neg (hmetBefore b hb).1] }
  exact {
    start := h
    unmet := hmet
    below := hpath
    edges := fun _ hb => hb
    sound := h.enter ha hmet hpath
    grows := hgrows
    number := hnumber
    link_le := Nat.le_of_eq (hlink.trans hnumber.symm)
    link_reached := ⟨a, List.mem_cons_self, hnumber.trans hlink.symm, .refl⟩
    opened := ⟨[], rfl, fun b hb => (by cases hb), fun b hb => (by cases hb)⟩
    followed := fun b hedge => .inl hedge.1 }

end Search

end FormEngine.Digraph
