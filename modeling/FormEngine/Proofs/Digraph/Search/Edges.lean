import FormEngine.Proofs.Digraph.Search.Invariant

/-!
# Following the edges of a node

Each edge of a node keeps the invariant of the loop over its edges, whether it leads to an open node
(`Following.touch`), to a closed one (`Following.skip`) or to one that is explored first
(`Following.explored`); `Covers` is what the first and the last have in common. At the end of the
loop the node is left: it stays open if it reaches an older open node, and else it closes a class of
nodes that reach one another (`Following.leave`).
-/

namespace FormEngine.Digraph.Search

variable {next : String → List String} {nodes path rest new : List String}
  {t u v : Search} {a b c d : String} {n : Nat} {fresh : List String}

/-- What the search does for one edge of a node: it goes on to a state where some more nodes are
open, and finds a number that covers the edge and the edges of these nodes. -/
structure Covers (next : String → List String) (nodes path : List String) (u : Search)
    (a b : String) (v : Search) (fresh : List String) (n : Nat) : Prop where
  sound : Sound next nodes (a :: path) v
  grows : Grows u v
  stack : v.stack = fresh ++ u.stack
  unmet : ∀ c ∈ fresh, u.isMet c = false
  edges : ∀ c ∈ fresh, ∀ d ∈ u.stack, Edge next nodes c d → n ≤ v.number d
  reached : u.link a ≤ n ∨
    ∃ c ∈ v.stack, v.number c = n ∧ Relation.ReflTransGen (Edge next nodes) a c
  edge : Edge next nodes a b → v.isMet b = true ∧ (b ∈ v.stack → n ≤ v.number b)

namespace Covers

theorem open_of_open (hc : Covers next nodes path u a b v fresh n) (h : c ∈ u.stack) :
    c ∈ v.stack :=
  hc.stack ▸ List.mem_append_right _ h

theorem open_of_met (hc : Covers next nodes path u a b v fresh n) (hmet : u.isMet c = true)
    (h : c ∈ v.stack) : c ∈ u.stack := by
  rcases List.mem_append.1 (hc.stack ▸ h) with hfresh | h
  · rw [hc.unmet c hfresh] at hmet
    cases hmet
  · exact h

end Covers

namespace Following

theorem met (h : Following next nodes path t a rest u) : u.isMet a = true :=
  h.sound.met_of_open (h.sound.pathOpen a List.mem_cons_self)

theorem ne_of_met (h : Following next nodes path t a rest u) (hb : t.isMet b = true) : a ≠ b := by
  rintro rfl
  rw [h.unmet] at hb
  cases hb

section Covers

variable (h : Following next nodes path t a (b :: rest) u)
  (hc : Covers next nodes path u a b v fresh n)
include h hc

theorem link_lower : (v.lower a n).link a = min n (u.link a) := by
  rw [Search.link_lower, if_pos rfl, hc.grows.link a h.met]

theorem number_of_open (hopen : c ∈ u.stack) : v.number c = u.number c :=
  hc.grows.number c (h.sound.met_of_open hopen)

theorem grows_lower : Grows t (v.lower a n) := by
  have hgrows := h.grows.trans hc.grows
  refine ⟨hgrows.met, hgrows.number, fun c hmet => ?_⟩
  rw [Search.link_lower, if_neg (h.ne_of_met hmet)]
  exact hgrows.link c hmet

theorem link_reached_lower :
    ∃ c ∈ (v.lower a n).stack, (v.lower a n).number c = (v.lower a n).link a ∧
      Relation.ReflTransGen (Edge next nodes) a c := by
  rw [h.link_lower hc]
  by_cases hmin : u.link a ≤ n
  · obtain ⟨c, hopen, hnumber, hwalk⟩ := h.link_reached
    rw [Nat.min_eq_right hmin]
    exact ⟨c, hc.open_of_open hopen, (h.number_of_open hc hopen).trans hnumber, hwalk⟩
  · obtain ⟨c, hopen, hnumber, hwalk⟩ := hc.reached.resolve_left hmin
    rw [Nat.min_eq_left (by omega)]
    exact ⟨c, hopen, hnumber, hwalk⟩

theorem opened_lower :
    ∃ new, (v.lower a n).stack = new ++ a :: t.stack ∧ (∀ c ∈ new, t.isMet c = false) ∧
      ∀ c ∈ new, ∀ d ∈ a :: t.stack, Edge next nodes c d →
        (v.lower a n).link a ≤ (v.lower a n).number d := by
  obtain ⟨new, hstack, hunmet, hedges⟩ := h.opened
  refine ⟨fresh ++ new, ?_, fun c hnew => ?_, fun c hnew d hd hedge => ?_⟩
  · show v.stack = _
    rw [hc.stack, hstack, List.append_assoc]
  · rcases List.mem_append.1 hnew with hnew | hnew
    · exact h.grows.unmet (hc.unmet c hnew)
    · exact hunmet c hnew
  · have hopen : d ∈ u.stack := hstack ▸ List.mem_append_right _ hd
    rw [h.link_lower hc]
    show _ ≤ v.number d
    rcases List.mem_append.1 hnew with hnew | hnew
    · exact Nat.le_trans (Nat.min_le_left _ _) (hc.edges c hnew d hopen hedge)
    · rw [h.number_of_open hc hopen]
      exact Nat.le_trans (Nat.min_le_right _ _) (hedges c hnew d hd hedge)

theorem followed_lower (hedge : Edge next nodes a c) :
    c ∈ rest ∨ (v.lower a n).isMet c = true ∧
      (c ∈ (v.lower a n).stack → (v.lower a n).link a ≤ (v.lower a n).number c) := by
  rw [h.link_lower hc]
  show c ∈ rest ∨ v.isMet c = true ∧ (c ∈ v.stack → _ ≤ v.number c)
  rcases h.followed c hedge with hmem | ⟨hmet, hle⟩
  · rcases List.mem_cons.1 hmem with rfl | hmem
    · obtain ⟨hmet, hle⟩ := hc.edge hedge
      exact .inr ⟨hmet, fun hopen => Nat.le_trans (Nat.min_le_left _ _) (hle hopen)⟩
    · exact .inl hmem
  · refine .inr ⟨hc.grows.met c hmet, fun hopen => ?_⟩
    have hopen := hc.open_of_met hmet hopen
    rw [h.number_of_open hc hopen]
    exact Nat.le_trans (Nat.min_le_right _ _) (hle hopen)

end Covers

/-- One more edge is taken in when the link of the node is lowered to a number that covers it. -/
theorem advance (h : Following next nodes path t a (b :: rest) u)
    (hc : Covers next nodes path u a b v fresh n) :
    Following next nodes path t a rest (v.lower a n) where
  start := h.start
  unmet := h.unmet
  below := h.below
  edges := fun c hmem => h.edges c (List.mem_cons_of_mem _ hmem)
  sound := hc.sound.lower a n
  grows := h.grows_lower hc
  number := (hc.grows.number a h.met).trans h.number
  link_le := by
    rw [h.link_lower hc]
    exact Nat.le_trans (Nat.min_le_right _ _) (hc.grows.number a h.met ▸ h.link_le)
  link_reached := h.link_reached_lower hc
  opened := h.opened_lower hc
  followed := fun _ hedge => h.followed_lower hc hedge

theorem touch (h : Following next nodes path t a (b :: rest) u) (hopen : b ∈ u.stack) :
    Following next nodes path t a rest (u.lower a (u.number b)) := by
  have hmet := h.sound.met_of_open hopen
  have hwalk := Relation.ReflTransGen.single
    (r := Edge next nodes) ⟨h.edges b List.mem_cons_self, h.sound.known b hmet⟩
  exact h.advance {
    sound := h.sound
    grows := Grows.refl u
    stack := (List.nil_append _).symm
    unmet := fun _ hc => absurd hc List.not_mem_nil
    edges := fun _ hc => absurd hc List.not_mem_nil
    reached := .inr ⟨b, hopen, rfl, hwalk⟩
    edge := fun _ => ⟨hmet, fun _ => Nat.le_refl _⟩ }

theorem skip (h : Following next nodes path t a (b :: rest) u) (hopen : b ∉ u.stack)
    (hmet : Edge next nodes a b → u.isMet b = true) : Following next nodes path t a rest u :=
  { h with
    edges := fun c hc => h.edges c (List.mem_cons_of_mem _ hc)
    followed := fun c hedge => by
      rcases h.followed c hedge with hc | hc
      · rcases List.mem_cons.1 hc with rfl | hc
        · exact .inr ⟨hmet hedge, fun hc => absurd hc hopen⟩
        · exact .inl hc
      · exact .inr hc }

theorem explored (h : Following next nodes path t a (b :: rest) u) (hedge : Edge next nodes a b)
    (hb : Explored next nodes (a :: path) u b v) :
    Following next nodes path t a rest (v.lower a (v.link b)) := by
  obtain ⟨fresh, hstack, hfresh, hedges⟩ := hb.opened
  refine h.advance {
    sound := hb.sound
    grows := hb.grows
    stack := hstack
    unmet := hfresh
    edges := hedges
    reached := ?_
    edge := fun _ => ⟨hb.met, fun _ => hb.link_le⟩ }
  obtain ⟨c, hc, hnumber, hwalk⟩ := hb.link_reached
  rcases hc with hc | rfl
  · exact .inr ⟨c, hc, hnumber, hwalk.head hedge⟩
  · -- the node has closed; its own number is larger than the link of the older node
    left
    have hlt := h.sound.number_lt a h.met
    have hle := h.link_le
    rw [← hnumber, hb.number]
    omega

/-! ## Leaving a node -/

theorem split (hstack : u.stack = new ++ a :: t.stack) : u.stack = (new ++ [a]) ++ t.stack := by
  rw [hstack, List.append_assoc, List.singleton_append]

theorem followed_of_done (h : Following next nodes path t a [] u) (hc : u.isMet c = true)
    (hpath : c ∉ path) (hedge : Edge next nodes c d) : u.isMet d = true := by
  by_cases hca : c = a
  · subst hca
    exact ((h.followed d hedge).resolve_left List.not_mem_nil).1
  · exact h.sound.followed c hc (by simp [hca, hpath]) d hedge

/-- A node with an older number as its link reaches back to the path that led to it, and so do the
nodes opened after it. -/
theorem back_of_link_lt (h : Following next nodes path t a [] u) (hlink : u.link a ≠ u.number a)
    (hc : c ∈ u.stack) :
    ∃ p ∈ path, u.number p ≤ u.number c ∧ Relation.ReflTransGen (Edge next nodes) c p := by
  obtain ⟨low, hlow, hlowNumber, hlowWalk⟩ := h.link_reached
  have hle := h.link_le
  obtain ⟨q, hq, hqle, hqwalk⟩ := h.sound.back low hlow
  have hqpath : q ∈ path := by
    rcases List.mem_cons.1 hq with rfl | hq
    · omega
    · exact hq
  obtain ⟨p, hp, hle, hwalk⟩ := h.sound.back c hc
  rcases List.mem_cons.1 hp with rfl | hp
  · exact ⟨q, hqpath, by omega, hwalk.trans (hlowWalk.trans hqwalk)⟩
  · exact ⟨p, hp, hle, hwalk⟩

section Done

variable (h : Following next nodes path t a [] u) (hstack : u.stack = new ++ a :: t.stack)
include h hstack

/-- The nodes opened since the node was entered are newer than it, the others are older. -/
theorem ordered :
    (∀ c ∈ new, u.number a < u.number c) ∧ ∀ c ∈ t.stack, u.number c < u.number a := by
  have hpairs := h.sound.decreasing
  rw [hstack, List.pairwise_append] at hpairs
  exact ⟨fun c hc => hpairs.2.2 c hc a List.mem_cons_self,
    fun c hc => List.rel_of_pairwise_cons hpairs.2.1 hc⟩

theorem number_le (hc : c ∈ new ++ [a]) : u.number a ≤ u.number c := by
  rcases List.mem_append.1 hc with hc | hc
  · exact Nat.le_of_lt ((h.ordered hstack).1 c hc)
  · exact Nat.le_of_eq (by rw [List.mem_singleton.1 hc])

theorem notMem_path (hc : c ∈ new ++ [a]) : c ∉ path := fun hpath =>
  Nat.not_lt.2 (h.number_le hstack hc) ((h.ordered hstack).2 c (h.start.pathOpen c hpath))

theorem met_iff_close (c : String) :
    u.isMet c = true ↔ c ∈ t.stack ∨ c ∈ (u.components ++ [new ++ [a]]).flatten := by
  rw [h.sound.met_iff]
  simp only [List.flatten_append, List.flatten_singleton, split hstack, List.mem_append]
  tauto

theorem once_close : (t.stack ++ (u.components ++ [new ++ [a]]).flatten).Nodup := by
  have honce := h.sound.once
  rw [split hstack, List.append_assoc] at honce
  rw [List.flatten_append, List.flatten_singleton, ← List.append_assoc]
  exact List.perm_append_comm.nodup_iff.1 honce

theorem back_close (hc : c ∈ t.stack) :
    ∃ p ∈ path, u.number p ≤ u.number c ∧ Relation.ReflTransGen (Edge next nodes) c p := by
  have hopen : c ∈ u.stack := split hstack ▸ List.mem_append_right _ hc
  obtain ⟨p, hp, hle, hwalk⟩ := h.sound.back c hopen
  rcases List.mem_cons.1 hp with rfl | hp
  · exact absurd ((h.ordered hstack).2 c hc) (Nat.not_lt.2 hle)
  · exact ⟨p, hp, hle, hwalk⟩

variable (hnew : ∀ c ∈ new, ∀ d ∈ a :: t.stack, Edge next nodes c d → u.link a ≤ u.number d)
include hnew

/-- The link takes in the edges to older nodes once all edges are followed. -/
theorem link_le_of_done (hc : c ∈ new ++ [a]) (hd : d ∈ t.stack) (hedge : Edge next nodes c d) :
    u.link a ≤ u.number d := by
  rcases List.mem_append.1 hc with hc | hc
  · exact hnew c hc d (List.mem_cons_of_mem _ hd) hedge
  · rw [List.mem_singleton.1 hc] at hedge
    exact ((h.followed d hedge).resolve_left List.not_mem_nil).2
      (split hstack ▸ List.mem_append_right _ hd)

variable (hlink : u.link a = u.number a)
include hlink

/-- If the link of the node is its own number, the nodes opened since it was entered reach one
another and closed nodes only. -/
theorem stays (hc : c ∈ new ++ [a]) (hwalk : Relation.ReflTransGen (Edge next nodes) c d) :
    d ∈ new ++ [a] ∨ d ∈ u.components.flatten := by
  induction hwalk with
  | refl => exact .inl hc
  | @tail x y _ hedge ih =>
    rcases ih with hx | hx
    · have hopen : x ∈ u.stack := split hstack ▸ List.mem_append_left _ hx
      have hmet := h.followed_of_done (h.sound.met_of_open hopen) (h.notMem_path hstack hx) hedge
      rcases (h.sound.met_iff y).1 hmet with hy | hy
      · rw [split hstack] at hy
        rcases List.mem_append.1 hy with hy | hy
        · exact .inl hy
        · have hlt := (h.ordered hstack).2 y hy
          have hle := h.link_le_of_done hstack hnew hx hy hedge
          omega
      · exact .inr hy
    · exact .inr (h.sound.closed x hx y hedge)

theorem reaches_self (hc : c ∈ new ++ [a]) : Relation.ReflTransGen (Edge next nodes) c a := by
  have hopen : c ∈ u.stack := split hstack ▸ List.mem_append_left _ hc
  obtain ⟨p, hp, -, hwalk⟩ := h.sound.back c hopen
  rcases List.mem_cons.1 hp with rfl | hpath
  · exact hwalk
  · rcases h.stays hstack hnew hlink hc hwalk with hin | hclosed
    · exact absurd hpath (h.notMem_path hstack hin)
    · exact absurd hclosed (h.sound.not_closed (h.sound.pathOpen p hp))

/-- If the link of the node is its own number, the node and those opened after it are the nodes that
it reaches and that reach it. -/
theorem class_iff (hc : c ∈ new ++ [a]) (d : String) :
    d ∈ new ++ [a] ↔
      Relation.ReflTransGen (Edge next nodes) c d ∧
        Relation.ReflTransGen (Edge next nodes) d c := by
  have hopen : ∀ x ∈ new ++ [a], x ∈ u.stack :=
    fun x hx => split hstack ▸ List.mem_append_left _ hx
  have hforth : ∀ x ∈ new ++ [a], Relation.ReflTransGen (Edge next nodes) a x := fun x hx =>
    h.sound.older a (h.sound.pathOpen a List.mem_cons_self) x (hopen x hx) (h.number_le hstack hx)
  have hback : ∀ x ∈ new ++ [a], Relation.ReflTransGen (Edge next nodes) x a :=
    fun x hx => h.reaches_self hstack hnew hlink hx
  constructor
  · exact fun hd => ⟨(hback c hc).trans (hforth d hd), (hback d hd).trans (hforth c hc)⟩
  · rintro ⟨hcd, hdc⟩
    refine (h.stays hstack hnew hlink hc hcd).resolve_right fun hclosed => ?_
    exact h.sound.not_closed (hopen c hc) (h.sound.closed_of_reach hclosed hdc)

theorem closed_close (hc : c ∈ (u.components ++ [new ++ [a]]).flatten)
    (hedge : Edge next nodes c d) : d ∈ (u.components ++ [new ++ [a]]).flatten := by
  rw [List.flatten_append, List.flatten_singleton] at hc ⊢
  rcases List.mem_append.1 hc with hc | hc
  · exact List.mem_append_left _ (h.sound.closed c hc d hedge)
  · exact List.mem_append.2 (h.stays hstack hnew hlink hc (.single hedge)).symm

theorem sound_closed :
    Sound next nodes path
      { u with stack := t.stack, components := u.components ++ [new ++ [a]] } := by
  have hopen : ∀ c ∈ t.stack, c ∈ u.stack :=
    fun c hc => split hstack ▸ List.mem_append_right _ hc
  have hdecreasing := split hstack ▸ h.sound.decreasing
  exact {
    known := h.sound.known
    met_iff := h.met_iff_close hstack
    once := h.once_close hstack
    entered := h.sound.entered
    number_lt := h.sound.number_lt
    decreasing := (List.pairwise_append.1 hdecreasing).2.1
    pathOpen := h.start.pathOpen
    older := fun c hc d hd hle => h.sound.older c (hopen c hc) d (hopen d hd) hle
    back := fun _ hc => h.back_close hstack hc
    followed := fun _ hc hpath _ hedge => h.followed_of_done hc hpath hedge
    closed := fun _ hc _ hedge => h.closed_close hstack hnew hlink hc hedge
    classes := fun C hC c hc d => by
      rcases List.mem_append.1 hC with hC | hC
      · exact h.sound.classes C hC c hc d
      · rw [List.mem_singleton.1 hC] at hc ⊢
        exact h.class_iff hstack hnew hlink hc d }

end Done

/-- The node stays open when it reaches an older open node. -/
theorem leave_open (h : Following next nodes path t a [] u) (hlink : u.link a ≠ u.number a) :
    Explored next nodes path t a u := by
  obtain ⟨new, hstack, hunmet, hnew⟩ := h.opened
  obtain ⟨low, hlow, hlowNumber, hlowWalk⟩ := h.link_reached
  have hnotMet : ∀ c ∈ new ++ [a], t.isMet c = false := fun c hc =>
    (List.mem_append.1 hc).elim (hunmet c) fun hc => List.mem_singleton.1 hc ▸ h.unmet
  exact {
    sound := { h.sound with
      pathOpen := fun p hp => h.sound.pathOpen p (List.mem_cons_of_mem _ hp)
      back := fun _ hc => h.back_of_link_lt hlink hc
      followed := fun _ hc hpath _ hedge => h.followed_of_done hc hpath hedge }
    grows := h.grows
    met := h.met
    number := h.number
    link_le := h.link_le
    link_reached := ⟨low, .inl hlow, hlowNumber, hlowWalk⟩
    opened := ⟨new ++ [a], split hstack, hnotMet,
      fun _ hc _ hd hedge => h.link_le_of_done hstack hnew hc hd hedge⟩ }

/-- The node closes when it reaches no older open node. -/
theorem leave_closed (h : Following next nodes path t a [] u) (hlink : u.link a = u.number a) :
    Explored next nodes path t a (u.leave a) := by
  obtain ⟨new, hstack, -, hnew⟩ := h.opened
  have hleave : u.leave a =
      { u with stack := t.stack, components := u.components ++ [new ++ [a]] } := by
    unfold leave
    rw [if_pos hlink, hstack, popTo_append fun hmem =>
      Nat.lt_irrefl _ ((h.ordered hstack).1 a hmem)]
  rw [hleave]
  exact {
    sound := h.sound_closed hstack hnew hlink
    grows := ⟨h.grows.met, h.grows.number, h.grows.link⟩
    met := h.met
    number := h.number
    link_le := h.link_le
    link_reached := ⟨a, .inr rfl, hlink.symm, .refl⟩
    opened := ⟨[], rfl, fun _ hc => absurd hc List.not_mem_nil,
      fun _ hc => absurd hc List.not_mem_nil⟩ }

theorem leave (h : Following next nodes path t a [] u) :
    Explored next nodes path t a (u.leave a) := by
  by_cases hlink : u.link a = u.number a
  · exact h.leave_closed hlink
  · have hleave : u.leave a = u := by
      unfold Search.leave
      rw [if_neg hlink]
    rw [hleave]
    exact h.leave_open hlink

end Following

end FormEngine.Digraph.Search
