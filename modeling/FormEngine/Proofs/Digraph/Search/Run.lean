import FormEngine.Proofs.Digraph.Search.Edges

/-!
# Runs of the search

The exploration of a node keeps the invariant (`explored_explore`), so the search does. It enters
every node once (`entered_search`), and at the end every node is closed (`mem_flatten_search`).
-/

namespace FormEngine.Digraph

variable {next : String → List String} {nodes : List String}

open Search

theorem mem_without_iff {pool : List String} {t : Search}
    (hpool : ∀ b, b ∈ pool ↔ b ∈ nodes ∧ t.isMet b = false) (a b : String) :
    b ∈ without pool a ↔ b ∈ nodes ∧ (t.enter a).isMet b = false := by
  rw [mem_without, hpool b, ← Bool.not_eq_true ((t.enter a).isMet b), isMet_enter, not_or,
    Bool.not_eq_true]
  tauto

theorem mem_unmet_iff {pool : List String} {t u : Search} (hgrows : Grows t u)
    (hpool : ∀ b, b ∈ pool ↔ b ∈ nodes ∧ t.isMet b = false) (b : String) :
    b ∈ u.unmet pool ↔ b ∈ nodes ∧ u.isMet b = false := by
  rw [mem_unmet, hpool b]
  constructor
  · exact fun hb => ⟨hb.1.1, hb.2⟩
  · exact fun hb => ⟨⟨hb.1, hgrows.unmet hb.2⟩, hb.2⟩

theorem Search.Following.below_tail {path rest : List String} {t u : Search} {a b : String}
    (h : Following next nodes path t a rest u) (hedge : Edge next nodes a b) :
    ∀ p ∈ a :: path, Relation.ReflTransGen (Edge next nodes) p b := by
  intro p hp
  rcases List.mem_cons.1 hp with rfl | hp
  · exact .single hedge
  · exact (h.below p hp).tail hedge

mutual

/-- The exploration of a node that has not been met, with all other such nodes in the pool. -/
theorem explored_explore {path : List String} {t : Search} (pool : List String) {a : String}
    (h : Sound next nodes path t) (ha : a ∈ nodes) (hmet : t.isMet a = false)
    (hpath : ∀ p ∈ path, Relation.ReflTransGen (Edge next nodes) p a)
    (hpool : ∀ b, b ∈ pool ↔ b ∈ nodes ∧ (t.enter a).isMet b = false) :
    Explored next nodes path t a (explore next pool t a) := by
  rw [explore]
  exact (following_follow pool (next a) (following_enter h ha hmet hpath) hpool).leave
termination_by (pool.length, (next a).length + 1)

/-- The loop over the edges of a node, to its end. -/
theorem following_follow {path : List String} {t u : Search} (pool : List String) {a : String}
    (rest : List String) (h : Following next nodes path t a rest u)
    (hpool : ∀ b, b ∈ pool ↔ b ∈ nodes ∧ u.isMet b = false) :
    Following next nodes path t a [] (follow next pool u a rest) := by
  match rest with
  | [] =>
    rw [follow]
    exact h
  | b :: rest =>
    rw [follow]
    split
    · rename_i hb
      obtain ⟨hnode, hnew⟩ := (hpool b).1 hb
      have hedge : Edge next nodes a b := ⟨h.edges b List.mem_cons_self, hnode⟩
      have hexplored := explored_explore (without pool b) h.sound hnode hnew
        (h.below_tail hedge) (mem_without_iff hpool b)
      exact following_follow _ rest (h.explored hedge hexplored)
        (mem_unmet_iff hexplored.grows hpool)
    · rename_i hb
      split
      · rename_i hopen
        exact following_follow pool rest (h.touch hopen) hpool
      · rename_i hopen
        refine following_follow pool rest (h.skip hopen fun hedge => ?_) hpool
        by_contra hmet
        exact hb ((hpool b).2 ⟨hedge.2, by simpa using hmet⟩)
termination_by (pool.length, rest.length)
decreasing_by
  · exact lex_of_le (Nat.le_refl _) (Nat.lt_succ_self _)
  · exact lex_of_le (Nat.le_refl _) (Nat.lt_succ_self _)
  · exact Prod.Lex.left _ _ (length_without_lt (by assumption))
  · exact lex_of_le (length_unmet_le _ _) (Nat.lt_succ_self _)

end

/-- Exploring what has not been met keeps the invariant and meets all of it. -/
theorem sound_sweep {t : Search} (h : Sound next nodes [] t) {rest : List String}
    (hrest : ∀ a ∈ rest, a ∈ nodes) :
    Sound next nodes [] (sweep next nodes t rest) ∧
      (∀ a, t.isMet a = true → (sweep next nodes t rest).isMet a = true) ∧
      ∀ a ∈ rest, (sweep next nodes t rest).isMet a = true := by
  induction rest generalizing t with
  | nil => exact ⟨h, fun _ ha => ha, fun _ ha => (by cases ha)⟩
  | cons a rest ih =>
    have htail : ∀ b ∈ rest, b ∈ nodes := fun b hb => hrest b (List.mem_cons_of_mem _ hb)
    rw [sweep]
    by_cases hmet : t.isMet a = true
    · rw [if_pos hmet]
      obtain ⟨hsound, hkept, hall⟩ := ih h htail
      refine ⟨hsound, hkept, fun b hb => ?_⟩
      rcases List.mem_cons.1 hb with rfl | hb
      · exact hkept b hmet
      · exact hall b hb
    · rw [if_neg hmet]
      have ha : Explored next nodes [] t a (explore next (without (t.unmet nodes) a) t a) :=
        explored_explore _ h (hrest a List.mem_cons_self) (by simpa using hmet)
          (fun _ hp => absurd hp List.not_mem_nil) (mem_without_iff (fun _ => mem_unmet _ _) a)
      obtain ⟨hsound, hkept, hall⟩ := ih ha.sound htail
      refine ⟨hsound, fun b hb => hkept b (ha.grows.met b hb), fun b hb => ?_⟩
      rcases List.mem_cons.1 hb with rfl | hb
      · exact hkept b ha.met
      · exact hall b hb

theorem sound_search (next : String → List String) (nodes : List String) :
    Sound next nodes [] (search next nodes) := (sound_sweep sound_empty fun _ ha => ha).1

theorem isMet_search {a : String} : (search next nodes).isMet a = true ↔ a ∈ nodes :=
  ⟨(sound_search next nodes).known a, (sound_sweep sound_empty fun _ ha => ha).2.2 a⟩

/-- The search enters every node once: it enters as many as there are, and numbers each. -/
theorem entered_search (hn : nodes.Nodup) :
    (search next nodes).entered = nodes.length ∧ (search next nodes).numbers.keys.Perm nodes := by
  obtain ⟨hkeys, hlength⟩ := (sound_search next nodes).entered
  have hperm : (search next nodes).numbers.keys.Perm nodes := by
    refine (List.perm_ext_iff_of_nodup hkeys hn).2 fun a => ?_
    rw [← Dict.has_iff]
    exact isMet_search
  exact ⟨hlength.symm.trans hperm.length_eq, hperm⟩

theorem stack_search : (search next nodes).stack = [] := by
  refine List.eq_nil_iff_forall_not_mem.2 fun a ha => ?_
  obtain ⟨p, hp, -, -⟩ := (sound_search next nodes).back a ha
  cases hp

theorem mem_flatten_search {a : String} :
    a ∈ (search next nodes).components.flatten ↔ a ∈ nodes := by
  have hmet := (sound_search next nodes).met_iff a
  rw [stack_search] at hmet
  exact ⟨fun h => isMet_search.1 (hmet.2 (.inr h)),
    fun h => (hmet.1 (isMet_search.2 h)).resolve_left List.not_mem_nil⟩

theorem nodup_flatten_search : (search next nodes).components.flatten.Nodup :=
  (List.nodup_append.1 (sound_search next nodes).once).2.1

end FormEngine.Digraph
