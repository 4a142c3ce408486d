import FormEngine.Digraph.Search

/-!
# Sorting by a work list

`sort` puts the nodes of a pool behind the ones that lead to them, as far as cycles allow. It counts
for every node the edges into it and places the first node of the pool that has none. The edges of a
placed node are taken away, which may make other nodes ready. Nodes that never become ready follow
in the order of the pool.
-/

namespace FormEngine.Digraph

/-- The state of a sorting. -/
structure Sorting where
  /-- Nodes that have been placed, in their new order. -/
  placed : List String := []
  /-- Nodes that have not been placed, in the order of the pool. -/
  rest : List String
  /-- How many edges lead into each node. -/
  counts : Dict Int := []
  /-- Nodes without such edges that have not been placed. -/
  ready : List String := []

namespace Sorting

def count (t : Sorting) (a : String) : Int := (t.counts.get? a).getD 0

/-- Counts one more edge into a node. -/
def raise (t : Sorting) (a : String) : Sorting :=
  { t with counts := t.counts.insert a (t.count a + 1) }

/-- Takes an edge into a node away. A node that has none left is ready. -/
def lower (t : Sorting) (a : String) : Sorting :=
  { t with
    counts := t.counts.insert a (t.count a - 1)
    ready := if t.count a - 1 = 0 then t.ready.insert a else t.ready }

/-- The ready node that is first in the pool. -/
def first? (t : Sorting) : Option String := t.rest.find? fun a => a ∈ t.ready

/-- Places a node behind those that have been placed. -/
def take (t : Sorting) (a : String) : Sorting :=
  { t with placed := t.placed ++ [a], rest := t.rest.erase a, ready := without t.ready a }

/-- Places a node and takes its edges away. -/
def release (edges : String → List String) (t : Sorting) (a : String) : Sorting :=
  (edges a).foldl lower (t.take a)

/-- Nothing is placed yet, and all edges are counted. -/
def start (edges : String → List String) (nodes : List String) : Sorting :=
  let t : Sorting := (nodes.flatMap edges).foldl raise { rest := nodes }
  { t with ready := nodes.filter fun a => t.count a = 0 }

/-! ## What the steps change -/

theorem count_raise (t : Sorting) (a b : String) :
    (t.raise a).count b = t.count b + if a = b then 1 else 0 := by
  unfold count raise
  rw [Dict.get?_insert]
  split
  · rename_i hab
    subst hab
    rfl
  · rw [Int.add_zero]

theorem count_lower (t : Sorting) (a b : String) :
    (t.lower a).count b = t.count b - if a = b then 1 else 0 := by
  unfold count lower
  rw [Dict.get?_insert]
  split
  · rename_i hab
    subst hab
    rfl
  · rw [Int.sub_zero]

theorem foldl_lower_frame (t : Sorting) (targets : List String) :
    (targets.foldl lower t).placed = t.placed ∧ (targets.foldl lower t).rest = t.rest := by
  induction targets generalizing t with
  | nil => exact ⟨rfl, rfl⟩
  | cons a targets ih => exact ih (t.lower a)

theorem rest_release (edges : String → List String) (t : Sorting) (a : String) :
    (t.release edges a).rest = t.rest.erase a := (foldl_lower_frame _ _).2

theorem mem_rest_of_first? {t : Sorting} {a : String} (h : t.first? = some a) : a ∈ t.rest :=
  List.mem_of_find?_eq_some h

end Sorting

/-- Releases ready nodes until there are none. -/
def settle (edges : String → List String) (t : Sorting) : Sorting :=
  match _h : t.first? with
  | none => t
  | some a => settle edges (t.release edges a)
termination_by t.rest.length
decreasing_by
  have hmem := Sorting.mem_rest_of_first? _h
  have hpos := List.length_pos_of_mem hmem
  rw [Sorting.rest_release, List.length_erase_of_mem hmem]
  omega

/-- The nodes of a pool that a node leads to, but for itself. -/
def edgesWithin (next : String → List String) (nodes : List String) (a : String) : List String :=
  (next a).filter fun b => b ≠ a && nodes.contains b

/-- The nodes of a pool with each behind those that lead to it, then the nodes for which cycles do
not allow it. -/
def sort (next : String → List String) (nodes : List String) : List String :=
  let edges := edgesWithin next nodes
  let t := settle edges (.start edges nodes)
  t.placed ++ t.rest

end FormEngine.Digraph
