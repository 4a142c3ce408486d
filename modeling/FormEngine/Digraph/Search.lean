import FormEngine.Dict

/-!
# Components by depth-first search

One depth-first search finds the components of a graph, the largest sets of nodes that reach one
another. A node gets a number when it is entered, and stays open on a stack; its link is the least
number of an open node that it is known to reach. A node with its own number as its link closes: it
and the nodes opened after it are a component. `loops` keeps the components that hold a cycle.
-/

namespace FormEngine.Digraph

section Pools

variable {α : Type} [DecidableEq α]

/-- A pool of nodes without one of them. -/
def without (pool : List α) (a : α) : List α := pool.filter (· ≠ a)

theorem mem_without {pool : List α} {a b : α} : b ∈ without pool a ↔ b ∈ pool ∧ b ≠ a := by
  simp [without]

theorem length_without_lt {pool : List α} {a : α} (h : a ∈ pool) :
    (without pool a).length < pool.length :=
  List.length_filter_lt_length_iff_exists.2 ⟨a, h, by simp⟩

end Pools

/-- The state of a search. -/
structure Search where
  /-- How many nodes have been entered; the next one gets this number. -/
  entered : Nat := 0
  numbers : Dict Nat := []
  links : Dict Nat := []
  /-- Open nodes, the newest first. -/
  stack : List String := []
  /-- Closed components, in the order they were closed. -/
  components : List (List String) := []

namespace Search

/-- Whether a node has been entered. -/
def isMet (t : Search) (a : String) : Bool := t.numbers.has a

def number (t : Search) (a : String) : Nat := (t.numbers.get? a).getD 0

def link (t : Search) (a : String) : Nat := (t.links.get? a).getD 0

/-- The nodes that have not been entered. -/
def unmet (t : Search) (nodes : List String) : List String := nodes.filter fun a => !t.isMet a

/-- Gives a node its number and opens it. -/
def enter (t : Search) (a : String) : Search :=
  { t with
    entered := t.entered + 1
    numbers := t.numbers.insert a t.entered
    links := t.links.insert a t.entered
    stack := a :: t.stack }

/-- Lowers the link of a node to a number, unless it is lower already. -/
def lower (t : Search) (a : String) (n : Nat) : Search :=
  { t with links := t.links.insert a (min n (t.link a)) }

/-- The nodes of a stack down to one of them, and the nodes below. -/
def popTo (a : String) : List String → List String × List String
  | [] => ([], [])
  | b :: rest => if b = a then ([b], rest) else (b :: (popTo a rest).1, (popTo a rest).2)

/-- Closes the component of a node that reaches no older open node. -/
def leave (t : Search) (a : String) : Search :=
  if t.link a = t.number a then
    { t with
      stack := (popTo a t.stack).2
      components := t.components ++ [(popTo a t.stack).1] }
  else t

/-! ## What the steps change -/

variable (t : Search) (a b : String) (n : Nat)

theorem isMet_enter : (t.enter a).isMet b = true ↔ b = a ∨ t.isMet b = true := by
  unfold isMet enter
  rw [Dict.has_iff, Dict.has_iff, Dict.mem_keys_insert]

theorem number_enter : (t.enter a).number b = if a = b then t.entered else t.number b := by
  unfold number enter
  rw [Dict.get?_insert]
  split <;> rfl

theorem link_enter : (t.enter a).link b = if a = b then t.entered else t.link b := by
  unfold link enter
  rw [Dict.get?_insert]
  split <;> rfl

theorem link_lower :
    (t.lower a n).link b = if a = b then min n (t.link a) else t.link b := by
  unfold link lower
  rw [Dict.get?_insert]
  split <;> rfl

theorem mem_unmet {nodes : List String} : b ∈ t.unmet nodes ↔ b ∈ nodes ∧ t.isMet b = false := by
  simp [unmet]

theorem popTo_append {a : String} {new : List String} (h : a ∉ new) (rest : List String) :
    popTo a (new ++ a :: rest) = (new ++ [a], rest) := by
  induction new with
  | nil => simp [popTo]
  | cons b new ih =>
    rw [List.mem_cons, not_or] at h
    rw [List.cons_append, popTo, if_neg (Ne.symm h.1), ih h.2, List.cons_append]

end Search

theorem Search.length_unmet_le (t : Search) (nodes : List String) :
    (t.unmet nodes).length ≤ nodes.length := List.length_filter_le _ _

theorem lex_of_le {m n k l : Nat} (h : m ≤ n) (h' : k < l) :
    Prod.Lex (· < ·) (· < ·) (m, k) (n, l) := by
  rcases Nat.lt_or_eq_of_le h with h | rfl
  · exact Prod.Lex.left _ _ h
  · exact Prod.Lex.right _ h'

mutual

/-- Enters a node, follows its edges and leaves it. The pool holds the other nodes not yet met. -/
def explore (next : String → List String) (pool : List String) (t : Search) (a : String) :
    Search :=
  (follow next pool (t.enter a) a (next a)).leave a
termination_by (pool.length, (next a).length + 1)

/-- Follows some edges of an open node: nodes of the pool are explored, and the link of the node
takes in the links of these and the numbers of open nodes. -/
def follow (next : String → List String) (pool : List String) (t : Search) (a : String) :
    List String → Search
  | [] => t
  | b :: rest =>
    if b ∈ pool then
      let u := explore next (without pool b) t b
      follow next (u.unmet pool) (u.lower a (u.link b)) a rest
    else if b ∈ t.stack then follow next pool (t.lower a (t.number b)) a rest
    else follow next pool t a rest
termination_by targets => (pool.length, targets.length)
decreasing_by
  · exact Prod.Lex.left _ _ (length_without_lt (by assumption))
  · exact lex_of_le (Search.length_unmet_le _ _) (Nat.lt_succ_self _)
  · exact lex_of_le (Nat.le_refl _) (Nat.lt_succ_self _)
  · exact lex_of_le (Nat.le_refl _) (Nat.lt_succ_self _)

end

/-- Explores those of some nodes that have not been met, one after another. -/
def sweep (next : String → List String) (nodes : List String) : Search → List String → Search
  | t, [] => t
  | t, a :: rest =>
    sweep next nodes
      (if t.isMet a then t else explore next (without (t.unmet nodes) a) t a) rest

/-- The search through all nodes. -/
def search (next : String → List String) (nodes : List String) : Search :=
  sweep next nodes {} nodes

/-- Whether a component holds a cycle: it has several nodes, or one that leads to itself. -/
def holdsCycle (next : String → List String) (component : List String) : Bool :=
  component.length > 1 || component.head?.any fun a => (next a).contains a

/-- The components that hold cycles. Members stand in the order of the nodes, and so do the
components by their first members. -/
def loops (next : String → List String) (nodes : List String) : List (List String) :=
  let place (a : String) : Nat := nodes.idxOf a
  let first (c : List String) : Nat := (c.head?.map place).getD nodes.length
  let sorted := ((search next nodes).components.filter (holdsCycle next)).map fun c =>
    c.mergeSort fun a b => place a ≤ place b
  sorted.mergeSort fun c d => first c ≤ first d

end FormEngine.Digraph
