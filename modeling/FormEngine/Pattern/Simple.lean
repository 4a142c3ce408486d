import FormEngine.Pattern.Basic

/-!
# Simple forms

Expressions are built in a simple form: no sequence stands directly in a sequence and no choice in a
choice, neighbouring texts are one text, a choice between characters is a set, and what all branches
of a choice begin with stands in front of it. The form decides how large an automaton for the
expression is.
-/

namespace FormEngine.Pattern.Regex

/-- One character of a set. -/
def ofSet (s : CharSet) : Regex :=
  match s.spans with
  | [(a, b)] => if a = b then literal [Char.ofNat a] else chars s
  | _ => chars s

/-- The expression that describes nothing. -/
def nothing : Regex := chars .empty

/-! ## Lengths -/

/-- Whether nothing but the empty text can be described, whatever the looks say. -/
def isVoid : Regex → Bool
  | empty => true
  | literal text => text.isEmpty
  | chars _ => false
  | look _ => true
  | group _ r => r.isVoid
  | cat r s => r.isVoid && s.isVoid
  | alt r s => r.isVoid && s.isVoid
  | repeated r _ most _ => most.isSome && r.isVoid

/-- The length of the shortest text that is described; none if a part describes nothing. -/
def leastLength? : Regex → Option Nat
  | empty => some 0
  | literal text => some text.length
  | chars s => if s = .empty then none else some 1
  | look _ => some 0
  | group _ r => r.leastLength?
  | cat r s => do return (← r.leastLength?) + (← s.leastLength?)
  | alt r s => do return min (← r.leastLength?) (← s.leastLength?)
  | repeated r least _ _ => r.leastLength?.map (least * ·)

/-! ## Sequences -/

/-- The parts of a sequence. -/
def parts : Regex → List Regex
  | empty => []
  | cat r s => r :: s.parts
  | r => [r]

/-- The sequence of some parts that are in simple form. -/
def ofParts : List Regex → Regex
  | [] => empty
  | [r] => r
  | r :: rest => cat r (ofParts rest)

/-- A part in front of others; two texts become one. -/
def consPart : Regex → List Regex → List Regex
  | literal text, literal more :: rest => literal (text ++ more) :: rest
  | r, rest => r :: rest

/-- One expression after the other. -/
def sequence (rs : List Regex) : Regex := ofParts ((rs.flatMap parts).foldr consPart [])

/-! ## Choices -/

/-- The branches of a choice. -/
def branches : Regex → List Regex
  | alt r s => r :: s.branches
  | r => [r]

/-- The choice between some branches that are in simple form. -/
def ofBranches : List Regex → Regex
  | [] => nothing
  | [r] => r
  | r :: rest => alt r (ofBranches rest)

/-- The set of an expression that describes single characters. -/
def set? : Regex → Option CharSet
  | literal [c] => some (.single c)
  | chars s => some s
  | _ => none

/-- What two lists begin with. -/
def commonParts : List Regex → List Regex → List Regex
  | r :: rs, s :: ss => if r = s then r :: commonParts rs ss else []
  | _, _ => []

/-- The parts of an expression that is a sequence of several. -/
def severalParts : Regex → List Regex
  | cat r s => r :: s.parts
  | _ => []

/-- What all branches begin with, if they are sequences. -/
def sharedParts : List Regex → List Regex
  | [] => []
  | r :: rest => rest.foldl (fun shared s => commonParts shared s.severalParts) r.severalParts

/-- The number of nodes of an expression. -/
def nodes : Regex → Nat
  | group _ r => r.nodes + 1
  | cat r s => r.nodes + s.nodes + 1
  | alt r s => r.nodes + s.nodes + 1
  | repeated r _ _ _ => r.nodes + 1
  | _ => 1

/-- The choice between some expressions; `fuel` bounds how often a beginning is taken out. -/
def choiceWithin (fuel : Nat) (rs : List Regex) : Regex :=
  let all := rs.flatMap branches
  match all, all.mapM set? with
  | [], _ => nothing
  | [r], _ => r
  | _, some sets => ofSet (.unionAll sets)
  | _, none =>
    match fuel, sharedParts all with
    | fuel + 1, r :: shared =>
      let rests := all.map fun s => sequence (s.parts.drop (shared.length + 1))
      sequence (r :: shared ++ [choiceWithin fuel rests])
    | _, _ => ofBranches all

/-- The choice between some expressions. Taking a beginning out removes a node from every branch, so
their number bounds how often that happens. -/
def choice (rs : List Regex) : Regex := choiceWithin ((rs.map nodes).foldr (· + ·) 0) rs

/-! ## Repetitions -/

/-- A repetition. The empty text is not repeated, and a single repetition is no repetition. -/
def times (r : Regex) (least : Nat) (most : Option Nat) (greedy : Bool) : Regex :=
  let (least, most) :=
    if r.isVoid then (min least 1, some (min (most.getD 1) 1)) else (least, most)
  if least = 0 ∧ most = some 0 then empty
  else if least = 1 ∧ most = some 1 then r
  else repeated r least most greedy

end FormEngine.Pattern.Regex
