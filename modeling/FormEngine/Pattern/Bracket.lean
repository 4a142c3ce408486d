import FormEngine.Pattern.Escape

/-!
# Bracketed classes

What stands between `[` and `]`: characters, ranges, classes and further brackets, joined by the
operators `&&`, `--` and `~~`, which bind to the left and weaker than standing side by side.
-/

namespace FormEngine.Pattern

/-- Operators between sets. -/
inductive SetOp where
  | inter
  | difference
  | symmetricDifference
  deriving DecidableEq, Repr

def SetOp.apply : SetOp → CharSet → CharSet → CharSet
  | .inter => .inter
  | .difference => .difference
  | .symmetricDifference => .symmetricDifference

/-- An open bracket: what is left of the last operator, and what has been read after it, the last
item first. -/
structure Bracket where
  negated : Bool
  left : Option (Nested CharSet × SetOp)
  items : List (Nested CharSet)

namespace Bracket

/-- The items after the last operator. -/
def union (b : Bracket) : Nested CharSet :=
  .several (fun items => .unionAll items) b.items

/-- The set so far. An operator nests what it joins. -/
def value (f : Flags) (b : Bracket) : Nested CharSet :=
  match b.left with
  | none => b.union
  | some (s, op) =>
    ⟨op.apply (f.cased s.value) (f.cased b.union.value), 1 + max s.depth b.union.depth⟩

/-- The set of a closed bracket. -/
def close? (f : Flags) (b : Bracket) : Option (Nested CharSet) :=
  let set := b.value f
  (f.complementIf? b.negated (f.cased set.value)).map fun s => ⟨s, set.depth + 1⟩

def push (b : Bracket) (s : Nested CharSet) : Bracket := { b with items := s :: b.items }

/-- The bracket after an operator. -/
def operator (f : Flags) (b : Bracket) (op : SetOp) : Bracket :=
  { b with left := some (b.value f, op), items := [] }

/-- Dashes at the beginning of a bracket are characters. -/
def dashes (f : Flags) (cs : List Char) : Bool × List Char :=
  match cs with
  | '-' :: rest => (true, (dashes f (f.skip rest)).2)
  | _ => (false, cs)
termination_by cs.length
decreasing_by
  have := f.skip_length rest
  simp only [List.length_cons]
  omega

/-- Begins a bracket; a closing bracket that comes first is a character. -/
def start? (f : Flags) (cs : List Char) : Option (Bracket × List Char) :=
  let (negated, body) := match f.skip cs with
    | '^' :: rest => (true, f.skip rest)
    | rest => (false, rest)
  let (dashed, body) := dashes f body
  let items := if dashed then [.flat (.single '-')] else []
  match body with
  | [] => none
  | c :: rest =>
    if c = ']' ∧ !dashed then some (⟨negated, none, [.flat (.single ']')]⟩, rest)
    else some (⟨negated, none, items⟩, body)

/-- The classes that have a name between colons. -/
def named? : String → Option CharSet
  | "alnum" => some (.ofText "30-39 41-5A 61-7A")
  | "alpha" => some (.ofText "41-5A 61-7A")
  | "ascii" => some (.ofText "0-7F")
  | "blank" => some (.ofText "9 20")
  | "cntrl" => some (.ofText "0-1F 7F")
  | "digit" => some (.ofText "30-39")
  | "graph" => some (.ofText "21-7E")
  | "lower" => some (.ofText "61-7A")
  | "print" => some (.ofText "20-7E")
  | "punct" => some (.ofText "21-2F 3A-40 5B-60 7B-7E")
  | "space" => some (.ofText "9-D 20")
  | "upper" => some (.ofText "41-5A")
  | "word" => some (.ofText "30-39 41-5A 5F 61-7A")
  | "xdigit" => some (.ofText "30-39 41-46 61-66")
  | _ => none

/-- A class by its name, whether it is negated, and what follows; the text begins after the bracket
that opens it. -/
def byName? (cs : List Char) : Option (Bool × CharSet × List Char) :=
  match cs with
  | ':' :: rest =>
    let (negated, body) := match rest with
      | '^' :: more => (true, more)
      | _ => (false, rest)
    match body.dropWhile (· != ':') with
    | ':' :: ']' :: more =>
      (named? (String.ofList (body.takeWhile (· != ':')))).map fun s => (negated, s, more)
    | _ => none
  | _ => none

/-- A character or an escape. -/
def atom? (f : Flags) : List Char → Option (Atom × List Char)
  | [] => none
  | '\\' :: rest => Escape.read? f rest
  | c :: rest => some (.char c, rest)

/-- The set of a range. -/
def range? (f : Flags) (first last : Char) : Option CharSet :=
  if first ≤ last ∧ (f.unicode ∨ last.toNat < 128) then some (.between first last) else none

/-- The set of an atom that stands alone. -/
def sole? (f : Flags) : Atom → Option CharSet
  | .char c => range? f c c
  | .set s => some s
  | .look _ => none

/-- A character, a range or a class. -/
def item? (f : Flags) (cs : List Char) : Option (CharSet × List Char) := do
  let (a, rest) ← atom? f cs
  match f.skip rest with
  | [] => none
  | '-' :: more =>
    if f.peek? more = some ']' ∨ f.peek? more = some '-' then
      return (← sole? f a, '-' :: more)
    else
      let (b, rest) ← atom? f (f.skip more)
      match a, b with
      | .char first, .char last => return (← range? f first last, rest)
      | _, _ => none
  | rest => return (← sole? f a, rest)

/-- What one step of reading leads to: the set of the outermost bracket, or open brackets, the
innermost first. -/
inductive Progress where
  | closed (s : Nested CharSet)
  | opened (b : Bracket) (outer : List Bracket)

/-- Closes the innermost bracket. -/
def leave? (f : Flags) (b : Bracket) : List Bracket → Option Progress
  | [] => (b.close? f).map .closed
  | o :: outer => (b.close? f).map fun s => .opened (o.push s) outer

/-- Opens a bracket, or reads a class by its name. -/
def enter? (f : Flags) (b : Bracket) (outer : List Bracket) (cs : List Char) :
    Option (Progress × List Char) :=
  match byName? cs with
  | some (negated, s, rest) => do
    return (.opened (b.push (.flat (← f.complementIf? negated (f.cased s)))) outer, rest)
  | none => do
    let (inner, rest) ← start? f cs
    return (.opened inner (b :: outer), rest)

/-- One step. -/
def step? (f : Flags) (b : Bracket) (outer : List Bracket) (cs : List Char) :
    Option (Progress × List Char) :=
  match cs with
  | [] => none
  | '[' :: rest => enter? f b outer rest
  | ']' :: rest => (leave? f b outer).map (·, rest)
  | '&' :: '&' :: rest => some (.opened (b.operator f .inter) outer, rest)
  | '-' :: '-' :: rest => some (.opened (b.operator f .difference) outer, rest)
  | '~' :: '~' :: rest => some (.opened (b.operator f .symmetricDifference) outer, rest)
  | _ => do
    let (s, rest) ← item? f cs
    return (.opened (b.push (.flat s)) outer, rest)

/-- Reads to the end of the outermost bracket. A step that reads nothing ends the reading. -/
def finish? (f : Flags) (b : Bracket) (outer : List Bracket) (cs : List Char) :
    Option (Nested CharSet × List Char) :=
  match step? f b outer (f.skip cs) with
  | none => none
  | some (.closed s, rest) => some (s, rest)
  | some (.opened b outer, rest) =>
    if _h : rest.length < cs.length then finish? f b outer rest else none
termination_by cs.length

/-- Reads a bracketed class; the text begins after the bracket. -/
def read? (f : Flags) (cs : List Char) : Option (Nested CharSet × List Char) := do
  let (b, rest) ← start? f cs
  finish? f b [] rest

end Bracket

end FormEngine.Pattern
