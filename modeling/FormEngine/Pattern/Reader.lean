import FormEngine.Pattern.Automaton
import FormEngine.Pattern.Bracket
import FormEngine.Unicode.NextEdition

/-!
# Reading patterns

A pattern is read from left to right with its open groups on a stack. `Regex.ofText?` is the
expression of a well-formed pattern.
-/

namespace FormEngine.Pattern

/-- A group that is being read: its finished branches and the parts of the present one, the last
first. A part that sets flags describes nothing and cannot be repeated. -/
structure Group where
  branches : List (Nested Regex)
  parts : List (Option (Nested Regex))

namespace Group

def empty : Group := ⟨[], []⟩

/-- The present branch. -/
def branch (g : Group) : Nested Regex :=
  .several Regex.sequence (g.parts.reverse.map fun p => p.getD (.flat .empty))

def push (g : Group) (r : Nested Regex) : Group := { g with parts := some r :: g.parts }

/-- The group after a setting of flags. -/
def mark (g : Group) : Group := { g with parts := none :: g.parts }

/-- The group with a new branch. -/
def bar (g : Group) : Group := ⟨g.branch :: g.branches, []⟩

/-- The expression of a group that ends. -/
def value (g : Group) : Nested Regex :=
  .several Regex.choice (g.branch :: g.branches).reverse

/-- Repeats the last part. -/
def repeat? (g : Group) (least : Nat) (most : Option Nat) (greedy : Bool) : Option Group :=
  match g.parts with
  | some r :: rest =>
    some { g with parts := some (r.inside fun e => e.times least most greedy) :: rest }
  | _ => none

end Group

/-- A group around another one, the flags to go back to, and the number of the inner one, if it has
one. -/
structure Surrounding where
  group : Group
  flags : Flags
  inner : Option Nat

/-- The state of reading: the flags, the innermost group, the groups around it, the names of groups,
and how many of them have been numbered. -/
structure Reader where
  flags : Flags
  group : Group
  outer : List Surrounding
  names : List String
  count : Nat

namespace Reader

def push (r : Reader) (e : Nested Regex) : Reader := { r with group := r.group.push e }

/-- Opens a group without a number. -/
def enter (r : Reader) (inside : Flags) : Reader :=
  { r with flags := inside, group := .empty, outer := ⟨r.group, r.flags, none⟩ :: r.outer }

/-- Opens a group with a number. -/
def enterNumbered (r : Reader) : Reader :=
  { r with
    group := .empty
    outer := ⟨r.group, r.flags, some (r.count + 1)⟩ :: r.outer
    count := r.count + 1 }

/-- Closes the innermost group. -/
def leave? (r : Reader) : Option Reader :=
  match r.outer with
  | [] => none
  | o :: outer =>
    let numbered (e : Regex) : Regex :=
      match o.inner with
      | some index => .group index e
      | none => e
    some { r with
      flags := o.flags
      group := o.group.push (r.group.value.inside numbered)
      outer := outer }

/-- Whether a repetition has the mark of the other preference, and what follows the mark. -/
def swapped : List Char → Bool × List Char
  | '?' :: rest => (true, rest)
  | rest => (false, rest)

/-! ## Counts -/

/-- Leading digits, and what follows them. -/
def digits (f : Flags) (cs : List Char) : List Char × List Char :=
  match cs with
  | [] => ([], [])
  | c :: rest =>
    if c.isDigit then
      let (more, after) := digits f (f.skip rest)
      (c :: more, after)
    else ([], cs)
termination_by cs.length
decreasing_by
  have := f.skip_length rest
  simp only [List.length_cons]
  omega

/-- A number of 32 bits between blanks, `none` inside if there are no digits. -/
def count? (f : Flags) (cs : List Char) : Option (Option Nat × List Char) :=
  let (run, rest) := digits f (cs.dropWhile Text.isBlank)
  let rest := f.skip (rest.dropWhile Text.isBlank)
  if run.isEmpty then some (none, rest)
  else
    let n := Text.digitsValue 0 run
    if n < Nat.pow 2 32 then some (some n, rest) else none

/-- The greatest count, from the comma or the closing brace that follows the least one. -/
def most? (f : Flags) (least : Nat) (cs : List Char) : Option (Option Nat × List Char) :=
  match cs with
  | ',' :: rest =>
    let rest := f.skip rest
    if rest.head? = some '\x7d' then some (none, rest)
    else
      match count? f rest with
      | some (some most, rest) => if least ≤ most then some (some most, rest) else none
      | _ => none
  | _ => some (some least, cs)

/-- The bounds between braces; the text begins after the opening one. -/
def bounds? (f : Flags) (cs : List Char) : Option (Nat × Option Nat × List Char) := do
  let (first, rest) ← count? f (f.skip cs)
  let least ← first
  let (most, rest) ← most? f least rest
  if rest.head? = some '\x7d' then return (least, most, rest.drop 1) else none

/-! ## Groups -/

/-- Characters of the name of a group. -/
def isNameChar (first : Bool) (c : Char) : Bool :=
  c == '_' || Unicode.isAlphabetic c ||
    (!first && (c == '.' || c == '[' || c == ']' || Unicode.isNumeric c))

/-- A new name of a group, up to the closing angle. -/
def name? (known : List String) (cs : List Char) : Option (String × List Char) :=
  let run := cs.takeWhile (· != '>')
  match run, cs.dropWhile (· != '>') with
  | c :: more, _ :: rest =>
    let name := String.ofList run
    if isNameChar true c ∧ more.all (isNameChar false) ∧ name ∉ known then some (name, rest)
    else none
  | _, _ => none

/-- Settings of flags up to `:` or `)`: what has been set so far, whether a minus has been read, and
whether it was the last character. -/
def settings? (set : List (Flag × Bool)) (minus dangling : Bool) :
    List Char → Option (List (Flag × Bool) × Char × List Char)
  | [] => none
  | c :: rest =>
    if c = ':' ∨ c = ')' then if dangling then none else some (set.reverse, c, rest)
    else if c = '-' then if minus then none else settings? set true true rest
    else
      match Flag.ofChar? c with
      | none => none
      | some flag =>
        if set.any (·.1 == flag) then none
        else settings? ((flag, !minus) :: set) minus false rest

/-- What follows `(?` and is not a name. -/
def flagged? (r : Reader) (cs : List Char) : Option (Reader × List Char) := do
  let (set, mark, rest) ← settings? [] false false cs
  let f := set.foldl (fun f s => f.set s.2 s.1) r.flags
  if mark = ':' then return (r.enter f, rest)
  else if set.isEmpty then none
  else return ({ r with flags := f, group := r.group.mark }, rest)

/-- What follows an opening parenthesis. Looking around is refused. -/
def parenthesis? (r : Reader) (cs : List Char) : Option (Reader × List Char) :=
  let named (rest : List Char) : Option (Reader × List Char) :=
    (name? r.names rest).map fun (name, more) =>
      ({ r.enterNumbered with names := name :: r.names }, more)
  match r.flags.skip cs with
  | '?' :: '=' :: _ | '?' :: '!' :: _ | '?' :: '<' :: '=' :: _ | '?' :: '<' :: '!' :: _ => none
  | '?' :: 'P' :: '<' :: rest | '?' :: '<' :: rest => named rest
  | '?' :: rest => r.flagged? rest
  | rest => some (r.enterNumbered, rest)

/-! ## Steps -/

/-- Adds a set of characters. -/
def pushSet (r : Reader) (s : CharSet) : Reader := r.push (.flat (.ofSet s))

/-- Adds what an escape stands for. -/
def pushAtom (r : Reader) : Atom → Reader
  | .char c => r.pushSet (r.flags.cased (.single c))
  | .set s => r.pushSet s
  | .look l => r.push (.flat (.look l))

/-- Repeats the last part. -/
def repeat? (r : Reader) (least : Nat) (most : Option Nat) (rest : List Char) :
    Option (Reader × List Char) :=
  let (lazy, more) := swapped rest
  (r.group.repeat? least most (lazy == r.flags.lazy)).map fun g => ({ r with group := g }, more)

/-- One step. -/
def step? (r : Reader) : List Char → Option (Reader × List Char)
  | [] => none
  | c :: rest =>
    match c with
    | '(' => r.parenthesis? rest
    | ')' => r.leave?.map (·, rest)
    | '|' => some ({ r with group := r.group.bar }, rest)
    | '[' =>
      (Bracket.read? r.flags rest).map fun (s, more) => (r.push (s.map .ofSet), more)
    | '?' => r.repeat? 0 (some 1) rest
    | '*' => r.repeat? 0 none rest
    | '+' => r.repeat? 1 none rest
    | '.' => r.flags.dot?.map fun s => (r.pushSet s, rest)
    | '^' => some (r.push (.flat (.look r.flags.caret)), rest)
    | '$' => some (r.push (.flat (.look r.flags.dollar)), rest)
    | '\\' => (Escape.read? r.flags rest).map fun (a, more) => (r.pushAtom a, more)
    | _ =>
      if c = '\x7b' then do
        let (least, most, more) ← bounds? r.flags rest
        r.repeat? least most (r.flags.skip more)
      else some (r.pushAtom (.char c), rest)

/-- Reads to the end of the pattern. A step that reads nothing ends the reading. -/
def finish? (r : Reader) (cs : List Char) : Option (Nested Regex) :=
  let body := r.flags.skip cs
  if body.isEmpty then (if r.outer.isEmpty then some r.group.value else none)
  else
    match r.step? body with
    | none => none
    | some (r, rest) => if _h : rest.length < cs.length then r.finish? rest else none
termination_by cs.length

end Reader

namespace Regex

/-- How deep the parts of a pattern may be nested. -/
def depthLimit : Nat := 250

/-- The expression of a pattern, if it is well-formed, not nested too deep and not too large. -/
def ofText? (pattern : String) : Option Regex := do
  let read ← Reader.finish? ⟨{}, .empty, [], [], 0⟩ pattern.toList
  if read.depth ≤ depthLimit ∧ read.value.fits then return read.value else none

end Regex

end FormEngine.Pattern
