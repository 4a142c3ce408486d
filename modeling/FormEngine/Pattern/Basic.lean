import FormEngine.Distinct
import FormEngine.Unicode.Property.Identifiers

/-!
# Regular expressions

A `Regex` describes texts in their context: it can ask about the characters around a position. A
text contains a match if some part of it, seen in its place, is described. The search keeps, for
every position, the expressions for what may still follow: reading a character replaces each by its
partial derivatives.
-/

namespace FormEngine.Pattern

/-- What a class of a pattern stands for. -/
abbrev CharSet := Unicode.Ranges

/-- A set of words for word boundaries: all of Unicode or ASCII. -/
inductive WordSet where
  | unicode
  | ascii
  deriving DecidableEq, Hashable, Repr

def WordSet.has : WordSet → Char → Bool
  | .unicode, c =>
    if c.toNat < 128 then c.isAlphanum || c == '_' else Unicode.wordCharacters.contains c
  | .ascii, c => c.isAlphanum || c == '_'

/-- Questions about the characters around a position. -/
inductive Look where
  | textStart
  | textEnd
  | lineStart
  | lineEnd
  /-- Lines may end in a carriage return, a line feed or both. -/
  | anyLineStart
  | anyLineEnd
  | boundary (w : WordSet)
  | noBoundary (w : WordSet)
  | wordStart (w : WordSet)
  | wordEnd (w : WordSet)
  /-- No word reaches up to the position from the left. -/
  | wordStartHalf (w : WordSet)
  /-- No word begins at the position. -/
  | wordEndHalf (w : WordSet)
  deriving DecidableEq, Hashable, Repr

/-- The answer between two characters; `none` is an end of the text. -/
def Look.holds (prev next : Option Char) : Look → Bool
  | .textStart => prev.isNone
  | .textEnd => next.isNone
  | .lineStart => prev.isNone || prev == some '\n'
  | .lineEnd => next.isNone || next == some '\n'
  | .anyLineStart =>
    prev.isNone || prev == some '\n' || (prev == some '\r' && next != some '\n')
  | .anyLineEnd =>
    next.isNone || next == some '\r' || (next == some '\n' && prev != some '\r')
  | .boundary w => prev.any w.has != next.any w.has
  | .noBoundary w => prev.any w.has == next.any w.has
  | .wordStart w => !prev.any w.has && next.any w.has
  | .wordEnd w => prev.any w.has && !next.any w.has
  | .wordStartHalf w => !prev.any w.has
  | .wordEndHalf w => !next.any w.has

inductive Regex where
  | empty
  | literal (text : List Char)
  | chars (s : CharSet)
  | look (l : Look)
  /-- A group with a number of its own. -/
  | group (index : Nat) (r : Regex)
  | cat (r s : Regex)
  | alt (r s : Regex)
  /-- At least `least` and, if there is a bound, at most `most` repetitions. Whether many or few are
  preferred does not matter for what is described. -/
  | repeated (r : Regex) (least : Nat) (most : Option Nat) (greedy : Bool)
  deriving DecidableEq, Hashable, Repr

namespace Regex

/-- Whether the empty text is described between two characters. -/
def nullable (prev next : Option Char) : Regex → Bool
  | empty => true
  | literal text => text.isEmpty
  | chars _ => false
  | look l => l.holds prev next
  | group _ r => r.nullable prev next
  | cat r s => r.nullable prev next && s.nullable prev next
  | alt r s => r.nullable prev next || s.nullable prev next
  | repeated r least _ _ => least == 0 || r.nullable prev next

/-- One after the other. -/
def andThen : Regex → Regex → Regex
  | empty, s => s
  | r, s => cat r s

/-- What may follow after a character. An iteration that can be empty in this place stands for any
number of them, so after it no more are required. -/
def derivatives (prev : Option Char) (c : Char) : Regex → List Regex
  | empty => []
  | literal [] => []
  | literal (d :: rest) =>
    if c = d then [if rest.isEmpty then empty else literal rest] else []
  | chars s => if s.contains c then [empty] else []
  | look _ => []
  | group _ r => r.derivatives prev c
  | cat r s =>
    (r.derivatives prev c).map (·.andThen s) ++
      if r.nullable prev (some c) then s.derivatives prev c else []
  | alt r s => r.derivatives prev c ++ s.derivatives prev c
  | repeated r least most greedy =>
    if most = some 0 then []
    else
      let least := if r.nullable prev (some c) then 0 else least - 1
      (r.derivatives prev c).map
        (·.andThen (repeated r least (most.map (· - 1)) greedy))

/-- Whether one of some expressions describes a beginning of the text, or `r` a part further on. -/
def search (r : Regex) (prev : Option Char) (states : List Regex) : List Char → Bool
  | [] => states.any (·.nullable prev none)
  | c :: rest =>
    states.any (·.nullable prev (some c)) ||
      r.search (some c) (distinctHashed (states.flatMap (·.derivatives prev c) ++ [r])) rest

/-- Whether a part of the text is described. -/
def occursIn (r : Regex) (text : String) : Bool := r.search none [r] text.toList

end Regex

/-! ## Depth of nesting

Groups, repetitions, brackets and operators nest what they hold, and so does a row of several parts;
a row of one part is the part. -/

/-- A value read from a text, and the depth to which its parts are nested. -/
structure Nested (α : Type) where
  value : α
  depth : Nat

namespace Nested

variable {α β : Type}

/-- A value without parts. -/
def flat (a : α) : Nested α := ⟨a, 0⟩

def map (f : α → β) (a : Nested α) : Nested β := ⟨f a.value, a.depth⟩

/-- A value that holds another one. -/
def inside (f : α → β) (a : Nested α) : Nested β := ⟨f a.value, a.depth + 1⟩

/-- A row of values. -/
def several (f : List α → β) (row : List (Nested α)) : Nested β :=
  let deepest := (row.map (·.depth)).foldl max 0
  ⟨f (row.map (·.value)), if row.length ≤ 1 then deepest else deepest + 1⟩

end Nested

end FormEngine.Pattern
