import FormEngine.Pattern.Basic
import FormEngine.Text.Blank
import FormEngine.Unicode.CaseFolding

/-!
# Flags

Settings under which a part of a pattern is read. In a verbose pattern blanks and comments, which
reach from `#` to the end of the line, do not count.
-/

namespace FormEngine.Pattern

/-- The flags that a pattern can set. -/
inductive Flag where
  | ignoreCase
  | multiLine
  | dotAll
  | lazy
  | unicode
  | anyLine
  | verbose
  deriving DecidableEq, Repr

def Flag.ofChar? : Char → Option Flag
  | 'i' => some .ignoreCase
  | 'm' => some .multiLine
  | 's' => some .dotAll
  | 'U' => some .lazy
  | 'u' => some .unicode
  | 'R' => some .anyLine
  | 'x' => some .verbose
  | _ => none

/-- The settings of all flags. -/
structure Flags where
  ignoreCase : Bool := false
  multiLine : Bool := false
  dotAll : Bool := false
  lazy : Bool := false
  unicode : Bool := true
  anyLine : Bool := false
  verbose : Bool := false
  deriving DecidableEq, Repr

namespace Flags

def set (f : Flags) (on : Bool) : Flag → Flags
  | .ignoreCase => { f with ignoreCase := on }
  | .multiLine => { f with multiLine := on }
  | .dotAll => { f with dotAll := on }
  | .lazy => { f with lazy := on }
  | .unicode => { f with unicode := on }
  | .anyLine => { f with anyLine := on }
  | .verbose => { f with verbose := on }

/-- The text from its first character that is neither blank nor in a comment. -/
def skipBlanks : Bool → List Char → List Char
  | _, [] => []
  | true, c :: rest => skipBlanks (c != '\n') rest
  | false, c :: rest =>
    if Text.isBlank c then skipBlanks false rest
    else if c = '#' then skipBlanks true rest
    else c :: rest

/-- The text from where reading goes on. -/
def skip (f : Flags) (cs : List Char) : List Char :=
  if f.verbose then skipBlanks false cs else cs

theorem skipBlanks_length (comment : Bool) (cs : List Char) :
    (skipBlanks comment cs).length ≤ cs.length := by
  induction cs generalizing comment with
  | nil => cases comment <;> simp [skipBlanks]
  | cons c rest ih =>
    have h1 := ih true
    have h2 := ih false
    cases comment with
    | true =>
      rw [skipBlanks]
      exact Nat.le_trans (ih _) (by simp)
    | false =>
      rw [skipBlanks]
      split
      · exact Nat.le_trans h2 (by simp)
      · split
        · exact Nat.le_trans h1 (by simp)
        · simp

theorem skip_length (f : Flags) (cs : List Char) : (f.skip cs).length ≤ cs.length := by
  unfold skip
  split
  · exact skipBlanks_length false cs
  · exact Nat.le_refl _

/-- The character after a dash, found by a look ahead that ends inside a comment. -/
def peek? (f : Flags) (cs : List Char) : Option Char :=
  if f.verbose then
    match cs.dropWhile Text.isBlank with
    | '#' :: rest => (rest.dropWhile Text.isBlank).head?
    | rest => rest.head?
  else cs.head?

/-- A set of characters as the flags see it: in any case, if case is ignored. -/
def cased (f : Flags) (s : CharSet) : CharSet :=
  if f.ignoreCase then (if f.unicode then s.anyCase else s.anyAsciiCase) else s

/-- A set or its complement. Without Unicode a complement would hold parts of characters. -/
def complementIf? (f : Flags) (negated : Bool) (s : CharSet) : Option CharSet :=
  if negated then (if f.unicode then some s.complement else none) else some s

/-- The words that word boundaries are about. -/
def words (f : Flags) : WordSet := if f.unicode then .unicode else .ascii

/-- What a dot stands for. -/
def dot? (f : Flags) : Option CharSet :=
  if !f.unicode then none
  else if f.dotAll then some .all
  else if f.anyLine then some (Unicode.Ranges.ofText "A D").complement
  else some (Unicode.Ranges.single '\n').complement

/-- What a caret asks. -/
def caret (f : Flags) : Look :=
  if f.multiLine then (if f.anyLine then .anyLineStart else .lineStart) else .textStart

/-- What a dollar sign asks. -/
def dollar (f : Flags) : Look :=
  if f.multiLine then (if f.anyLine then .anyLineEnd else .lineEnd) else .textEnd

end Flags

end FormEngine.Pattern
