import FormEngine.Pattern.Flags
import FormEngine.Pattern.Property

/-!
# Escapes

What a backslash begins: a character that would mean something else, a character by its number, a
class, or a question about the position.
-/

namespace FormEngine.Pattern

/-- What one step of reading finds. -/
inductive Atom where
  | char (c : Char)
  | set (s : CharSet)
  | look (l : Look)
  deriving DecidableEq, Repr

namespace Escape

/-- The text before a closing brace and what follows the brace. -/
def toBrace? (f : Flags) (cs : List Char) : Option (List Char × List Char) :=
  match cs with
  | [] => none
  | c :: rest =>
    if c = '\x7d' then some ([], rest)
    else (toBrace? f (f.skip rest)).map fun (text, more) => (c :: text, more)
termination_by cs.length
decreasing_by
  have := f.skip_length rest
  simp only [List.length_cons]
  omega

/-- A fixed number of hexadecimal digits. -/
def hexDigits? (f : Flags) : Nat → Nat → List Char → Option (Nat × List Char)
  | 0, n, cs => some (n, cs)
  | _ + 1, _, [] => none
  | count + 1, n, c :: rest =>
    (Text.hexDigit? c).bind fun d => hexDigits? f count (16 * n + d) (f.skip rest)

/-- The number of a text of hexadecimal digits, at least one. -/
def hexNumber? (digits : List Char) : Option Nat :=
  if digits.isEmpty then none else Text.inBase? 16 digits

/-- The character of a code point. -/
def scalar? (n : Nat) : Option Char := if n.isValidChar then some (Char.ofNat n) else none

/-- A character by its number; the text begins after the letter. Without Unicode two digits are a
byte, which is a character below 128 only. -/
def byNumber? (f : Flags) (letter : Char) (cs : List Char) : Option (Char × List Char) :=
  match f.skip cs with
  | [] => none
  | c :: rest =>
    if c = '\x7b' then do
      let (digits, more) ← toBrace? f (f.skip rest)
      let n ← hexNumber? digits
      return (← scalar? n, f.skip more)
    else do
      let count := if letter = 'x' then 2 else if letter = 'u' then 4 else 8
      let (n, more) ← hexDigits? f count 0 (c :: rest)
      if letter = 'x' ∧ !f.unicode ∧ 128 ≤ n then none
      return (← scalar? n, more)

/-- A class by its property; the text begins after the letter. -/
def byProperty? (f : Flags) (negated : Bool) (cs : List Char) : Option (CharSet × List Char) :=
  match f.skip cs with
  | [] => none
  | c :: rest =>
    if !f.unicode then none
    else if c = '\x7b' then do
      let (name, more) ← toBrace? f (f.skip rest)
      let (differs, s) ← Property.ofBraces? name
      return (← f.complementIf? (negated != differs) (f.cased s), more)
    else if c = '\\' then none
    else do
      let s ← Property.ofName? [c]
      return (← f.complementIf? negated (f.cased s), f.skip rest)

/-- Digits, blanks and characters of words. -/
def shorthand? (f : Flags) : Char → Option CharSet
  | 'd' => some (if f.unicode then Unicode.Category.decimalNumberRanges else .between '0' '9')
  | 's' => some (if f.unicode then Unicode.blanks else .ofText "9-D 20")
  | 'w' => some (if f.unicode then Unicode.wordCharacters else .ofText "30-39 41-5A 5F 61-7A")
  | _ => none

/-- Controls that have a letter. -/
def control? : Char → Option Char
  | 'a' => some '\x07'
  | 'f' => some '\x0c'
  | 't' => some '\t'
  | 'n' => some '\n'
  | 'r' => some '\r'
  | 'v' => some '\x0b'
  | _ => none

/-- Questions that have a character. -/
def look? (f : Flags) : Char → Option Look
  | 'A' => some .textStart
  | 'z' => some .textEnd
  | 'B' => some (.noBoundary f.words)
  | '<' => some (.wordStart f.words)
  | '>' => some (.wordEnd f.words)
  | _ => none

/-- Questions about boundaries that have a name. -/
def namedBoundary? (f : Flags) : String → Option Look
  | "start" => some (.wordStart f.words)
  | "end" => some (.wordEnd f.words)
  | "start-half" => some (.wordStartHalf f.words)
  | "end-half" => some (.wordEndHalf f.words)
  | _ => none

def isNameChar (c : Char) : Bool := c.isAlpha || c == '-'

/-- A boundary; the text begins after the letter. Braces hold a name, unless they count. -/
def boundary? (f : Flags) (cs : List Char) : Option (Look × List Char) :=
  match cs with
  | [] => some (.boundary f.words, [])
  | c :: rest =>
    if c = '\x7b' then
      match f.skip rest with
      | [] => none
      | d :: more =>
        if isNameChar d then do
          let (name, after) ← toBrace? f (d :: more)
          if name.all isNameChar then
            return (← namedBoundary? f (String.ofList name), after)
          else none
        else some (.boundary f.words, cs)
    else some (.boundary f.words, cs)

/-- Whether a backslash before the character stands for the character. -/
def isPlain (c : Char) : Bool := c.toNat < 128 && !c.isAlphanum && c != '<' && c != '>'

/-- Reads an escape; the text begins after the backslash. -/
def read? (f : Flags) : List Char → Option (Atom × List Char)
  | [] => none
  | c :: rest =>
    if c = 'x' ∨ c = 'u' ∨ c = 'U' then (byNumber? f c rest).map fun (d, more) => (.char d, more)
    else if c = 'p' ∨ c = 'P' then
      (byProperty? f (c == 'P') rest).map fun (s, more) => (.set s, more)
    else if c = 'b' then (boundary? f rest).map fun (l, more) => (.look l, more)
    else if isPlain c then some (.char c, rest)
    else
      match shorthand? f c.toLower, control? c, look? f c with
      | some s, _, _ => (f.complementIf? c.isUpper s).map fun s => (.set s, rest)
      | none, some d, _ => some (.char d, rest)
      | none, none, some l => some (.look l, rest)
      | none, none, none => none

end Escape

end FormEngine.Pattern
