import FormEngine.Json.Value
import FormEngine.Text.Digits

/-!
# Reading JSON

Two automata read a document: a lexer steps over characters, a builder over tokens with the open
containers on a stack. Neither looks back, so `parse?` ends with its text. The stack has a limit: a
document that is nested deeper is refused, even if the deep part is one that is not used later. The
result lists the members of objects as they are written; `read?` also makes dictionaries of them.
-/

namespace FormEngine.Json

/-- A token of a document. -/
inductive Token where
  | openObject
  | closeObject
  | openArray
  | closeArray
  | comma
  | colon
  | scalar (v : Value)

/-! ## Tokens -/

/-- Where the lexer stands between two characters of a quoted text. -/
inductive Quoted where
  | plain
  | escape
  /-- Inside four hexadecimal digits: the ones still missing, the value so far, and the first half
  of a pair. -/
  | hex (missing : Nat) (value : Nat) (high : Option Nat)
  /-- Before the backslash of the second half of a pair. -/
  | pairBackslash (high : Nat)
  | pairMark (high : Nat)

/-- What the lexer is in the middle of; runs are kept in reverse. -/
inductive Mode where
  | idle
  | quoted (state : Quoted) (run : List Char)
  | number (run : List Char)
  | word (run : List Char)

/-- The lexer between two characters, with the tokens so far in reverse. -/
structure Lexer where
  mode : Mode
  tokens : List Token

/-- The character of a one-letter escape. -/
def escape? (c : Char) : Option Char :=
  match c with
  | '"' | '\\' | '/' => some c
  | 'b' => some (Char.ofNat 8)
  | 'f' => some (Char.ofNat 12)
  | 'n' => some '\n'
  | 'r' => some '\r'
  | 't' => some '\t'
  | _ => none

/-- After the last hexadecimal digit: a character, or the first half of a pair. -/
def unit? (value : Nat) (high : Option Nat) (run : List Char) : Option Mode :=
  match high with
  | some h =>
    if 0xDC00 ≤ value ∧ value ≤ 0xDFFF then
      some (.quoted .plain (Char.ofNat (0x10000 + (h - 0xD800) * 0x400 + (value - 0xDC00)) :: run))
    else none
  | none =>
    if 0xD800 ≤ value ∧ value ≤ 0xDBFF then some (.quoted (.pairBackslash value) run)
    else if 0xDC00 ≤ value ∧ value ≤ 0xDFFF then none
    else some (.quoted .plain (Char.ofNat value :: run))

/-- A character that belongs to a number wherever it stands outside quotes. -/
def isNumberChar (c : Char) : Bool :=
  c.isDigit || c == '-' || c == '+' || c == '.' || c == 'e' || c == 'E'

/-- A character with no token open. -/
def start? (c : Char) (tokens : List Token) : Option Lexer :=
  match c with
  | ' ' | '\n' | '\r' | '\t' => some ⟨.idle, tokens⟩
  | '[' => some ⟨.idle, .openArray :: tokens⟩
  | ']' => some ⟨.idle, .closeArray :: tokens⟩
  | ',' => some ⟨.idle, .comma :: tokens⟩
  | ':' => some ⟨.idle, .colon :: tokens⟩
  | '"' => some ⟨.quoted .plain [], tokens⟩
  | _ =>
    if c = '\x7b' then some ⟨.idle, .openObject :: tokens⟩
    else if c = '\x7d' then some ⟨.idle, .closeObject :: tokens⟩
    else if c.isDigit || c == '-' then some ⟨.number [c], tokens⟩
    else if c.isAlpha then some ⟨.word [c], tokens⟩
    else none

/-- The value of a word outside quotes. -/
def word? (run : List Char) : Option Value :=
  match String.ofList run.reverse with
  | "null" => some .null
  | "true" => some (.bool true)
  | "false" => some (.bool false)
  | _ => none

/-- A character inside quotes. -/
def quoted? (state : Quoted) (run : List Char) (c : Char) : Option Mode :=
  match state with
  | .plain =>
    if c = '\\' then some (.quoted .escape run)
    else if c.toNat < 0x20 then none
    else some (.quoted .plain (c :: run))
  | .escape =>
    if c = 'u' then some (.quoted (.hex 4 0 none) run)
    else (escape? c).map fun d => .quoted .plain (d :: run)
  | .hex missing value high =>
    (Text.hexDigit? c).bind fun d =>
      if missing ≤ 1 then unit? (16 * value + d) high run
      else some (.quoted (.hex (missing - 1) (16 * value + d) high) run)
  | .pairBackslash high => if c = '\\' then some (.quoted (.pairMark high) run) else none
  | .pairMark high => if c = 'u' then some (.quoted (.hex 4 0 (some high)) run) else none

/-- The tokens once an open number or word ends; none if quotes are still open. -/
def closed? (l : Lexer) : Option (List Token) :=
  match l.mode with
  | .idle => some l.tokens
  | .number run => (Number.read? run.reverse).map fun n => .scalar (.number n) :: l.tokens
  | .word run => (word? run).map fun v => .scalar v :: l.tokens
  | .quoted _ _ => none

def Lexer.step (l : Lexer) (c : Char) : Option Lexer :=
  match l.mode with
  | .quoted .plain run =>
    if c = '"' then some ⟨.idle, .scalar (.string (String.ofList run.reverse)) :: l.tokens⟩
    else (quoted? .plain run c).map fun mode => ⟨mode, l.tokens⟩
  | .quoted state run => (quoted? state run c).map fun mode => ⟨mode, l.tokens⟩
  | .number run =>
    if isNumberChar c then some ⟨.number (c :: run), l.tokens⟩ else (closed? l).bind (start? c)
  | .word run =>
    if c.isAlpha then some ⟨.word (c :: run), l.tokens⟩ else (closed? l).bind (start? c)
  | .idle => start? c l.tokens

/-- The tokens of a text. -/
def tokens? (cs : List Char) : Option (List Token) :=
  ((cs.foldlM Lexer.step ⟨.idle, []⟩).bind closed?).map List.reverse

/-! ## Values -/

/-- An open container, its contents in reverse; a member waits for the value of its key. -/
inductive Frame where
  | array (done : List Value)
  | object (done : List (String × Value))
  | member (done : List (String × Value)) (key : String)

/-- What may come next. -/
inductive Expect where
  | value
  | itemOrClose
  | keyOrClose
  | key
  | colon (key : String)
  | separator
  | nothing (v : Value)

/-- The builder between two tokens. -/
structure Builder where
  stack : List Frame
  expect : Expect

/-- Puts a finished value where it belongs. -/
def Builder.put (stack : List Frame) (v : Value) : Option Builder :=
  match stack with
  | [] => some ⟨[], .nothing v⟩
  | .array done :: rest => some ⟨.array (v :: done) :: rest, .separator⟩
  | .member done key :: rest => some ⟨.object ((key, v) :: done) :: rest, .separator⟩
  | .object _ :: _ => none

/-- How many containers may be open at once. -/
def openLimit : Nat := 127

/-- Opens a container. -/
def Builder.enter (stack : List Frame) (frame : Frame) (expect : Expect) : Option Builder :=
  if stack.length < openLimit then some ⟨frame :: stack, expect⟩ else none

/-- A token where a value begins. -/
def Builder.begin (stack : List Frame) : Token → Option Builder
  | .scalar v => put stack v
  | .openArray => enter stack (.array []) .itemOrClose
  | .openObject => enter stack (.object []) .keyOrClose
  | _ => none

/-- Closes the innermost container. -/
def Builder.close : List Frame → Token → Option Builder
  | .array done :: rest, .closeArray => put rest (.array done.reverse)
  | .object done :: rest, .closeObject => put rest (.object done.reverse)
  | _, _ => none

def Builder.step (b : Builder) (t : Token) : Option Builder :=
  match b.expect, t with
  | .value, t => begin b.stack t
  | .itemOrClose, .closeArray => close b.stack .closeArray
  | .itemOrClose, t => begin b.stack t
  | .keyOrClose, .closeObject => close b.stack .closeObject
  | .keyOrClose, .scalar (.string key) => some ⟨b.stack, .colon key⟩
  | .key, .scalar (.string key) => some ⟨b.stack, .colon key⟩
  | .colon key, .colon =>
    match b.stack with
    | .object done :: rest => some ⟨.member done key :: rest, .value⟩
    | _ => none
  | .separator, .comma =>
    match b.stack with
    | .array _ :: _ => some ⟨b.stack, .value⟩
    | .object _ :: _ => some ⟨b.stack, .key⟩
    | _ => none
  | .separator, t => close b.stack t
  | _, _ => none

/-- The document that a list of tokens spells. -/
def build? (tokens : List Token) : Option Value :=
  match tokens.foldlM Builder.step ⟨[], .value⟩ with
  | some ⟨_, .nothing v⟩ => some v
  | _ => none

/-- Reads a document, with the members of objects as they are written. -/
def parse? (text : String) : Option Value := (tokens? text.toList).bind build?

/-- Reads a document. -/
def read? (text : String) : Option Value := (parse? text).map Value.normalize

end FormEngine.Json
