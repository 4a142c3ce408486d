import FormEngine.Pattern.Simple
import FormEngine.Pattern.Utf8
import Std.Data.HashMap

/-!
# Size of automata

An expression is accepted if the automata that read encoded texts forward and backward are not too
large. An automaton is only counted here: its states are numbered in the order in which they are
added, and each takes a number of bytes that depends on its kind.
-/

namespace FormEngine.Pattern

/-- The side from which an automaton reads. -/
inductive Reading where
  | forward
  | backward
  deriving DecidableEq, Repr

/-- An automaton that is being counted. -/
structure Automaton where
  states : Nat := 0
  bytes : Nat := 0
  deriving DecidableEq, Repr

namespace Automaton

/-- The bytes that an automaton may take. -/
def limit : Nat := 10 * Nat.pow 2 20

def isTooLarge (a : Automaton) : Bool := limit < a.bytes

/-- Adds a state with one way out or none. -/
def state (a : Automaton) : Automaton := ⟨a.states + 1, a.bytes + 32⟩

/-- Adds a state with ways out by bytes. -/
def fork (a : Automaton) (edges : Nat) : Automaton := ⟨a.states + 1, a.bytes + 32 + 8 * edges⟩

/-- Adds ways out to states that try one way after the other. -/
def ways (a : Automaton) (count : Nat) : Automaton := ⟨a.states, a.bytes + 4 * count⟩

/-- Applies a step a number of times, but no longer than the automaton is not too large. -/
def iterate (step : Automaton → Automaton) : Nat → Automaton → Automaton
  | 0, a => a
  | n + 1, a => if a.isTooLarge then a else iterate step n (step a)

/-! ## Sets of characters

States for the same bytes are shared as far as a table of bounded size remembers them: a state has
one slot, and a later one takes it. -/

/-- The slot of a row of words: a multiplicative hash of 64 bits. -/
def slot (size : UInt64) (words : List Nat) : UInt64 :=
  words.foldl (fun h w => (h ^^^ w.toUInt64) * 1099511628211) 14695981039346656037 % size

/-- A way out: first byte, last byte, and the state that it leads to. -/
abbrev Edge := Nat × Nat × Nat

/-- A state whose ways out are not complete: those so far, the last one first, and the bytes of one
whose end is not known yet. -/
structure Draft where
  edges : List Edge := []
  pending : Option Utf8.ByteSpan := none

/-- Ends the pending way out. -/
def Draft.seal (d : Draft) (target : Nat) : Draft :=
  match d.pending with
  | some (first, last) => ⟨(first, last, target) :: d.edges, none⟩
  | none => d

/-- A set that is being added from the left: the state behind it, the drafts from the innermost one
out, and the complete states by their slots. -/
structure Encoder where
  automaton : Automaton
  target : Nat
  drafts : List Draft
  table : Std.HashMap UInt64 (List Edge × Nat)

namespace Encoder

/-- The state of some ways out, added unless the table remembers it. -/
def complete (e : Encoder) (edges : List Edge) : Encoder × Nat :=
  let key := slot 10000 (edges.flatMap fun (first, last, target) => [first, last, target])
  match e.table[key]? with
  | some (known, number) =>
    if known = edges then (e, number) else add key
  | none => add key
where
  add (key : UInt64) : Encoder × Nat :=
    ({ e with
        automaton := e.automaton.fork edges.length
        table := e.table.insert key (edges, e.automaton.states) }, e.automaton.states)

/-- Completes the innermost drafts but for the outer `depth + 1` ones, from the inside out, and then
the pending way out of the innermost one left. -/
def closeTo (e : Encoder) (depth : Nat) : Encoder :=
  let inner := e.drafts.length - 1 - depth
  let (e', next) := (e.drafts.take inner).foldl
    (fun (e, next) d => e.complete (d.seal next).edges.reverse) (e, e.target)
  match e.drafts.drop inner with
  | [] => e'
  | d :: outer => { e' with drafts := d.seal next :: outer }

/-- Adds a sequence that comes after the ones added so far. -/
def push (e : Encoder) (sequence : List Utf8.ByteSpan) : Encoder :=
  let known := ((e.drafts.reverse.zip sequence).takeWhile fun (d, s) => d.pending == some s).length
  let e := e.closeTo known
  match e.drafts, sequence.drop known with
  | d :: outer, s :: rest =>
    { e with
      drafts := (rest.reverse.map fun s => ⟨[], some s⟩) ++ { d with pending := some s } :: outer }
  | _, _ => e

/-- Completes the outermost draft. -/
def finish (e : Encoder) : Automaton :=
  let e := e.closeTo 0
  match e.drafts with
  | d :: _ => (e.complete d.edges.reverse).1.automaton
  | [] => e.automaton

end Encoder

/-- Adds a set for reading forward: beginnings are shared, and so are ends. -/
def addForward (sequences : List (List Utf8.ByteSpan)) (a : Automaton) : Automaton :=
  (sequences.foldl Encoder.push ⟨a.state, a.states, [{}], {}⟩).finish

/-- A set that is being added from the right: the states by their slots, each with the state behind
it and its bytes. -/
structure Decoder where
  automaton : Automaton
  table : Std.HashMap UInt64 (List Nat × Nat)

/-- Adds a state for a span of bytes in front of another state, unless the table remembers it. -/
def Decoder.step (d : Decoder × Nat) (s : Utf8.ByteSpan) : Decoder × Nat :=
  let words := [d.2, s.1, s.2]
  let key := slot 1000 words
  match d.1.table[key]? with
  | some (known, number) => if known = words then (d.1, number) else add words key
  | none => add words key
where
  add (words : List Nat) (key : UInt64) : Decoder × Nat :=
    let number := d.1.automaton.states
    (⟨d.1.automaton.state, d.1.table.insert key (words, number)⟩, number)

/-- Adds a set for reading backward: one way for every sequence, whose first bytes are shared. -/
def addBackward (sequences : List (List Utf8.ByteSpan)) (a : Automaton) : Automaton :=
  let last := a.states + 1
  (sequences.foldl
    (fun d sequence =>
      let d := (sequence.foldl Decoder.step (d, last)).1
      { d with automaton := d.automaton.ways 1 })
    (⟨a.state.state, {}⟩ : Decoder)).automaton

/-- Adds a set of characters. -/
def addSet (reading : Reading) (s : CharSet) (a : Automaton) : Automaton :=
  if s.spans.all fun span => span.2 < 128 then a.state.fork s.spans.length
  else match reading with
    | .forward => addForward (Utf8.ofRanges s) a
    | .backward => addBackward (Utf8.ofRanges s) a

/-! ## Choices between texts

Texts share what they begin with. Where a text ends inside another one, what comes later in the
choice is kept apart. -/

/-- Texts between empty ones; there is one more of these lists than there are empty texts. -/
def cutAtEmpty : List (List Nat) → List (List (List Nat))
  | [] => [[]]
  | [] :: rest => [] :: cutAtEmpty rest
  | text :: rest =>
    match cutAtEmpty rest with
    | first :: more => (text :: first) :: more
    | [] => [[text]]

/-- The parts of some texts that are kept apart. Empty texts in front count once. -/
def apart (texts : List (List Nat)) : List (List (List Nat)) :=
  let body := cutAtEmpty (texts.dropWhile List.isEmpty)
  if texts.head? = some [] then [] :: body else body

/-- What follows a byte in the texts that begin with it. -/
def after (byte : Nat) (texts : List (List Nat)) : List (List Nat) :=
  texts.filterMap fun text => if text.head? = some byte then some (text.drop 1) else none

/-- Adds the states for some texts from a place on; `depth` bounds their length. -/
def addTextsFrom : Nat → List (List Nat) → Automaton → Automaton
  | 0, _, a => a
  | depth + 1, texts, a =>
    let lists := apart texts
    let a := lists.foldl (fun a list =>
      let bytes := distinct (list.filterMap List.head?)
      let a := bytes.foldl (fun a byte =>
        let rests := after byte list
        if rests.all List.isEmpty then a else addTextsFrom depth rests a) a
      match bytes.length with
      | 0 => a
      | 1 => a.state
      | n => a.fork n) a
    a.state.ways ((lists.length - 1) + (lists.filter (!·.isEmpty)).length)

/-- Adds a choice between texts. -/
def addTexts (texts : List (List Nat)) (a : Automaton) : Automaton :=
  addTextsFrom ((texts.map List.length).foldl max 0 + 1) texts a.state

end Automaton

namespace Regex

/-- The bytes of a text. -/
def textBytes (reading : Reading) (text : List Char) : List Nat :=
  match reading with
  | .forward => text.flatMap Utf8.bytes
  | .backward => (text.flatMap Utf8.bytes).reverse

/-- The texts of a choice between texts. -/
def texts? : Regex → Option (List (List Char))
  | literal text => some [text]
  | alt (literal text) s => s.texts?.map (text :: ·)
  | _ => none

/-- Whether the automaton of an expression ends in a state that tries several ways. -/
def endsInWays (reading : Reading) : Regex → Bool
  | group _ r =>
    match reading with
    | .forward => false
    | .backward => r.endsInWays reading
  | cat r s =>
    match reading with
    | .forward => s.endsInWays reading
    | .backward => r.endsInWays reading
  | repeated r least most _ =>
    match most with
    | none => least != 0 || r.leastLength?.any (0 < ·)
    | some m => least == m && least != 0 && r.endsInWays reading
  | _ => false

/-- Goes on from the end of an expression; only states that try several ways grow by that. -/
def goOn (reading : Reading) (r : Regex) (a : Automaton) : Automaton :=
  if r.endsInWays reading then a.ways 1 else a

open Automaton in
mutual

/-- Adds an expression to an automaton. -/
def build (reading : Reading) : Regex → Automaton → Automaton
  | empty, a => a.state
  | literal text, a => (textBytes reading text).foldl (fun a _ => a.state) a
  | chars s, a => addSet reading s a
  | look _, a => a.state
  | group _ r, a =>
    match reading with
    | .forward => r.goOn reading (build reading r a.state).state
    | .backward => build reading r a
  | cat r s, a =>
    match reading with
    | .forward => build reading s (r.goOn reading (build reading r a))
    | .backward => build reading r (s.goOn reading (build reading s a))
  | alt r s, a =>
    match (alt r s).texts? with
    | some texts => addTexts (texts.map (textBytes reading)) a
    | none => buildBranches reading true s (r.goOn reading ((build reading r a).ways 1))
  | repeated r least most _, a =>
    let one (a : Automaton) : Automaton := build reading r a
    let again (a : Automaton) : Automaton := one (r.goOn reading a)
    let exactly (a : Automaton) : Automaton :=
      if least = 0 then a.state else iterate again (least - 1) (one a)
    match most with
    | none =>
      if least = 0 then
        if r.leastLength?.any (0 < ·) then r.goOn reading ((one a.state).ways 1)
        else (r.goOn reading (one a)).state.state.state.ways 4
      else (r.goOn reading (exactly a)).state.ways 1
    | some m =>
      if least = 0 ∧ m = 1 then (r.goOn reading (one a.state)).state.ways 2
      else if least = m then exactly a
      else
        let start := (exactly a).state
        iterate (fun a => (r.goOn reading (one a.state)).ways 2) (m - least)
          (if least = 0 then start else r.goOn reading start)

/-- Adds the branches of a choice after the first one. The states around all branches come after the
second one. -/
def buildBranches (reading : Reading) (second : Bool) : Regex → Automaton → Automaton
  | alt r s, a =>
    let a := r.goOn reading ((build reading r a).ways 1)
    buildBranches reading false s (if second then a.state.state else a)
  | r, a =>
    let a := r.goOn reading ((build reading r a).ways 1)
    if second then a.state.state else a

end

/-- Whether every match begins at the beginning of the text, or ends at its end, as the look at one
side says. -/
def isAnchored (reading : Reading) : Regex → Bool
  | look l =>
    match reading with
    | .forward => l = .textStart
    | .backward => l = .textEnd
  | group _ r => r.isAnchored reading
  | cat r s =>
    match reading with
    | .forward => r.isAnchored reading || (r.isVoid && s.isAnchored reading)
    | .backward => s.isAnchored reading || (s.isVoid && r.isAnchored reading)
  | alt r s => r.isAnchored reading && s.isAnchored reading
  | repeated r least _ _ => least != 0 && r.isAnchored reading
  | _ => false

/-- The automaton of an expression. A match that may begin anywhere is looked for behind a loop over
all bytes. -/
def automaton (reading : Reading) (r : Regex) : Automaton :=
  let start : Automaton :=
    if r.isAnchored reading then Automaton.state {}
    else (Automaton.fork (Automaton.state (Automaton.state {})) 1).ways 2
  ((group 0 r).build reading start).state

/-- Whether both automata of an expression are small enough. -/
def fits (r : Regex) : Bool :=
  !(r.automaton .forward).isTooLarge && !(r.automaton .backward).isTooLarge

end Regex

end FormEngine.Pattern
