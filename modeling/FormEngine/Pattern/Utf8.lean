import FormEngine.Unicode.Ranges

/-!
# Encoded spans

A span of code points as sequences of spans of bytes: a text of one character is encoded by a
sequence if each of its bytes lies in the span of its place. `sequences` divides a span into parts
whose first and last character differ in their trailing bytes by whole blocks.
-/

namespace FormEngine.Pattern.Utf8

/-- The bytes from the first to the second one. -/
abbrev ByteSpan := Nat × Nat

/-- The bytes of a character. -/
def bytes (c : Char) : List Nat := (String.utf8EncodeChar c).map UInt8.toNat

/-- Where to divide a span so that the blocks of `64 ^ place` code points are whole, if its ends lie
in two of them. -/
def blockCut? (first last place : Nat) : Option Nat :=
  let block := Nat.pow 64 place
  if first / block = last / block then none
  else if first % block ≠ 0 then some ((first / block + 1) * block - 1)
  else if last % block ≠ block - 1 then some (last / block * block - 1)
  else none

/-- The last code point of the first part of a span that has to be divided. Code points without a
character and those with more bytes are kept apart. -/
def cut? (first last : Nat) : Option Nat :=
  match [0xD7FF, 0xDFFF, 0x7F, 0x7FF, 0xFFFF].find? fun m => first ≤ m && m < last with
  | some m => some m
  | none =>
    if last ≤ 0x7F then none
    else
      (blockCut? first last 1).or ((blockCut? first last 2).or (blockCut? first last 3))

/-- The sequences of a span, in order. -/
def sequences (first last : Nat) : List (List ByteSpan) :=
  match cut? first last with
  | some m =>
    if first ≤ m ∧ m < last then sequences first m ++ sequences (m + 1) last else []
  | none =>
    if first.isValidChar then [(bytes (Char.ofNat first)).zip (bytes (Char.ofNat last))] else []
termination_by last - first

/-- The sequences of a set, in order. -/
def ofRanges (r : Unicode.Ranges) : List (List ByteSpan) :=
  r.spans.flatMap fun s => sequences s.1 s.2

end FormEngine.Pattern.Utf8
