import FormEngine.Text.Digits
import FormEngine.Text.Search

/-!
# Internet addresses

Hosts that are numbers: four bytes in decimal, octal or hexadecimal, of which the last may stand for
several, and eight groups of hexadecimal digits with one run of zeros left out.
-/

namespace FormEngine.Url

/-- A number of an address: hexadecimal after `0x`, octal after `0`, decimal otherwise. -/
def addressNumber? : List Char → Option Nat
  | [] => none
  | '0' :: 'x' :: rest | '0' :: 'X' :: rest => Text.inBase? 16 rest
  | '0' :: c :: rest => Text.inBase? 8 (c :: rest)
  | cs => Text.inBase? 10 cs

/-- The parts of a name between dots, without an empty last one. -/
def addressParts (cs : List Char) : List (List Char) :=
  let parts := Text.parts '.' cs
  if 1 < parts.length ∧ parts.getLast? = some [] then parts.dropLast else parts

/-- Whether a name has to be an address: its last part is a number. -/
def endsInNumber (cs : List Char) : Bool :=
  match (addressParts cs).getLast? with
  | some part => (Text.natural? part).isSome || (addressNumber? part).isSome
  | none => false

/-- Whether some numbers fill four bytes, the last one all that the others leave. -/
def fillsFourBytes (numbers : List Nat) : Bool :=
  match numbers.reverse with
  | [] => false
  | last :: before =>
    before.length < 4 && before.all (· < 256) && last < Nat.pow 256 (4 - before.length)

/-- Whether a name is an address of four bytes. -/
def isFourByteAddress (cs : List Char) : Bool :=
  match (addressParts cs).mapM addressNumber? with
  | some numbers => fillsFourBytes numbers
  | none => false

/-! ## Eight groups -/

/-- Up to four hexadecimal digits. -/
def isHexGroup (cs : List Char) : Bool :=
  0 < cs.length && cs.length ≤ 4 && (Text.inBase? 16 cs).isSome

/-- Four decimal bytes without leading zeros. -/
def isDottedTail (cs : List Char) : Bool :=
  let parts := Text.parts '.' cs
  parts.length == 4 && parts.all fun part =>
    (Text.natural? part).any (· < 256) && !(part.head? == some '0' && 1 < part.length)

/-- The number of groups that parts between colons stand for; four dotted bytes are two groups and
come last. -/
def groupCount? : List (List Char) → Option Nat
  | [] => some 0
  | [part] => if isHexGroup part then some 1 else if isDottedTail part then some 2 else none
  | part :: rest => if isHexGroup part then (groupCount? rest).map (· + 1) else none

/-- The texts before and after the first double colon. -/
def cutDoubleColon? : List Char → Option (List Char × List Char)
  | ':' :: ':' :: rest => some ([], rest)
  | [] => none
  | c :: rest => (cutDoubleColon? rest).map fun (a, b) => (c :: a, b)

/-- The parts between colons of one side of a double colon. -/
def sideParts (cs : List Char) : List (List Char) := if cs.isEmpty then [] else Text.parts ':' cs

/-- Whether a text is an address of eight groups; a double colon stands for at least one. -/
def isEightGroupAddress (cs : List Char) : Bool :=
  match cutDoubleColon? cs with
  | none => groupCount? (sideParts cs) == some 8
  | some (left, right) =>
    (sideParts left).all isHexGroup &&
      (groupCount? (sideParts right)).any fun n => (sideParts left).length + n < 8

end FormEngine.Url
