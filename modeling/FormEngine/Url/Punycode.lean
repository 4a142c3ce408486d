/-!
# Punycode

The spelling of international labels in ASCII. The characters below 128 come first, up to the last
dash; then every further character is given by the distance to the one inserted before it, counted
over all places and code points, as a number whose digits change their weight with what came before.
-/

namespace FormEngine.Url.Punycode

/-- The value of a digit: letters first, then decimal digits. -/
def digit? (c : Char) : Option Nat :=
  if 'a' ≤ c ∧ c ≤ 'z' then some (c.toNat - 'a'.toNat)
  else if 'A' ≤ c ∧ c ≤ 'Z' then some (c.toNat - 'A'.toNat)
  else if c.isDigit then some (c.toNat - '0'.toNat + 26)
  else none

/-- The least digit that does not end a number, at a place of it. -/
def threshold (place bias : Nat) : Nat := max 1 (min 26 (36 * place - bias))

/-- The distance and the bias left when a distance is scaled down. -/
def scaleDown (distance bias : Nat) : Nat × Nat :=
  if 455 < distance then scaleDown (distance / 35) (bias + 36) else (distance, bias)
termination_by distance
decreasing_by exact Nat.div_lt_self (by omega) (by omega)

/-- The bias after a distance, with the number of characters so far. -/
def adapt (distance count : Nat) (first : Bool) : Nat :=
  let d := if first then distance / 700 else distance / 2
  let (rest, bias) := scaleDown (d + d / count) 0
  bias + 36 * rest / (rest + 38)

/-- The state of decoding between two digits. -/
structure Decoder where
  text : List Char
  code : Nat := 128
  position : Nat := 0
  bias : Nat := 72
  first : Bool := true
  /-- The number being read, the weight of its next digit, and the place of that digit. -/
  number : Nat := 0
  weight : Nat := 1
  place : Nat := 1

namespace Decoder

/-- Inserts the character that a complete distance leads to. -/
def insert? (d : Decoder) (distance : Nat) : Option Decoder :=
  let count := d.text.length + 1
  let reached := d.position + distance
  let code := d.code + reached / count
  let position := reached % count
  if code.isValidChar then
    some {
      text := d.text.take position ++ Char.ofNat code :: d.text.drop position
      code := code
      position := position + 1
      bias := adapt distance count d.first
      first := false }
  else none

/-- Reads a digit. Numbers are of 32 bits. -/
def step? (d : Decoder) (c : Char) : Option Decoder := do
  let value ← digit? c
  let number := d.number + value * d.weight
  let t := threshold d.place d.bias
  let weight := d.weight * (36 - t)
  if Nat.pow 2 32 ≤ d.position + number then none
  else if value < t then d.insert? number
  else if Nat.pow 2 32 ≤ weight then none
  else return { d with number := number, weight := weight, place := d.place + 1 }

end Decoder

/-- The label of a spelling. -/
def decode? (cs : List Char) : Option (List Char) := do
  let tail := (cs.reverse.takeWhile (· != '-')).reverse
  let lead := cs.take (cs.length - tail.length - 1)
  let body := if lead.isEmpty then cs else tail
  if lead.any fun c => 128 ≤ c.toNat then none
  let d ← body.foldlM Decoder.step? ⟨lead, 128, 0, 72, true, 0, 1, 1⟩
  if d.place = 1 then return d.text else none

end FormEngine.Url.Punycode
