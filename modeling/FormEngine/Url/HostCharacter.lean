import FormEngine.Unicode.NextEdition
import FormEngine.Url.VariantTable

/-!
# Characters of host names

What a character stands for in the name of a host: nothing, itself, the characters it is a variant
of, or a reason to refuse the name.
-/

namespace FormEngine.Url

open Unicode

/-- Characters that do not count. -/
def ignored : Ranges := .ofText
  "AD 34F 115F-1160 17B4-17B5 180B-180F 200B 2060-2064 206A-206F 3164 FE00-FE0F FEFF FFA0
   1BCA0-1BCA3 1D173-1D17A E0100-E01EF"

/-- Assigned characters that no name holds. -/
def barred : Ranges := .ofText
  "600-605 61C 6DD 70F 890-891 8E2 1680 200E-200F 2024-2026 2028-202E 2066-2069 2488-249B 2FF0-2FFF
   31EF 33C2 33C7 33D8 FE12 FE19 FE30 FE52 FFF9-FFFD 110BD 110CD 13430-1343F 1F100 E0001
   E0020-E007F"

/-- A run of characters that stand for others: its first and last one, the step between two of them,
and what the first one stands for. -/
structure Variant where
  first : Nat
  last : Nat
  step : Nat
  target : List Nat

namespace Variant

/-- The run that an entry of a table describes. -/
def ofEntry? (entry : List Char) : Option Variant :=
  match Text.parts '=' entry with
  | [source, target] =>
    let (run, step) := match Text.parts '/' source with
      | [run, step] => (run, Table.number step)
      | _ => (source, 1)
    match Table.numbers '-' run with
    | [first, last] => some ⟨first, last, step, Table.numbers '+' target⟩
    | [first] => some ⟨first, first, step, Table.numbers '+' target⟩
    | _ => none
  | _ => none

/-- All runs. -/
def all : List Variant :=
  (Table.entries variantTable ++ Table.entries ideographTable ++
    Table.entries ligatureTable).filterMap ofEntry?

/-- Whether a run holds a code point. -/
def holds (v : Variant) (n : Nat) : Bool :=
  v.first ≤ n && n ≤ v.last && (n - v.first) % v.step == 0

/-- What a code point of a run stands for. -/
def targetOf (v : Variant) (n : Nat) : List Char :=
  v.target.map fun t => Char.ofNat (t + (n - v.first))

end Variant

/-- Characters that no name holds. -/
def isRefused (c : Char) : Bool :=
  barred.contains c || Category.privateUseRanges.contains c || Category.controlRanges.contains c ||
    !(assigned.contains c || NextEdition.visible.contains c)

/-- What a character stands for in a name. -/
def mapped? (c : Char) : Option (List Char) :=
  if c.toNat < 128 then some [c.toLower]
  else if ignored.contains c then some []
  else if isRefused c then none
  else
    match Variant.all.find? (·.holds c.toNat) with
    | some v => some (v.targetOf c.toNat)
    | none => some [c]

/-- Characters that stand for themselves. -/
def isStable (c : Char) : Bool := mapped? c == some [c]

/-- ASCII characters that no name holds. -/
def isForbidden (c : Char) : Bool :=
  c.toNat ≤ 0x20 || c.toNat == 0x7F || "%#/:<>?@[\\]^|".toList.contains c

end FormEngine.Url
