import FormEngine.Double.Reading
import FormEngine.Text.Digits
import FormEngine.Toml.Value

/-!
# TOML scalars

Numbers, truth values and dates are runs of a few characters; the shape of a run decides what it
is. Underscores may stand between two digits, and a decimal integer starts with no zero.
-/

namespace FormEngine.Toml

/-- Digits of a base with single underscores between two of them, without the underscores. -/
def joined? (isDigit : Char → Bool) : List Char → Option (List Char)
  | [] => none
  | [c] => if isDigit c then some [c] else none
  | c :: '_' :: rest => if isDigit c then (joined? isDigit rest).map (c :: ·) else none
  | c :: rest => if isDigit c then (joined? isDigit rest).map (c :: ·) else none

/-- A decimal run with no needless zero in front. -/
def decimal? (cs : List Char) : Option (List Char) :=
  (joined? Char.isDigit cs).filter fun ds => !(ds.head? == some '0' && 1 < ds.length)

/-- The value of digits in a base, with underscores between them. -/
def inBase? (base : Nat) (cs : List Char) : Option Int :=
  ((joined? (fun c => (Text.hexDigit? c).isSome) cs).bind (Text.inBase? base)).map Int.ofNat

def splitSign : List Char → Bool × List Char
  | '-' :: rest => (true, rest)
  | '+' :: rest => (false, rest)
  | cs => (false, cs)

/-- An integer in base ten, or in base sixteen, eight or two without a sign. -/
def integer? (cs : List Char) : Option Int :=
  match cs with
  | '0' :: 'x' :: ds => inBase? 16 ds
  | '0' :: 'o' :: ds => inBase? 8 ds
  | '0' :: 'b' :: ds => inBase? 2 ds
  | _ =>
    let (negative, body) := splitSign cs
    (decimal? body).map fun ds =>
      if negative then -(Text.digitsValue 0 ds : Int) else Text.digitsValue 0 ds

def isExponentMark (c : Char) : Bool := c == 'e' || c == 'E'

/-- Whether a run is a signed run of digits, as in an exponent. -/
def isExponent (cs : List Char) : Bool := (joined? Char.isDigit (splitSign cs).2).isSome

/-- Whether a run is a float: an infinity, a NaN, or digits with a fraction, an exponent or both. -/
def isFloat (cs : List Char) : Bool :=
  let body := (splitSign cs).2
  let whole := body.takeWhile fun c => c.isDigit || c == '_'
  let rest := body.dropWhile fun c => c.isDigit || c == '_'
  body == "inf".toList || body == "nan".toList ||
  (decimal? whole).isSome && match rest with
    | '.' :: more =>
      let fraction := more.takeWhile fun c => c.isDigit || c == '_'
      let tail := more.dropWhile fun c => c.isDigit || c == '_'
      (joined? Char.isDigit fraction).isSome && match tail with
        | [] => true
        | c :: e => isExponentMark c && isExponent e
    | c :: e => isExponentMark c && isExponent e
    | [] => false

/-- Whether a float is an infinity or a NaN by name, or in the range of the doubles. -/
def isInRange (run : List Char) : Bool :=
  match Numeric.decimal? ((splitSign run).2.filter (· != '_')) with
  | some d => Double.ofDecimal d < Double.infinityRank
  | none => true

/-- A number of exactly `width` digits at most `high`, and what follows it. -/
def field? (width low high : Nat) (cs : List Char) : Option (List Char) :=
  let digits := cs.take width
  if digits.length = width ∧ digits.all Char.isDigit ∧ low ≤ Text.digitsValue 0 digits ∧
      Text.digitsValue 0 digits ≤ high then some (cs.drop width) else none

def expect? (c : Char) : List Char → Option (List Char)
  | d :: rest => if c = d then some rest else none
  | [] => none

/-- Days of a month; February has 29 in leap years. -/
def daysOf (year month : Nat) : Nat :=
  if month = 2 then
    if year % 4 = 0 ∧ (year % 100 ≠ 0 ∨ year % 400 = 0) then 29 else 28
  else if month = 4 ∨ month = 6 ∨ month = 9 ∨ month = 11 then 30
  else 31

/-- A date, and what follows it. -/
def date? (cs : List Char) : Option (List Char) := do
  let afterYear ← field? 4 0 9999 cs
  let monthText ← expect? '-' afterYear
  let afterMonth ← field? 2 1 12 monthText
  let dayText ← expect? '-' afterMonth
  field? 2 1 (daysOf (Text.digitsValue 0 (cs.take 4)) (Text.digitsValue 0 (monthText.take 2)))
    dayText

/-- What follows the seconds of a time of day and their fraction. -/
def seconds? (cs : List Char) : Option (List Char) := do
  match ← field? 2 0 60 cs with
  | '.' :: more =>
    if (more.takeWhile Char.isDigit).isEmpty then none else some (more.dropWhile Char.isDigit)
  | rest => some rest

/-- A time of day, with or without seconds, and what follows it. -/
def time? (cs : List Char) : Option (List Char) := do
  let afterHour ← (field? 2 0 23 cs).bind (expect? ':')
  match ← field? 2 0 59 afterHour with
  | ':' :: more => seconds? more
  | rest => some rest

/-- Whether a run is an offset from universal time. -/
def isOffset (cs : List Char) : Bool :=
  cs.isEmpty || cs == ['Z'] || cs == ['z'] || match cs with
    | c :: rest =>
      (c == '+' || c == '-') &&
        (((field? 2 0 23 rest).bind (expect? ':')).bind (field? 2 0 59)) == some []
    | [] => false

/-- Whether a run is a date, a time of day, or both with or without an offset. -/
def isDateTime (cs : List Char) : Bool :=
  match date? cs with
  | some [] => true
  | some (c :: rest) => (c == 'T' || c == 't' || c == ' ') && ((time? rest).any isOffset)
  | none => time? cs == some []

/-- Characters of runs. -/
def isRunChar (c : Char) : Bool :=
  c.isAlphanum || c == '_' || c == '+' || c == '-' || c == '.' || c == ':'

/-- The value that a run spells. An integer must fit 128 bits. -/
def scalar? (run : List Char) : Option Value :=
  if run = "true".toList then some (.boolean true)
  else if run = "false".toList then some (.boolean false)
  else match integer? run with
    | some i => if -Nat.pow 2 127 ≤ i ∧ i < Nat.pow 2 128 then some (.integer i) else none
    | none =>
      if isFloat run then (if isInRange run then some .float else none)
      else if isDateTime run then some .dateTime
      else none

end FormEngine.Toml
