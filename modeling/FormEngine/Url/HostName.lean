import FormEngine.Unicode.Composition
import FormEngine.Unicode.Direction
import FormEngine.Unicode.Joining
import FormEngine.Unicode.Property.Identifiers
import FormEngine.Url.HostCharacter
import FormEngine.Url.Punycode

/-!
# Names of hosts

A name consists of labels between dots. Characters are mapped and composed first, labels in ASCII
spelling are decoded, and then every label has to hold characters that fit together: no leading
mark, joiners only where letters join, and one direction of writing a label.
-/

namespace FormEngine.Url

open Unicode

/-! ## Joiners -/

/-- Whether letters around a place join, looking through transparent characters. `before` is given
from the place outwards. -/
def joins (before after : List Char) : Bool :=
  let next (cs : List Char) := (cs.dropWhile Joining.transparent.contains).head?
  ((next before).any fun c => Joining.both.contains c || Joining.next.contains c) &&
    (next after).any fun c => Joining.both.contains c || Joining.previous.contains c

/-- Whether invisible joiners stand where they may: after a virama, or, if they separate, between
letters that would join. -/
def joinersFit (before : List Char) : List Char → Bool
  | [] => true
  | c :: rest =>
    (!joinControls.contains c || before.head?.any (fun d => Composition.classOf d == 9) ||
      (c.toNat == 0x200C && joins before rest)) && joinersFit (c :: before) rest

/-! ## Direction -/

def isRightToLeft (c : Char) : Bool :=
  Direction.rightToLeft.contains c || Direction.arabicNumber.contains c

/-- Characters that stand in a label of either direction. -/
def isDirectionless (c : Char) : Bool :=
  Direction.europeanNumber.contains c || Direction.neutral.contains c ||
    Direction.nonspacing.contains c

def isLeftToRight (c : Char) : Bool := !isRightToLeft c && !isDirectionless c

/-- The last character of a label before its marks. -/
def lastBase? (label : List Char) : Option Char :=
  (label.reverse.dropWhile Direction.nonspacing.contains).head?

/-- Whether a label has one direction, given by its first character, and ends in it. -/
def hasOneDirection (label : List Char) : Bool :=
  let european := Direction.europeanNumber.contains
  match label with
  | [] => true
  | c :: _ =>
    if Direction.rightToLeft.contains c then
      label.all (fun d => isRightToLeft d || isDirectionless d) &&
        (lastBase? label).any (fun d => isRightToLeft d || european d) &&
        !(label.any european && label.any Direction.arabicNumber.contains)
    else
      isLeftToRight c && label.all (fun d => isLeftToRight d || isDirectionless d) &&
        (lastBase? label).any fun d => isLeftToRight d || european d

/-! ## Labels -/

/-- The longest spelling that is decoded. -/
def spellingLimit : Nat := 2000

/-- The longest label that has a spelling. -/
def labelLimit : Nat := 1000

/-- The label of a spelling. It has to be the label that its own characters stand for. -/
def ofSpelling? (spelling : List Char) : Option (List Char) :=
  if spelling.getLast? = some '-' ∨ spellingLimit < spelling.length then none
  else
    (Punycode.decode? spelling).filter fun label =>
      label.all isStable && Composition.compose label == label && !label.contains '.'

/-- The label that a mapped label stands for. -/
def decodeLabel? (label : List Char) : Option (List Char) :=
  match label with
  | 'x' :: 'n' :: '-' :: '-' :: spelling => if spelling.isEmpty then none else ofSpelling? spelling
  | _ => some label

/-- Whether the characters of a label fit together. -/
def isLabel (label : List Char) : Bool :=
  !label.any isForbidden && !label.head?.any isMark && joinersFit [] label &&
    (label.all (·.toNat < 128) || label.length ≤ labelLimit)

/-- The labels of a name. -/
def labels? (name : List Char) : Option (List (List Char)) := do
  let mapped ← name.mapM mapped?
  let labels ← (Text.parts '.' (Composition.compose mapped.flatten)).mapM decodeLabel?
  let directed := !labels.any (·.any isRightToLeft) || labels.all hasOneDirection
  if labels.all isLabel && directed then return labels else none

end FormEngine.Url
