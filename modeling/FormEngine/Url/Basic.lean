import FormEngine.Url.Address
import FormEngine.Url.HostName

/-!
# Absolute addresses of the web

`Url.hasHost` decides whether a text is an absolute address with a host that is not empty. The
well-known schemes forgive missing and reversed slashes and want a host; every other scheme names a
host only after two slashes.
-/

namespace FormEngine.Url

/-- The text without controls and blanks at its ends, and without tabs and line ends. -/
def clean (cs : List Char) : List Char :=
  let isLow (c : Char) : Bool := c.toNat ≤ 0x20
  (((cs.dropWhile isLow).reverse.dropWhile isLow).reverse).filter fun c =>
    c != '\t' && c != '\n' && c != '\r'

/-- The scheme, in lower case, and what follows its colon. -/
def scheme? (cs : List Char) : Option (String × List Char) :=
  let isSchemeChar (c : Char) : Bool := c.isAlphanum || c == '+' || c == '-' || c == '.'
  if cs.head?.any Char.isAlpha then
    match cs.dropWhile isSchemeChar with
    | ':' :: rest => some (String.ofList ((cs.takeWhile isSchemeChar).map Char.toLower), rest)
    | _ => none
  else none

/-- Schemes of addresses in a hierarchy, which need a host. -/
def isWellKnown (scheme : String) : Bool :=
  scheme == "http" || scheme == "https" || scheme == "ftp" || scheme == "ws" || scheme == "wss"

/-- Characters that end the host part. -/
def endsAuthority (wellKnown : Bool) (c : Char) : Bool :=
  c == '/' || c == '?' || c == '#' || (wellKnown && c == '\\')

/-! ## Hosts -/

/-- The bytes of a text with `%` and two hexadecimal digits decoded. -/
def percentDecode : List Char → List UInt8
  | '%' :: a :: b :: rest =>
    match Text.hexDigit? a, Text.hexDigit? b with
    | some high, some low => (16 * high + low).toUInt8 :: percentDecode rest
    | _, _ => '%'.toNat.toUInt8 :: percentDecode (a :: b :: rest)
  | [] => []
  | c :: rest => (String.singleton c).toUTF8.toList ++ percentDecode rest

/-- The text of a host part with its escapes decoded. -/
def decoded? (cs : List Char) : Option (List Char) :=
  (String.fromUTF8? (percentDecode cs).toByteArray).map String.toList

/-- What stands between the brackets of a text that begins with one. -/
def bracketed? : List Char → Option (List Char)
  | '[' :: rest => if rest.getLast? = some ']' then some rest.dropLast else some []
  | _ => none

/-- The labels of a host that is a name or an address of four bytes. -/
def hostLabels? (cs : List Char) : Option (List (List Char)) := do
  let labels ← labels? (← decoded? cs)
  let name := List.intercalate ['.'] labels
  if name.isEmpty ∨ (endsInNumber name ∧ !isFourByteAddress name) then none else return labels

/-- Whether a text is a host of a well-known scheme. -/
def isHost (cs : List Char) : Bool :=
  match bracketed? cs with
  | some inner => isEightGroupAddress inner
  | none => (hostLabels? cs).isSome

/-- Whether a text is a host of any other scheme. -/
def isPlainHost (cs : List Char) : Bool :=
  match bracketed? cs with
  | some inner => isEightGroupAddress inner
  | none =>
    !cs.isEmpty && !cs.any fun c =>
      c.toNat == 0 || "\t\n\r #/:<>?@[\\]^|".toList.contains c

/-! ## Authorities -/

/-- What follows the last `@`, or everything. -/
def afterCredentials (authority : List Char) : List Char :=
  (authority.reverse.takeWhile (· != '@')).reverse

/-- The host part and what follows it; a colon inside brackets does not end it. -/
def splitHost (inside : Bool) : List Char → List Char × List Char
  | [] => ([], [])
  | c :: rest =>
    if c = ':' ∧ !inside then ([], c :: rest)
    else
      let (host, suffix) := splitHost (c == '[' || (inside && c != ']')) rest
      (c :: host, suffix)

/-- Whether what follows a host is nothing or a colon and a number of 16 bits, which may be
missing. -/
def isSuffix : List Char → Bool
  | [] => true
  | _ :: digits => digits.isEmpty || (Text.natural? digits).any (· < Nat.pow 2 16)

/-- The part of a text that names the host. -/
def authority (wellKnown : Bool) (cs : List Char) : List Char :=
  cs.takeWhile fun c => !endsAuthority wellKnown c

/-- Whether an authority has a host. A backslash always ends the number behind the host. -/
def authorityHasHost (wellKnown : Bool) (cs : List Char) : Bool :=
  let (host, suffix) := splitHost false (afterCredentials (authority wellKnown cs))
  isSuffix (suffix.takeWhile (· != '\\')) && if wellKnown then isHost host else isPlainHost host

/-! ## Files -/

def isSlash (c : Char) : Bool := c == '/' || c == '\\'

/-- A letter and a colon or bar. -/
def isDrive : List Char → Bool
  | [letter, mark] => letter.isAlpha && (mark == ':' || mark == '|')
  | _ => false

/-- Whether the first segment of a path that stays is a drive. -/
def startsAtDrive (depth : Nat) : List (List Char) → Bool
  | [] => false
  | segment :: rest =>
    let name := (String.ofList (segment.map Char.toLower)).replace "%2e" "."
    if name == "." then startsAtDrive depth rest
    else if name == ".." then startsAtDrive (depth - 1) rest
    else (depth == 0 && isDrive segment) || startsAtDrive (depth + 1) rest

/-- The segments of a path; the text begins with a slash, if there is a path. -/
def pathSegments (cs : List Char) : List (List Char) :=
  let path := cs.takeWhile fun c => c != '?' && c != '#'
  Text.parts '/' ((path.drop 1).map fun c => if c = '\\' then '/' else c)

/-- Whether the address of a file names a host: not this one, and not in front of a drive. -/
def fileHasHost : List Char → Bool
  | a :: b :: rest =>
    let host := rest.takeWhile fun c => !endsAuthority true c
    isSlash a && isSlash b && !host.isEmpty && !isDrive host && isHost host &&
      hostLabels? host != some ["localhost".toList] &&
      !startsAtDrive 0 (pathSegments (rest.drop host.length))
  | _ => false

/-! ## Addresses -/

/-- What follows two slashes. -/
def afterSlashes? : List Char → Option (List Char)
  | '/' :: '/' :: rest => some rest
  | _ => none

/-- Whether a text is an absolute address with a host. -/
def hasHost (text : String) : Bool :=
  match scheme? (clean text.toList) with
  | none => false
  | some (scheme, rest) =>
    if scheme == "file" then fileHasHost rest
    else if isWellKnown scheme then authorityHasHost true (rest.dropWhile isSlash)
    else (afterSlashes? rest).any (authorityHasHost false)

end FormEngine.Url
