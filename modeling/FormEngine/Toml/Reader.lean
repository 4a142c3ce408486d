import FormEngine.Toml.Scalar

/-!
# Reading TOML

A document is a list of lines: entries, headers of tables, and headers of arrays of tables. `read?`
gives the entries of the top table, and nothing if the text is no TOML document, which it is not
either when a key is given twice or a finished table is extended.
-/

namespace FormEngine.Toml

/-! ## Texts -/

def isSpace (c : Char) : Bool := c == ' ' || c == '\t'

def skipSpace (cs : List Char) : List Char := cs.dropWhile isSpace

/-- A character that texts and comments may not hold. -/
def isControl (c : Char) : Bool := (c.toNat < 32 && c != '\t') || c.toNat == 127

/-- What a line ends with: the rest of the text after a line feed, with or without a carriage
return before it. -/
def newline? : List Char → Option (List Char)
  | '\n' :: rest => some rest
  | '\r' :: '\n' :: rest => some rest
  | _ => none

/-- Skips a comment, if one begins here. -/
def skipComment (cs : List Char) : Option (List Char) :=
  match cs with
  | '#' :: rest =>
    let body := rest.takeWhile fun c => c != '\n' && c != '\r'
    if body.any isControl then none else some (rest.dropWhile fun c => c != '\n' && c != '\r')
  | _ => some cs

/-- The character of a number of hexadecimal digits, and what follows. -/
def codePoint? (width : Nat) (cs : List Char) : Option (Char × List Char) := do
  let n ← Text.inBase? 16 (cs.take width)
  if (cs.take width).length = width ∧ n.isValidChar then some (Char.ofNat n, cs.drop width)
  else none

/-- The character of an escape after its backslash, and what follows. -/
def escape? (cs : List Char) : Option (Char × List Char) :=
  match cs with
  | 'b' :: rest => some (Char.ofNat 8, rest)
  | 't' :: rest => some ('\t', rest)
  | 'n' :: rest => some ('\n', rest)
  | 'f' :: rest => some (Char.ofNat 12, rest)
  | 'r' :: rest => some ('\r', rest)
  | 'e' :: rest => some (Char.ofNat 27, rest)
  | '"' :: rest => some ('"', rest)
  | '\\' :: rest => some ('\\', rest)
  | 'x' :: rest => codePoint? 2 rest
  | 'u' :: rest => codePoint? 4 rest
  | 'U' :: rest => codePoint? 8 rest
  | _ => none

/-- A text on one line up to its closing quote; `fuel` bounds its length. -/
def line? (quote : Char) : Nat → List Char → List Char → Option (String × List Char)
  | 0, _, _ => none
  | _ + 1, _, [] => none
  | fuel + 1, run, c :: rest =>
    if c = quote then some (String.ofList run.reverse, rest)
    else if isControl c then none
    else if c = '\\' ∧ quote = '"' then
      (escape? rest).bind fun (d, more) => line? quote fuel (d :: run) more
    else line? quote fuel (c :: run) rest

/-- After a backslash at the end of a line: the text from the next visible character on. -/
def foldedLine? (cs : List Char) : Option (List Char) :=
  (newline? (skipSpace cs)).map fun rest =>
    rest.dropWhile fun c => isSpace c || c == '\n' || c == '\r'

/-- A text over several lines up to its three closing quotes, before which two more may stand. -/
def block? (quote : Char) : Nat → List Char → List Char → Option (String × List Char)
  | 0, _, _ => none
  | _ + 1, _, [] => none
  | fuel + 1, run, c :: rest =>
    if c = quote then
      let quotes := (c :: rest).takeWhile (· == quote)
      let after := (c :: rest).dropWhile (· == quote)
      if quotes.length < 3 then block? quote fuel (c :: run) rest
      else if quotes.length ≤ 5 then
        some (String.ofList ((quotes.drop 3) ++ run).reverse, after)
      else none
    else if c = '\\' ∧ quote = '"' then
      match foldedLine? rest with
      | some more => block? quote fuel run more
      | none => (escape? rest).bind fun (d, more) => block? quote fuel (d :: run) more
    else match newline? (c :: rest) with
      | some more => block? quote fuel ('\n' :: run) more
      | none => if isControl c then none else block? quote fuel (c :: run) rest

/-- A quoted text, over several lines if `blocks` allows it. -/
def text? (blocks : Bool) (cs : List Char) : Option (String × List Char) :=
  match cs with
  | q :: rest =>
    if q = '"' ∨ q = '\'' then
      match blocks, rest with
      | true, a :: b :: more =>
        if a = q ∧ b = q then block? q (more.length + 1) [] ((newline? more).getD more)
        else line? q (rest.length + 1) [] rest
      | _, _ => line? q (rest.length + 1) [] rest
    else none
  | [] => none

/-! ## Keys and values -/

def isBareKeyChar (c : Char) : Bool := c.isAlphanum || c == '_' || c == '-'

/-- One name of a key. -/
def name? (cs : List Char) : Option (String × List Char) :=
  match cs.takeWhile isBareKeyChar with
  | [] => text? false cs
  | bare => some (String.ofList bare, cs.dropWhile isBareKeyChar)

/-- How many names a key may have, and how many brackets and braces may be open. -/
def depthLimit : Nat := 80

/-- The names of a key, with points between them; `fuel` bounds their number. -/
def key? : Nat → List Char → Option (List String × List Char)
  | 0, _ => none
  | fuel + 1, cs => do
    let (name, rest) ← name? (skipSpace cs)
    match skipSpace rest with
    | '.' :: more => do
      let (names, tail) ← key? fuel more
      return (name :: names, tail)
    | tail => return ([name], tail)

/-- Skips blanks, line ends and comments inside an array or a table in braces. -/
def skipLines : Nat → List Char → Option (List Char)
  | 0, cs => some cs
  | fuel + 1, cs =>
    (skipComment (skipSpace cs)).bind fun rest =>
      match newline? rest with
      | some more => skipLines fuel more
      | none => some rest

/-- Adds an entry under a dotted key. Tables on the way must be open to dotted keys; a table that no
dotted key has made takes no entry itself, but tables that one makes. -/
def addDotted (v : Value) : List String → Bool → List (String × Value) →
    Option (List (String × Value))
  | [], _, _ => none
  | [key], isOpen, entries =>
    if !isOpen || (lookup? entries key).isSome then none else some (entries ++ [(key, v)])
  | key :: rest, _, entries =>
    match lookup? entries key with
    | none => (addDotted v rest true []).map fun inner => entries ++ [(key, .table .dotted inner)]
    | some (.table .dotted inner) =>
      (addDotted v rest true inner).map fun inner => setEntry entries key (.table .dotted inner)
    | some (.table .implied inner) =>
      (addDotted v rest false inner).map fun inner => setEntry entries key (.table .implied inner)
    | some (.tables (.table origin inner :: others)) =>
      (addDotted v rest false inner).map fun inner =>
        setEntry entries key (.tables (.table origin inner :: others))
    | some _ => none

mutual

/-- A value, and what follows it; `room` bounds how many brackets may still be opened. -/
def value? : Nat → Nat → List Char → Option (Value × List Char)
  | 0, _, _ => none
  | fuel + 1, room, cs =>
    match cs with
    | '[' :: rest =>
      if room = 0 then none
      else (items? fuel (room - 1) [] rest).map fun (items, tail) => (.array items, tail)
    | c :: rest =>
      if c = '\x7b' then
        if room = 0 then none
        else
          (members? fuel (room - 1) [] rest).map fun (entries, tail) =>
            (.table .inline entries, tail)
      else if c = '"' ∨ c = '\'' then
        (text? true cs).map fun (s, tail) => (.string s, tail)
      else
        let run := cs.takeWhile isRunChar
        let tail := cs.dropWhile isRunChar
        match tail with
        | ' ' :: d :: more =>
          if (date? run) == some [] && d.isDigit then
            let time := (d :: more).takeWhile isRunChar
            (scalar? (run ++ ' ' :: time)).map fun v => (v, (d :: more).dropWhile isRunChar)
          else (scalar? run).map fun v => (v, tail)
        | _ => (scalar? run).map fun v => (v, tail)
    | [] => none

/-- The items of an array up to its closing bracket. -/
def items? : Nat → Nat → List Value → List Char → Option (List Value × List Char)
  | 0, _, _, _ => none
  | fuel + 1, room, done, cs => do
    let start ← skipLines cs.length cs
    match start with
    | ']' :: rest => return (done.reverse, rest)
    | _ =>
      let (v, rest) ← value? fuel room start
      let next ← skipLines rest.length rest
      match next with
      | ',' :: more => items? fuel room (v :: done) more
      | ']' :: more => return ((v :: done).reverse, more)
      | _ => none

/-- The entries of a table in braces up to the closing one. -/
def members? : Nat → Nat → List (String × Value) → List Char →
    Option (List (String × Value) × List Char)
  | 0, _, _, _ => none
  | fuel + 1, room, done, cs => do
    match ← skipLines cs.length cs with
    | c :: rest =>
      if c = '\x7d' then return (done, rest)
      let (path, afterKey) ← key? depthLimit (c :: rest)
      match ← skipLines afterKey.length afterKey with
      | '=' :: body =>
        let (v, tail) ← value? fuel room (← skipLines body.length body)
        let entries ← addDotted v path true done
        match ← skipLines tail.length tail with
        | d :: more =>
          if d = '\x7d' then return (entries, more)
          else if d = ',' then members? fuel room entries more
          else none
        | [] => none
      | _ => none
    | [] => none

end

/-! ## Lines -/

/-- Applies a change to the table that a header names, creating implied tables on the way. A name
of an array of tables stands for its last table. -/
def descend (change : Origin → List (String × Value) → Option (List (String × Value))) :
    List String → Origin → List (String × Value) → Option (List (String × Value))
  | [], origin, entries => change origin entries
  | key :: rest, _, entries =>
    match lookup? entries key with
    | none =>
      (descend change rest .implied []).map fun inner =>
        setEntry entries key (.table .implied inner)
    | some (.table .inline _) => none
    | some (.table origin inner) =>
      (descend change rest origin inner).map fun inner =>
        setEntry entries key (.table origin inner)
    | some (.tables (.table origin inner :: others)) =>
      (descend change rest origin inner).map fun inner =>
        setEntry entries key (.tables (.table origin inner :: others))
    | some _ => none

/-- Opens the table of a header in its parent. -/
def openTable (key : String) (entries : List (String × Value)) : Option (List (String × Value)) :=
  match lookup? entries key with
  | none => some (setEntry entries key (.table .header []))
  | some (.table .implied inner) => some (setEntry entries key (.table .header inner))
  | some _ => none

/-- Opens one more table of an array of tables in its parent. -/
def openTables (key : String) (entries : List (String × Value)) : Option (List (String × Value)) :=
  match lookup? entries key with
  | none => some (setEntry entries key (.tables [.table .header []]))
  | some (.tables items) => some (setEntry entries key (.tables (.table .header [] :: items)))
  | some _ => none

/-- The document between two lines: the entries of the top table and the path of the open one. -/
structure Document where
  entries : List (String × Value)
  current : List String

/-- The rest after the end of a line, behind blanks and a comment. -/
def lineEnd? (cs : List Char) : Option (List Char) :=
  (skipComment (skipSpace cs)).bind fun rest =>
    match rest with
    | [] => some []
    | _ => newline? rest

/-- One line: nothing, a header or an entry; and the rest of the text. -/
def step? (d : Document) (cs : List Char) : Option (Document × List Char) :=
  match skipSpace cs with
  | [] => some (d, [])
  | '[' :: '[' :: rest => do
    let (path, tail) ← key? depthLimit rest
    match tail with
    | ']' :: ']' :: more =>
      let entries ← descend (fun _ e => openTables (path.getLast?.getD "") e) path.dropLast .header
        d.entries
      let next ← lineEnd? more
      return (⟨entries, path⟩, next)
    | _ => none
  | '[' :: rest => do
    let (path, tail) ← key? depthLimit rest
    match tail with
    | ']' :: more =>
      let entries ← descend (fun _ e => openTable (path.getLast?.getD "") e) path.dropLast .header
        d.entries
      let next ← lineEnd? more
      return (⟨entries, path⟩, next)
    | _ => none
  | c :: rest =>
    if c = '#' ∨ c = '\n' ∨ c = '\r' then (lineEnd? (c :: rest)).map fun next => (d, next)
    else do
      let (path, tail) ← key? depthLimit (c :: rest)
      match tail with
      | '=' :: body =>
        let (v, more) ← value? (cs.length + 1) depthLimit (skipSpace body)
        let entries ← descend (fun _ e => addDotted v path true e) d.current .header d.entries
        let next ← lineEnd? more
        return (⟨entries, d.current⟩, next)
      | _ => none

/-- The lines of a document; `fuel` bounds their number. -/
def lines? : Nat → Document → List Char → Option Document
  | _, d, [] => some d
  | 0, _, _ => none
  | fuel + 1, d, cs => (step? d cs).bind fun (next, rest) => lines? fuel next rest

/-- The text without the mark of byte order that may open it. -/
def withoutMark : List Char → List Char
  | c :: rest => if c.toNat = 0xFEFF then rest else c :: rest
  | [] => []

/-- The entries of the top table of a document. -/
def read? (text : String) : Option (List (String × Value)) :=
  (lines? (text.length + 1) ⟨[], []⟩ (withoutMark text.toList)).map (·.entries)

end FormEngine.Toml
