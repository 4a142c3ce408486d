import FormEngine.Text.Blank
import FormEngine.Text.Digits

/-!
# Paths

A path such as `a.b[0].c` or `a["x.y"]` is a list of segments. Names are separated by points;
brackets hold an index, a quoted name or a bare one. Empty names between points are skipped, blank
ends of the path and of a bracket are ignored, and a bracket left open ends with the path.
-/

namespace FormEngine

/-- One step of a path. -/
inductive Segment where
  | key (name : String)
  | index (n : Nat)
  deriving DecidableEq, Repr

/-- The name of a segment that has one. -/
def Segment.name? : Segment → Option String
  | .key name => some name
  | .index _ => none

namespace Path

/-- A name between points; `run` holds its characters in reverse. -/
def name (run : List Char) : List Segment :=
  if run.isEmpty then [] else [.key (String.ofList run.reverse)]

/-- The text between a pair of the given quotes, if both are there. -/
def unquote? (quote : Char) : List Char → Option (List Char)
  | [] => none
  | c :: rest =>
    if c = quote ∧ rest.getLast? = some quote then some rest.dropLast else none

/-- The contents of a bracket: a quoted name, an index, or a bare name unless empty. -/
def bracket (inner : List Char) : List Segment :=
  match (unquote? '"' inner).or (unquote? '\'' inner) with
  | some key => [.key (String.ofList key)]
  | none =>
    match Text.unsigned? inner with
    | some n => [.index n]
    | none => if inner.isEmpty then [] else [.key (String.ofList inner)]

/-- Segments of a text; `inside` says whether a bracket is open, and `run` holds the characters of
the name or bracket so far, in reverse. -/
def scan (inside : Bool) (run : List Char) : List Char → List Segment
  | [] => if inside then bracket (Text.trim run.reverse) else name run
  | c :: rest =>
    if inside then
      if c = ']' then bracket (Text.trim run.reverse) ++ scan false [] rest
      else scan true (c :: run) rest
    else if c = '.' then name run ++ scan false [] rest
    else if c = '[' then name run ++ scan true [] rest
    else scan false (c :: run) rest

/-- The segments of a path. -/
def parse (path : String) : List Segment := scan false [] (Text.trim path.toList)

/-- The first segment, if it is a name: usually the field a variable points into. -/
def rootKey? (path : String) : Option String :=
  match parse path with
  | .key name :: _ => some name
  | _ => none

/-- The last name of the path; indexes after it are skipped. -/
def lastKey? (path : String) : Option String := (parse path).reverse.findSome? Segment.name?

end Path

end FormEngine
