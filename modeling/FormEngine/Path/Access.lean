import FormEngine.Path.Segment
import FormEngine.Json.Value

/-!
# Reading and writing at a path

`get?` follows a path through a document. A name that spells an index also selects from an array,
and an index also selects the member of that name. `set` makes room for what it writes: whatever
stands in the way of a name becomes an object, whatever stands in the way of an index an array,
filled up with nulls.
-/

namespace FormEngine.Path

/-- What a segment selects in a value. -/
def step (v : Value) (s : Segment) : Option Value :=
  match s, v with
  | .key name, .object members => Dict.get? members name
  | .key name, .array items => (Text.unsigned? name.toList).bind (items[·]?)
  | .index n, .array items => items[n]?
  | .index n, .object members => Dict.get? members (toString n)
  | _, _ => none

/-- What a list of segments selects in a document. -/
def follow (v : Value) : List Segment → Option Value
  | [] => some v
  | s :: rest => (step v s).bind (follow · rest)

/-- What a path selects in a document. -/
def get? (v : Value) (path : String) : Option Value := follow v (parse path)

/-- What a path selects in a dictionary; the empty path selects nothing. -/
def lookup (d : Dict Value) (path : String) : Option Value :=
  match parse path with
  | [] => none
  | .key name :: rest => (d.get? name).bind (follow · rest)
  | .index n :: rest => (d.get? (toString n)).bind (follow · rest)

/-- The items with one of them replaced, after filling up with nulls. -/
def setItem (items : List Value) (n : Nat) (v : Value) : List Value :=
  (items ++ List.replicate (n + 1 - items.length) Value.null).set n v

/-- The document with `value` where the segments point. -/
def write (value : Value) : List Segment → Value → Value
  | [], _ => value
  | .key name :: rest, doc =>
    let child := (doc.members.get? name).getD .null
    .object (doc.members.insert name (write value rest child))
  | .index n :: rest, doc =>
    let child := doc.items[n]?.getD .null
    .array (setItem doc.items n (write value rest child))

/-- The document with `value` at a path. -/
def set (doc : Value) (path : String) (value : Value) : Value := write value (parse path) doc

end FormEngine.Path
