/-!
# TOML values

A TOML document is a table of tables, arrays and scalars. A table remembers how it came about,
because that decides what may still be added to it.
-/

namespace FormEngine.Toml

/-- How a table came about. -/
inductive Origin where
  /-- As the parent of a table with a header. -/
  | implied
  /-- By a dotted key. -/
  | dotted
  /-- By its own header. -/
  | header
  /-- In braces, complete. -/
  | inline
  deriving DecidableEq, Repr

/-- A TOML value. Only the kind of a float or a date matters. -/
inductive Value where
  | string (s : String)
  | integer (i : Int)
  | boolean (b : Bool)
  | float
  | dateTime
  | array (items : List Value)
  | table (origin : Origin) (entries : List (String × Value))
  /-- Tables with a doubled header, the last one first. -/
  | tables (items : List Value)
  deriving Inhabited, Repr

/-- The entry of a key. -/
def lookup? (entries : List (String × Value)) (key : String) : Option Value :=
  (entries.find? fun e => e.1 == key).map Prod.snd

/-- Sets the entry of a key, in place if it is there. -/
def setEntry : List (String × Value) → String → Value → List (String × Value)
  | [], key, v => [(key, v)]
  | (k, w) :: rest, key, v => if k = key then (k, v) :: rest else (k, w) :: setEntry rest key v

end FormEngine.Toml
