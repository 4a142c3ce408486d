import FormEngine.Expr.Scope
import FormEngine.Json.Text

/-!
# Templates

A text may hold tokens `${path}`, with blanks allowed around the path. A token is replaced by the
text of the value its path points to; a path that points to nothing, or to null, is missing, and
the mode says what becomes of its token. In a value every text is a template, and a text that is
one resolving token takes the value itself.
-/

namespace FormEngine

/-- What becomes of a token whose path is missing. -/
inductive TemplateMode where
  /-- The template fails. -/
  | strict
  /-- The token becomes empty. -/
  | relaxed
  /-- The token stays. -/
  | preserve
  deriving DecidableEq, Repr

/-- A template that does not resolve: its first missing path. -/
structure MissingPath where
  path : String
  deriving DecidableEq, Repr

def MissingPath.message (e : MissingPath) : String :=
  s!"template references missing value '{e.path}'"

namespace Template

/-- A template is a sequence of characters and tokens; a token keeps its own text. -/
inductive Piece where
  | char (c : Char)
  | token (text : List Char) (path : List Char)
  deriving DecidableEq, Repr

/-- Characters a path may hold. -/
def isPathChar (c : Char) : Bool := !Text.isBlank c && c != '\x7b' && c != '\x7d'

/-- The rest of a token after its opening mark: its text, its path, and what follows it. -/
def token? (cs : List Char) : Option (List Char × List Char × List Char) :=
  let blanks := cs.takeWhile Text.isBlank
  let body := cs.dropWhile Text.isBlank
  let path := body.takeWhile isPathChar
  let tail := body.dropWhile isPathChar
  let more := tail.takeWhile Text.isBlank
  match tail.dropWhile Text.isBlank with
  | [] => none
  | c :: rest =>
    if c = '\x7d' ∧ path ≠ [] then some (blanks ++ path ++ more ++ [c], path, rest) else none

theorem token?_length {cs text path rest : List Char} (h : token? cs = some (text, path, rest)) :
    rest.length < cs.length := by
  have drop : ∀ (p : Char → Bool) (l : List Char), (l.dropWhile p).length ≤ l.length :=
    fun p l => (List.dropWhile_sublist p).length_le
  have h1 := drop Text.isBlank cs
  have h2 := drop isPathChar (cs.dropWhile Text.isBlank)
  have h3 := drop Text.isBlank ((cs.dropWhile Text.isBlank).dropWhile isPathChar)
  simp only [token?] at h
  split at h
  · simp at h
  · rename_i c tail heq
    rw [heq, List.length_cons] at h3
    split at h
    · simp only [Option.some.injEq, Prod.mk.injEq] at h
      rw [← h.2.2]
      omega
    · simp at h

/-- The pieces of a text; a token is taken where it first begins. -/
def pieces (cs : List Char) : List Piece :=
  match cs with
  | [] => []
  | c :: rest =>
    if c = '$' then
      match rest with
      | [] => [.char c]
      | d :: more =>
        if d = '\x7b' then
          match _h : token? more with
          | some (text, path, tail) => .token (c :: d :: text) path :: pieces tail
          | none => .char c :: pieces (d :: more)
        else .char c :: pieces (d :: more)
    else .char c :: pieces rest
termination_by cs.length
decreasing_by
  · have := token?_length _h
    simp only [List.length_cons]
    omega
  · simp
  · simp
  · simp

/-- The value of a path, unless it is missing. -/
def present? (s : Scope) (path : List Char) : Option Value :=
  (s.resolve? (String.ofList path)).filter fun v => !v.isNull

/-- The text that replaces a piece. -/
def fill (s : Scope) (mode : TemplateMode) : Piece → List Char
  | .char c => [c]
  | .token text path =>
    match present? s path with
    | some v => v.display.toList
    | none => if mode = .preserve then text else []

/-- The missing path of a piece, if it has one. -/
def missing? (s : Scope) : Piece → Option (List Char)
  | .char _ => none
  | .token _ path => if (present? s path).isNone then some path else none

/-- Fills in a template. -/
def resolve (s : Scope) (mode : TemplateMode) (template : String) : Except MissingPath String :=
  let parts := pieces template.toList
  match mode, parts.findSome? (missing? s) with
  | .strict, some path => .error ⟨String.ofList path⟩
  | _, _ => .ok (String.ofList (parts.flatMap (fill s mode)))

/-- The path of a text that is one token and nothing else. -/
def soleToken? (template : String) : Option (List Char) :=
  match pieces template.toList with
  | [.token _ path] => some path
  | _ => none

/-- Fills in a text that may stand for a value. -/
def resolveText (s : Scope) (mode : TemplateMode) (template : String) : Except MissingPath Value :=
  match (soleToken? template).bind (present? s) with
  | some v => .ok v
  | none => (resolve s mode template).map .string

mutual

/-- Fills in every text inside a value; keys stay as they are. -/
def resolveValue (s : Scope) (mode : TemplateMode) : Value → Except MissingPath Value
  | .string template => resolveText s mode template
  | .array items => (resolveItems s mode items).map .array
  | .object members => (resolveMembers s mode members).map .object
  | v => .ok v

def resolveItems (s : Scope) (mode : TemplateMode) :
    List Value → Except MissingPath (List Value)
  | [] => .ok []
  | v :: rest => do
    let w ← resolveValue s mode v
    let ws ← resolveItems s mode rest
    return w :: ws

def resolveMembers (s : Scope) (mode : TemplateMode) :
    List (String × Value) → Except MissingPath (List (String × Value))
  | [] => .ok []
  | (k, v) :: rest => do
    let w ← resolveValue s mode v
    let ws ← resolveMembers s mode rest
    return (k, w) :: ws

end

/-- Fills in a value with every missing token empty. -/
def relaxed (s : Scope) (v : Value) : Value :=
  match resolveValue s .relaxed v with
  | .ok w => w
  | .error _ => v

end Template

end FormEngine
