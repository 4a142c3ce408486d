import FormEngine.Proofs.Except
import FormEngine.Template

/-!
# What filling in gives

The tokens of a value are read in the order of its items and members, and from left to right in a
text. Where the mode is strict and one of them is missing, filling in fails with the first such
path. In all other cases every text becomes what it stands for, and the rest of the value stays
(`resolveValue_eq`).
-/

namespace FormEngine

/-- The path resolves to nothing, or to null. -/
def Scope.misses (s : Scope) (path : String) : Bool := (s.resolve? path).all Value.isNull

namespace Value

mutual

/-- The texts inside a value, in the order of items and members. Keys are none of them. -/
def texts : Value → List String
  | .string text => [text]
  | .array items => textsOfItems items
  | .object members => textsOfMembers members
  | _ => []

def textsOfItems : List Value → List String
  | [] => []
  | v :: rest => v.texts ++ textsOfItems rest

def textsOfMembers : List (String × Value) → List String
  | [] => []
  | (_, v) :: rest => v.texts ++ textsOfMembers rest

end

mutual

/-- The value with every text replaced. -/
def mapTexts (f : String → Value) : Value → Value
  | .string text => f text
  | .array items => .array (mapTextsOfItems f items)
  | .object members => .object (mapTextsOfMembers f members)
  | v => v

def mapTextsOfItems (f : String → Value) : List Value → List Value
  | [] => []
  | v :: rest => v.mapTexts f :: mapTextsOfItems f rest

def mapTextsOfMembers (f : String → Value) : List (String × Value) → List (String × Value)
  | [] => []
  | (k, v) :: rest => (k, v.mapTexts f) :: mapTextsOfMembers f rest

end

end Value

namespace Template

def Piece.path? : Piece → Option String
  | .char _ => none
  | .token _ path => some (String.ofList path)

/-- The paths of the tokens of a text, from left to right. -/
def paths (template : String) : List String := (pieces template.toList).filterMap Piece.path?

/-- The first missing path among the tokens of some texts. -/
def firstMissing? (s : Scope) (texts : List String) : Option String :=
  (texts.flatMap paths).find? s.misses

/-- A template with every token replaced. -/
def filled (s : Scope) (mode : TemplateMode) (template : String) : String :=
  String.ofList ((pieces template.toList).flatMap (fill s mode))

/-- What a text stands for: the value of its path if it is one token that is not missing, and
otherwise the text with its tokens replaced. -/
def standsFor (s : Scope) (mode : TemplateMode) (template : String) : Value :=
  ((soleToken? template).bind (present? s)).getD (.string (filled s mode template))

/-- A strict template fails when a path is missing. -/
def outcome {α : Type} (mode : TemplateMode) (missing : Option String) (a : α) :
    Except MissingPath α :=
  match mode, missing with
  | .strict, some path => .error ⟨path⟩
  | _, _ => .ok a

variable {s : Scope} {mode : TemplateMode}

/-! ## Outcomes -/

section Outcome

variable {α β γ : Type} {missing next : Option String} {a : α}

theorem outcome_eq_ok_iff {b : α} :
    outcome mode missing a = .ok b ↔ (mode = .strict → missing = none) ∧ a = b := by
  cases mode <;> cases missing <;> simp [outcome]

theorem outcome_eq_error_iff {e : MissingPath} :
    outcome mode missing a = .error e ↔ mode = .strict ∧ missing = some e.path := by
  cases e
  cases mode <;> cases missing <;> simp [outcome]

theorem map_outcome (f : α → β) :
    (outcome mode missing a).map f = outcome mode missing (f a) := by
  cases mode <;> cases missing <;> rfl

theorem outcome_bind_outcome (f : α → β → γ) {b : β} :
    (outcome mode missing a >>= fun x => outcome mode next b >>= fun y => pure (f x y)) =
      outcome mode (missing.or next) (f a b) := by
  cases mode <;> cases missing <;> cases next <;> rfl

end Outcome

/-! ## Texts -/

theorem isNone_present? (path : List Char) :
    (present? s path).isNone = s.misses (String.ofList path) := by
  unfold present? Scope.misses
  cases s.resolve? (String.ofList path) with
  | none => rfl
  | some v => cases h : v.isNull <;> simp [Option.filter, h]

theorem findSome?_missing? (ps : List Piece) :
    (ps.findSome? (missing? s)).map String.ofList = (ps.filterMap Piece.path?).find? s.misses := by
  induction ps with
  | nil => rfl
  | cons p rest ih =>
    cases p with
    | char c => exact ih
    | token text path =>
      have hp : missing? s (.token text path) =
          if s.misses (String.ofList path) then some path else none := by
        rw [missing?, isNone_present?]
      have hpath : (Piece.token text path :: rest).filterMap Piece.path? =
          String.ofList path :: rest.filterMap Piece.path? := rfl
      rw [List.findSome?_cons, hp, hpath, List.find?_cons]
      cases s.misses (String.ofList path) with
      | true => rfl
      | false => exact ih

theorem firstMissing?_append (texts more : List String) :
    firstMissing? s (texts ++ more) = (firstMissing? s texts).or (firstMissing? s more) := by
  rw [firstMissing?, List.flatMap_append, List.find?_append]
  rfl

theorem resolve_eq (template : String) :
    resolve s mode template =
      outcome mode (firstMissing? s [template]) (filled s mode template) := by
  have hmissing := findSome?_missing? (s := s) (pieces template.toList)
  have hfirst : firstMissing? s [template] =
      ((pieces template.toList).findSome? (missing? s)).map String.ofList := by
    rw [hmissing, firstMissing?, List.flatMap_singleton]
    rfl
  rw [hfirst]
  unfold resolve
  dsimp only
  generalize (pieces template.toList).findSome? (missing? s) = missing
  cases mode <;> cases missing <;> rfl

theorem paths_of_soleToken? {template : String} {path : List Char}
    (h : soleToken? template = some path) : paths template = [String.ofList path] := by
  unfold soleToken? at h
  split at h
  · rename_i hpieces
    cases h
    rw [paths, hpieces]
    rfl
  · cases h

theorem resolveText_eq (template : String) :
    resolveText s mode template =
      outcome mode (firstMissing? s [template]) (standsFor s mode template) := by
  unfold resolveText standsFor
  cases hsole : (soleToken? template).bind (present? s) with
  | none =>
    show (resolve s mode template).map Value.string = _
    rw [resolve_eq, map_outcome]
    rfl
  | some v =>
    obtain ⟨path, hpath, hv⟩ := Option.bind_eq_some_iff.1 hsole
    have hthere : s.misses (String.ofList path) = false := by rw [← isNone_present?, hv]; rfl
    have hnone : firstMissing? s [template] = none := by
      rw [firstMissing?, List.flatMap_singleton, paths_of_soleToken? hpath]
      simp [hthere]
    rw [hnone]
    cases mode <;> rfl

/-! ## Values -/

mutual

theorem resolveValue_eq : ∀ v : Value,
    resolveValue s mode v = outcome mode (firstMissing? s v.texts) (v.mapTexts (standsFor s mode))
  | .string template => resolveText_eq template
  | .array items => by
    rw [resolveValue, resolveItems_eq items, map_outcome]
    rfl
  | .object members => by
    rw [resolveValue, resolveMembers_eq members, map_outcome]
    rfl
  | .null | .bool _ | .number _ => by cases mode <;> rfl

theorem resolveItems_eq : ∀ items : List Value,
    resolveItems s mode items = outcome mode (firstMissing? s (Value.textsOfItems items))
      (Value.mapTextsOfItems (standsFor s mode) items)
  | [] => by cases mode <;> rfl
  | v :: rest => by
    rw [resolveItems, resolveValue_eq v, resolveItems_eq rest, outcome_bind_outcome,
      Value.textsOfItems, firstMissing?_append]
    rfl

theorem resolveMembers_eq : ∀ members : List (String × Value),
    resolveMembers s mode members = outcome mode (firstMissing? s (Value.textsOfMembers members))
      (Value.mapTextsOfMembers (standsFor s mode) members)
  | [] => by cases mode <;> rfl
  | (k, v) :: rest => by
    rw [resolveMembers, resolveValue_eq v, resolveMembers_eq rest,
      outcome_bind_outcome fun w ws => (k, w) :: ws, Value.textsOfMembers, firstMissing?_append]
    rfl

end

/-! ## Templates that leave gaps -/

theorem exists_resolve (h : mode ≠ .strict) (template : String) :
    ∃ text, resolve s mode template = .ok text :=
  ⟨_, (resolve_eq template).trans (outcome_eq_ok_iff.2 ⟨fun hs => absurd hs h, rfl⟩)⟩

theorem exists_resolveValue (h : mode ≠ .strict) (v : Value) :
    ∃ w, resolveValue s mode v = .ok w :=
  ⟨_, (resolveValue_eq v).trans (outcome_eq_ok_iff.2 ⟨fun hs => absurd hs h, rfl⟩)⟩

end Template

end FormEngine
