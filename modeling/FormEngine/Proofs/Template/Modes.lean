import FormEngine.Proofs.Template
import FormEngine.Proofs.Template.Tokens
import Mathlib.Data.List.Forall2

/-!
# The modes of a template

The modes differ in what becomes of missing paths, and in nothing else. A strict template fails with
the first path that is missing, and if none is, all modes give the same (`modes_agree`). What they
give has the shape of the template: a text gives way to a value only where it is one token
(`FilledIn`).
-/

namespace FormEngine

/-! ## Without missing paths -/

namespace Value

variable {f g : String → Value}

mutual

theorem mapTexts_congr : ∀ {v : Value}, (∀ t ∈ v.texts, f t = g t) → v.mapTexts f = v.mapTexts g
  | .string _, h => h _ (List.mem_singleton_self _)
  | .array _, h => congrArg array (mapTextsOfItems_congr h)
  | .object _, h => congrArg object (mapTextsOfMembers_congr h)
  | .null, _ | .bool _, _ | .number _, _ => rfl

theorem mapTextsOfItems_congr : ∀ {items : List Value}, (∀ t ∈ textsOfItems items, f t = g t) →
    mapTextsOfItems f items = mapTextsOfItems g items
  | [], _ => rfl
  | v :: rest, h => by
    obtain ⟨hv, hrest⟩ := List.forall_mem_append.1 h
    rw [mapTextsOfItems, mapTexts_congr hv, mapTextsOfItems_congr hrest, mapTextsOfItems]

theorem mapTextsOfMembers_congr : ∀ {members : List (String × Value)},
    (∀ t ∈ textsOfMembers members, f t = g t) →
      mapTextsOfMembers f members = mapTextsOfMembers g members
  | [], _ => rfl
  | (k, v) :: rest, h => by
    obtain ⟨hv, hrest⟩ := List.forall_mem_append.1 h
    rw [mapTextsOfMembers, mapTexts_congr hv, mapTextsOfMembers_congr hrest, mapTextsOfMembers]

end

theorem keys_mapTextsOfMembers (f : String → Value) (members : List (String × Value)) :
    Dict.keys (mapTextsOfMembers f members) = Dict.keys members := by
  induction members with
  | nil => rfl
  | cons m rest ih => exact congrArg (m.1 :: ·) ih

end Value

namespace Template

variable {s : Scope} {mode : TemplateMode}

theorem fill_of_not_misses {p : Piece} (h : ∀ path ∈ p.path?, s.misses path = false)
    (mode other : TemplateMode) : fill s mode p = fill s other p := by
  cases p with
  | char c => rfl
  | token text path =>
    have hthere := h (String.ofList path) rfl
    rw [← isNone_present?] at hthere
    cases hv : present? s path with
    | none =>
      rw [hv] at hthere
      cases hthere
    | some v => simp only [fill, hv]

theorem standsFor_of_not_misses {template : String}
    (h : ∀ path ∈ paths template, s.misses path = false) (mode other : TemplateMode) :
    standsFor s mode template = standsFor s other template := by
  have hfill : (pieces template.toList).flatMap (fill s mode) =
      (pieces template.toList).flatMap (fill s other) :=
    List.flatMap_congr fun p hp => fill_of_not_misses
      (fun path hpath => h path (List.mem_filterMap.2 ⟨p, hp, hpath⟩)) mode other
  rw [standsFor, filled, hfill, ← filled, ← standsFor]

theorem not_misses_of_firstMissing? {texts : List String} (h : firstMissing? s texts = none) :
    ∀ t ∈ texts, ∀ path ∈ paths t, s.misses path = false := by
  intro t ht path hpath
  simpa using List.find?_eq_none.1 h path (List.mem_flatMap.2 ⟨t, ht, hpath⟩)

/-! ## Shape -/

/-- A value with its texts filled in: a text that is one token becomes the value of its path, if it
has one, and any other text becomes a text. Arrays keep their length, objects keep their keys, and
all else stays. -/
inductive FilledIn (s : Scope) : Value → Value → Prop where
  | whole {template : String} {path : List Char} {v : Value} (h : IsToken template.toList path)
      (hv : s.resolve? (String.ofList path) = some v) (hnull : v.isNull = false) :
      FilledIn s (.string template) v
  | text {template : String}
      (h : ∀ path, IsToken template.toList path → s.misses (String.ofList path) = true)
      (text : String) : FilledIn s (.string template) (.string text)
  | array {items filled : List Value} (h : List.Forall₂ (FilledIn s) items filled) :
      FilledIn s (.array items) (.array filled)
  | object {members filled : List (String × Value)} (hkeys : Dict.keys filled = Dict.keys members)
      (h : List.Forall₂ (FilledIn s) (members.map Prod.snd) (filled.map Prod.snd)) :
      FilledIn s (.object members) (.object filled)
  | null : FilledIn s .null .null
  | bool (b : Bool) : FilledIn s (.bool b) (.bool b)
  | number (n : Number) : FilledIn s (.number n) (.number n)

theorem filledIn_standsFor (s : Scope) (mode : TemplateMode) (template : String) :
    FilledIn s (.string template) (standsFor s mode template) := by
  unfold standsFor
  cases hsole : (soleToken? template).bind (present? s) with
  | none =>
    refine .text (fun path hpath => ?_) _
    rw [soleToken?_eq_some_iff.2 hpath, Option.bind_some] at hsole
    rw [← isNone_present?, hsole]
    rfl
  | some v =>
    obtain ⟨path, hpath, hv⟩ := Option.bind_eq_some_iff.1 hsole
    obtain ⟨hfound, hnull⟩ := Option.filter_eq_some_iff.1 hv
    exact .whole (soleToken?_eq_some_iff.1 hpath) hfound (by simpa using hnull)

mutual

theorem filledIn_mapTexts : ∀ v : Value, FilledIn s v (v.mapTexts (standsFor s mode))
  | .string template => filledIn_standsFor s mode template
  | .array items => .array (filledIn_mapTextsOfItems items)
  | .object members =>
    .object (Value.keys_mapTextsOfMembers _ members) (filledIn_mapTextsOfMembers members)
  | .null => .null
  | .bool b => .bool b
  | .number n => .number n

theorem filledIn_mapTextsOfItems : ∀ items : List Value,
    List.Forall₂ (FilledIn s) items (Value.mapTextsOfItems (standsFor s mode) items)
  | [] => .nil
  | v :: rest => .cons (filledIn_mapTexts v) (filledIn_mapTextsOfItems rest)

theorem filledIn_mapTextsOfMembers : ∀ members : List (String × Value),
    List.Forall₂ (FilledIn s) (members.map Prod.snd)
      ((Value.mapTextsOfMembers (standsFor s mode) members).map Prod.snd)
  | [] => .nil
  | (_, v) :: rest => .cons (filledIn_mapTexts v) (filledIn_mapTextsOfMembers rest)

end

theorem paths_of_leftmost {template : String} {ps : List Piece}
    (h : Leftmost template.toList ps) : paths template = ps.filterMap Piece.path? := by
  rw [leftmost_iff.1 h]
  rfl

/-- Only a strict template fails. It does when a token's path resolves to nothing or to null, and
names the first such path: texts stand in the order of items and members, and each is read from left
to right with its tokens where they first begin. A value that it gives is what the other modes give
too, and in every mode the value has the shape of the template. -/
theorem modes_agree (s : Scope) (v : Value) :
    (∀ mode, mode ≠ .strict → ∃ w, resolveValue s mode v = .ok w) ∧
    (∀ read : String → List Piece, (∀ t ∈ v.texts, Leftmost t.toList (read t)) →
      ∀ e, resolveValue s .strict v = .error e ↔
        (v.texts.flatMap fun t => (read t).filterMap Piece.path?).find? s.misses = some e.path) ∧
    (∀ w, resolveValue s .strict v = .ok w → ∀ mode, resolveValue s mode v = .ok w) ∧
    (∀ mode w, resolveValue s mode v = .ok w → FilledIn s v w) := by
  refine ⟨fun mode h => exists_resolveValue h v, fun read hread e => ?_, fun w hw mode => ?_,
    fun mode w hw => ?_⟩
  · have hpaths : v.texts.flatMap paths =
        v.texts.flatMap fun t => (read t).filterMap Piece.path? :=
      List.flatMap_congr fun t ht => paths_of_leftmost (hread t ht)
    rw [resolveValue_eq, outcome_eq_error_iff, firstMissing?, hpaths]
    exact and_iff_right rfl
  · rw [resolveValue_eq, outcome_eq_ok_iff] at hw
    obtain ⟨hnone, rfl⟩ := hw
    have hthere := not_misses_of_firstMissing? (hnone rfl)
    rw [resolveValue_eq, outcome_eq_ok_iff]
    exact ⟨fun _ => hnone rfl, Value.mapTexts_congr fun t ht =>
      standsFor_of_not_misses (hthere t ht) mode .strict⟩
  · rw [resolveValue_eq, outcome_eq_ok_iff] at hw
    obtain ⟨-, rfl⟩ := hw
    exact filledIn_mapTexts v

/-- A name, a city that is null, and a limit among the globals. -/
def greetingScope : Scope where
  data := [("city", .null), ("name", .string "Ada")]
  globals := [("limit", .number (.int 5))]
  params := []
  resolution := .fallback

/-- Holds a greeting, and a limit as a value. -/
def greeting : Value :=
  .object [("label", .string "Hi $\x7b name \x7d"), ("max", .string "$\x7bglobals.limit\x7d")]

theorem greeting_modes :
    (∃ w, (∀ mode, resolveValue greetingScope mode greeting = .ok w) ∧
      FilledIn greetingScope greeting w) ∧
    resolveValue greetingScope .strict
        (.array [greeting, .string "in $\x7bcity\x7d, $\x7bstreet\x7d"]) = .error ⟨"city"⟩ ∧
    ∃ w, resolveValue greetingScope .preserve
      (.array [greeting, .string "in $\x7bcity\x7d, $\x7bstreet\x7d"]) = .ok w := by
  refine ⟨?_, ?_, (modes_agree _ _).1 .preserve (by decide)⟩
  · obtain ⟨w, hw⟩ := exists_ok_of_isSome
      (show (resolveValue greetingScope .strict greeting).toOption.isSome = true by decide +kernel)
    exact ⟨w, (modes_agree _ _).2.2.1 w hw, (modes_agree _ _).2.2.2 .strict w hw⟩
  · have hread := fun (t : String) => leftmost_iff.2 (show pieces t.toList = _ from rfl)
    exact ((modes_agree _ _).2.1 (fun t => pieces t.toList) (fun t _ => hread t) _).2
      (by decide +kernel)

end Template

end FormEngine
