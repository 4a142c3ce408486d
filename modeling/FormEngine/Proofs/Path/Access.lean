import FormEngine.Path.Access

/-!
# What a path reads

A path enters a dictionary at one entry, `head?`, and what it finds depends on the value of that
entry only (`lookup_congr`). What has been written at segments is what the segments select
(`follow_write`).
-/

namespace FormEngine.Path

/-- The key under which a path enters a dictionary; an index enters under its decimal digits. -/
def head? (path : String) : Option String :=
  match parse path with
  | [] => none
  | .key name :: _ => some name
  | .index n :: _ => some (toString n)

/-- Whether the first segment of a path is an index. -/
def leadsWithIndex (path : String) : Bool :=
  match parse path with
  | .index _ :: _ => true
  | _ => false

theorem lookup_congr {d e : Dict Value} {path : String}
    (h : ∀ key, head? path = some key → d.get? key = e.get? key) :
    lookup d path = lookup e path := by
  unfold head? at h
  unfold lookup
  cases hp : parse path with
  | nil => rfl
  | cons first rest =>
    rw [hp] at h
    cases first with
    | key name => simp only [h name rfl]
    | index n => simp only [h (toString n) rfl]

theorem rootKey?_of_head? {path key : String} (h : head? path = some key)
    (hi : leadsWithIndex path = false) : rootKey? path = some key := by
  unfold head? at h
  unfold leadsWithIndex at hi
  unfold rootKey?
  cases hp : parse path with
  | nil => simp [hp] at h
  | cons first rest =>
    cases first with
    | key name => simpa [hp] using h
    | index n => simp [hp] at hi

/-! ## Reading after a write -/

theorem getElem?_setItem (items : List Value) (n : Nat) (v : Value) :
    (setItem items n v)[n]? = some v := by
  unfold setItem
  rw [List.getElem?_set_self]
  simp only [List.length_append, List.length_replicate]
  omega

theorem follow_write (value : Value) (segments : List Segment) (doc : Value) :
    follow (write value segments doc) segments = some value := by
  induction segments generalizing doc with
  | nil => rfl
  | cons first rest ih =>
    cases first with
    | key name => simp [follow, write, step, ih]
    | index n => simp [follow, write, step, getElem?_setItem, ih]

/-- Every value can be put where a path looks. -/
theorem exists_lookup_eq {path key : String} (h : head? path = some key) (value : Value) :
    ∃ entry, lookup [(key, entry)] path = some value := by
  unfold head? at h
  unfold lookup
  cases hp : parse path with
  | nil => simp [hp] at h
  | cons first rest =>
    refine ⟨write value rest .null, ?_⟩
    cases first with
    | key name =>
      rw [hp] at h
      cases h
      simp [Dict.get?, follow_write]
    | index n =>
      rw [hp] at h
      cases h
      simp [Dict.get?, follow_write]

end FormEngine.Path
