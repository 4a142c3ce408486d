import FormEngine.Proofs.Path.Access

/-!
# Writing at a path

What is written at segments is read there, and of two writes at the same segments the later one
counts (`write_read_and_overwritten`).

Writing back what a path reads changes nothing as long as the path selects from objects by names and
from arrays by indexes (`set_get?_iff_direct`). A path reads more than that: a name that spells an
index selects from an array, and an index from an object. A write puts a new container in such a
place, and with the old one everything else that it held is lost.
-/

namespace FormEngine.Path

/-! ## Writing twice -/

theorem setItem_setItem (items : List Value) (n : Nat) (v w : Value) :
    setItem (setItem items n v) n w = setItem items n w := by
  have hroom : n + 1 - (setItem items n v).length = 0 := by
    simp only [setItem, List.length_set, List.length_append, List.length_replicate]
    omega
  rw [setItem, hroom, List.replicate_zero, List.append_nil, setItem, List.set_set, setItem]

theorem write_write (v w : Value) (segments : List Segment) (doc : Value) :
    write w segments (write v segments doc) = write w segments doc := by
  induction segments generalizing doc with
  | nil => rfl
  | cons first rest ih =>
    cases first with
    | key name => simp [write, Value.members, Dict.insert_insert, ih]
    | index n => simp [write, Value.items, getElem?_setItem, setItem_setItem, ih]

/-- What has been written is read, and a second write leaves nothing of the first. -/
theorem write_read_and_overwritten (doc : Value) (segments : List Segment) (v w : Value) :
    follow (write v segments doc) segments = some v ∧
      write w segments (write v segments doc) = write w segments doc :=
  ⟨follow_write v segments doc, write_write v w segments doc⟩

/-! ## Writing back -/

/-- The path selects from objects by names and from arrays by indexes. -/
inductive Direct : List Segment → Value → Prop where
  | nil (doc : Value) : Direct [] doc
  | key {name : String} {rest : List Segment} {members : Dict Value} {child : Value}
      (h : members.get? name = some child) (hrest : Direct rest child) :
      Direct (.key name :: rest) (.object members)
  | index {n : Nat} {rest : List Segment} {items : List Value} {child : Value}
      (h : items[n]? = some child) (hrest : Direct rest child) :
      Direct (.index n :: rest) (.array items)

/-- A segment meets a container of the other kind: a name an array, or an index an object. -/
inductive Crosses : Segment → Value → Prop where
  | key (name : String) (items : List Value) : Crosses (.key name) (.array items)
  | index (n : Nat) (members : Dict Value) : Crosses (.index n) (.object members)

variable {doc v x : Value} {s : Segment} {before segments : List Segment}

/-- A path that reads is direct, or there is a first place where it crosses a container. -/
theorem direct_or_crosses (h : follow doc segments = some x) :
    Direct segments doc ∨ ∃ before s after v, segments = before ++ s :: after ∧
      Direct before doc ∧ follow doc before = some v ∧ Crosses s v := by
  induction segments generalizing doc with
  | nil => exact .inl (.nil doc)
  | cons first rest ih =>
    obtain ⟨child, hchild, hrest⟩ := Option.bind_eq_some_iff.1 h
    have deeper (hfirst : ∀ {segments}, Direct segments child → Direct (first :: segments) doc) :
        Direct (first :: rest) doc ∨ ∃ before s after v, first :: rest = before ++ s :: after ∧
          Direct before doc ∧ follow doc before = some v ∧ Crosses s v := by
      rcases ih hrest with hdirect | ⟨before, s, after, v, rfl, hdirect, hv, hs⟩
      · exact .inl (hfirst hdirect)
      · exact .inr ⟨first :: before, s, after, v, rfl, hfirst hdirect,
          by rw [follow, hchild]; exact hv, hs⟩
    cases first with
    | key name =>
      cases doc with
      | object members => exact deeper (.key hchild)
      | array items => exact .inr ⟨[], _, rest, _, rfl, .nil _, rfl, .key name items⟩
      | _ => cases hchild
    | index n =>
      cases doc with
      | array items => exact deeper (.index hchild)
      | object members => exact .inr ⟨[], _, rest, _, rfl, .nil _, rfl, .index n members⟩
      | _ => cases hchild

/-- A write behind a direct path is a write into what the path selects. -/
theorem write_append (hdirect : Direct before doc) (hv : follow doc before = some v)
    (after : List Segment) :
    write x (before ++ after) doc = write (write x after v) before doc := by
  induction hdirect with
  | nil doc =>
    cases hv
    rfl
  | key h hrest ih =>
    have hv' := by simpa [follow, step, h] using hv
    simp [write, Value.members, h, ih hv']
  | index h hrest ih =>
    have hv' := by simpa [follow, step, h] using hv
    simp [write, Value.items, h, ih hv']

theorem setItem_eq_self {items : List Value} {n : Nat} {child : Value}
    (h : items[n]? = some child) : setItem items n child = items := by
  obtain ⟨hn, rfl⟩ := List.getElem?_eq_some_iff.1 h
  rw [setItem, Nat.sub_eq_zero_of_le hn, List.replicate_zero, List.append_nil,
    List.set_getElem_self]

theorem write_follow (hdirect : Direct segments doc) (hx : follow doc segments = some x) :
    write x segments doc = doc := by
  induction hdirect with
  | nil doc =>
    cases hx
    rfl
  | key h hrest ih =>
    have hx' := by simpa [follow, step, h] using hx
    simp [write, Value.members, h, ih hx', Dict.insert_get? h]
  | index h hrest ih =>
    have hx' := by simpa [follow, step, h] using hx
    simp [write, Value.items, h, ih hx', setItem_eq_self h]

theorem write_of_crosses (h : Crosses s v) (after : List Segment) :
    write x (s :: after) v = write x (s :: after) .null := by
  cases h <;> rfl

theorem write_ne_of_crosses (h : Crosses s v) (after : List Segment) :
    write x (s :: after) v ≠ v := by
  cases h <;> simp [write]

/-- Writing back what a path reads changes nothing exactly when the path is direct. Where it is not,
the container that it crosses is replaced by what is written where nothing was. -/
theorem set_get?_iff_direct {path : String} (h : get? doc path = some x) :
    (set doc path x = doc ↔ Direct (parse path) doc) ∧
    (¬ Direct (parse path) doc → ∃ before s after v, parse path = before ++ s :: after ∧
      follow doc before = some v ∧ Crosses s v ∧
      follow (set doc path x) before = some (write x (s :: after) .null)) := by
  -- a place where the path crosses a container is read as new after the write
  have replaced {before s after v} (hpath : parse path = before ++ s :: after)
      (hdirect : Direct before doc) (hv : follow doc before = some v) (hs : Crosses s v) :
      follow (set doc path x) before = some (write x (s :: after) v) := by
    rw [set, hpath, write_append hdirect hv, follow_write]
  refine ⟨⟨fun hsame => ?_, fun hdirect => write_follow hdirect h⟩, fun hindirect => ?_⟩
  · rcases direct_or_crosses h with hdirect | ⟨before, s, after, v, hpath, hdirect, hv, hs⟩
    · exact hdirect
    · have hnew := replaced hpath hdirect hv hs
      rw [hsame, hv, Option.some.injEq] at hnew
      exact absurd hnew.symm (write_ne_of_crosses hs after)
  · rcases direct_or_crosses h with hdirect | ⟨before, s, after, v, hpath, hdirect, hv, hs⟩
    · exact absurd hdirect hindirect
    · refine ⟨before, s, after, v, hpath, hv, hs, ?_⟩
      rw [replaced hpath hdirect hv hs, write_of_crosses hs]

/-- A basket of two items. -/
def basket : Value :=
  .object [("items", .array [.object [("sku", .string "a")], .object [("sku", .string "b")]])]

theorem parse_by_name : parse "items.1.sku" = [.key "items", .key "1", .key "sku"] := by
  decide +kernel

theorem get?_basket_by_name : get? basket "items.1.sku" = some (.string "b") := by
  rw [get?, parse_by_name]
  rfl

/-- The article of the second item is read and written back under an index. Under a name that spells
the index it is read too, and writing it back leaves no other item. -/
theorem basket_writes_back :
    (get? basket "items[1].sku" = some (.string "b") ∧
      set basket "items[1].sku" (.string "b") = basket) ∧
    get? basket "items.1.sku" = some (.string "b") ∧
      ∃ before s after v, parse "items.1.sku" = before ++ s :: after ∧
        follow basket before = some v ∧ Crosses s v ∧
        follow (set basket "items.1.sku" (.string "b")) before =
          some (write (.string "b") (s :: after) .null) := by
  have hindex : parse "items[1].sku" = [.key "items", .index 1, .key "sku"] := by decide +kernel
  have hread : get? basket "items[1].sku" = some (.string "b") := by
    rw [get?, hindex]
    rfl
  refine ⟨⟨hread, (set_get?_iff_direct hread).1.2 ?_⟩, get?_basket_by_name,
    (set_get?_iff_direct get?_basket_by_name).2 ?_⟩
  · rw [hindex]
    exact .key rfl (.index rfl (.key rfl (.nil _)))
  · rw [parse_by_name]
    rintro (_ | ⟨h, hrest⟩)
    cases h
    cases hrest

theorem set_get?_loses_items :
    ∃ (doc : Value) (path : String) (x : Value), get? doc path = some x ∧ set doc path x ≠ doc := by
  refine ⟨basket, "items.1.sku", .string "b", get?_basket_by_name, ?_⟩
  rw [set, parse_by_name]
  intro h
  cases h

end FormEngine.Path
