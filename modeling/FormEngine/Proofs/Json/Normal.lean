import FormEngine.Json.Value
import FormEngine.Proofs.Dict.Order

/-!
# Normal documents

A document is normal when all its objects are dictionaries, so that `normalize` leaves it alone. The
parts of a normal document are normal, and `normalize` makes every document normal
(`normal_normalize`).
-/

namespace FormEngine.Value

/-- All objects of the document are dictionaries. -/
def Normal (v : Value) : Prop := v.normalize = v

theorem map_eq_self_iff {α : Type} {f : α → α} {l : List α} : l.map f = l ↔ ∀ a ∈ l, f a = a := by
  simpa using List.map_inj_left (l := l) (f := f) (g := id)

theorem normalizeItems_eq (items : List Value) : normalizeItems items = items.map normalize := by
  induction items with
  | nil => rfl
  | cons v rest ih => rw [normalizeItems, ih, List.map_cons]

theorem normalizeMembers_eq (members : List (String × Value)) :
    normalizeMembers members = Dict.mapValues normalize members := by
  induction members with
  | nil => rfl
  | cons m rest ih =>
    rw [normalizeMembers, ih]
    rfl

theorem normal_array_iff {items : List Value} : (array items).Normal ↔ ∀ v ∈ items, v.Normal := by
  unfold Normal
  rw [normalize, array.injEq, normalizeItems_eq]
  constructor
  · intro h v hv
    exact map_eq_self_iff.1 h v hv
  · exact fun h => map_eq_self_iff.2 h

theorem normal_object_iff {members : List (String × Value)} :
    (object members).Normal ↔ Dict.Sorted members ∧ ∀ m ∈ members, m.2.Normal := by
  unfold Normal
  rw [normalize, object.injEq, normalizeMembers_eq]
  constructor
  · intro h
    have hsorted : Dict.Sorted members := h ▸ Dict.sorted_ofList _
    rw [(hsorted.of_keys_eq (Dict.keys_mapValues _ _)).ofList_eq] at h
    refine ⟨hsorted, fun m hm => ?_⟩
    have hm' := map_eq_self_iff.1 h m hm
    exact congrArg Prod.snd hm'
  · rintro ⟨hsorted, hmembers⟩
    have hmap : Dict.mapValues normalize members = members :=
      map_eq_self_iff.2 fun m hm => Prod.ext rfl (hmembers m hm)
    rw [hmap, hsorted.ofList_eq]

mutual

theorem normal_normalize : ∀ v : Value, v.normalize.Normal
  | .null | .bool _ | .number _ | .string _ => rfl
  | .array items => by
    rw [normalize, normal_array_iff]
    exact normal_of_mem_normalizeItems items
  | .object members => by
    rw [normalize, normal_object_iff]
    exact ⟨Dict.sorted_ofList _, fun m hm =>
      normal_of_mem_normalizeMembers members m (Dict.mem_of_mem_ofList hm)⟩

theorem normal_of_mem_normalizeItems : ∀ items : List Value,
    ∀ v ∈ normalizeItems items, v.Normal
  | [], v, h => by cases h
  | first :: rest, v, h => by
    rcases List.mem_cons.1 h with rfl | h
    · exact normal_normalize first
    · exact normal_of_mem_normalizeItems rest v h

theorem normal_of_mem_normalizeMembers : ∀ members : List (String × Value),
    ∀ m ∈ normalizeMembers members, m.2.Normal
  | [], m, h => by cases h
  | (_, first) :: rest, m, h => by
    rcases List.mem_cons.1 h with rfl | h
    · exact normal_normalize first
    · exact normal_of_mem_normalizeMembers rest m h

end

theorem normalize_eq_null_iff {v : Value} : v.normalize = .null ↔ v = .null := by
  cases v <;> simp [normalize]

end FormEngine.Value
