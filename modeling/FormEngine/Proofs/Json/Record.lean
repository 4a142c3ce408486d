import FormEngine.Json.Decode
import FormEngine.Proofs.Json.Normal

/-!
# Records that are read back

A decoder and an encoder fit when what was decoded is encoded so that it is decoded to the same
(`Faithful`). Lists and dictionaries of fitting items fit. A written record has one member a key
(`record?_object`), and a member whose items fit is read back from a written record, whether it must
be there (`Faithful.need`), may be null (`Faithful.maybe`) or has a default (`Faithful.orElse`,
`Faithful.orEmpty`).
-/

namespace FormEngine

/-! ## Written members -/

@[simp] theorem Dict.get?_ofList_append {α : Type} (as bs : List (String × α)) (key : String) :
    (Dict.ofList (as ++ bs)).get? key =
      ((Dict.ofList bs).get? key).or ((Dict.ofList as).get? key) := by
  rw [ofList, insertAll, List.foldl_append, ← insertAll, ← insertAll, get?_insertAll]
  rfl

theorem Dict.erase_ofList_cons {α : Type} {key : String} {value : α}
    {entries : List (String × α)} (h : key ∉ entries.map Prod.fst) :
    (Dict.ofList ((key, value) :: entries)).erase key = Dict.ofList entries := by
  refine ((sorted_ofList _).erase _).ext (sorted_ofList _) fun other => ?_
  rw [get?_erase, ← List.singleton_append, get?_ofList_append]
  split
  · rename_i heq
    rw [← heq, get?_eq_none_iff.2 (by rwa [mem_keys_ofList])]
  · rename_i hne
    have hsingle : (Dict.ofList [(key, value)]).get? other = none := if_neg hne
    rw [hsingle, Option.or_none]

theorem Dict.ofList_pair {α : Type} {key other : String} (h : key < other) (a b : α) :
    Dict.ofList [(key, a), (other, b)] = [(key, a), (other, b)] :=
  Sorted.ofList_eq (by simpa [Sorted] using h)

theorem Dict.ofList_pair_swap {α : Type} {key other : String} (h : key < other) (a b : α) :
    Dict.ofList [(other, b), (key, a)] = [(key, a), (other, b)] := by
  have hne : other ≠ key := h.ne'
  simp [ofList, insertAll, insert, place, has, get?, hne, h]

namespace Encode

variable {α : Type}

@[simp] theorem get?_always (key : String) (v : Value) (other : String) :
    (Dict.ofList (always key v)).get? other = if key = other then some v else none := rfl

@[simp] theorem get?_whenSome (key : String) (encode : α → Value) (o : Option α)
    (other : String) :
    (Dict.ofList (whenSome key encode o)).get? other =
      if key = other then o.map encode else none := by
  cases o with
  | none => exact (ite_self _).symm
  | some a => rfl

@[simp] theorem get?_whenAny (key : String) (encode : α → Value) (items : List α)
    (other : String) :
    (Dict.ofList (whenAny key encode items)).get? other =
      if key = other then
        if items.isEmpty then none else some (.array (items.map encode))
      else none := by
  unfold whenAny
  split
  · exact (ite_self _).symm
  · rfl

@[simp] theorem get?_unless {p : Prop} [Decidable p] (members : List (String × Value))
    (other : String) :
    (Dict.ofList (if p then [] else members)).get? other =
      if p then none else (Dict.ofList members).get? other := by
  split <;> rfl

theorem object_ne_null (parts : List (List (String × Value))) : object parts ≠ .null := nofun

end Encode

namespace Decode

theorem unrepeated_of_sorted {m : Dict Value} (h : m.Sorted) (keys : List String) :
    unrepeated (keys.map ([·])) m = true := by
  rw [unrepeated, List.all_map, List.all_eq_true]
  intro key _
  rw [Function.comp_apply, decide_eq_true_eq]
  have hn : ((m.filter fun e => [key].contains e.1).map Prod.fst).Nodup :=
    h.nodup_keys.sublist (List.filter_sublist.map _)
  have hkeys : (m.filter fun e => [key].contains e.1).map Prod.fst =
      List.replicate (m.filter fun e => [key].contains e.1).length key := by
    refine List.eq_replicate_iff.2 ⟨List.length_map _, fun k hk => ?_⟩
    obtain ⟨e, he, rfl⟩ := List.mem_map.1 hk
    simpa using (List.mem_filter.1 he).2
  rw [hkeys] at hn
  exact List.nodup_replicate.1 hn

theorem record?_object (keys : List String) (parts : List (List (String × Value))) :
    record? keys (Encode.object parts) = some (Dict.ofList parts.flatten) :=
  if_pos (unrepeated_of_sorted (Dict.sorted_ofList _) keys)

/-! ## Items -/

variable {α β : Type}

/-- What was decoded is encoded so that it is decoded to the same. -/
structure Faithful (item? : Value → Option α) (encode : α → Value) : Prop where
  reads_back : ∀ {v a}, item? v = some a → item? (encode a) = some a
  /-- Only null is encoded as null, which may stand for absence. -/
  ne_null : ∀ {v a}, item? v = some a → v ≠ .null → encode a ≠ .null

theorem faithful_text : Faithful text? .string where
  reads_back _ := rfl
  ne_null _ _ := nofun

theorem faithful_flag : Faithful flag? .bool where
  reads_back _ := rfl
  ne_null _ _ := nofun

theorem faithful_value : Faithful value? fun v => v where
  reads_back h := by
    cases h
    exact congrArg some (Value.normal_normalize _)
  ne_null h hv := by
    cases h
    rwa [ne_eq, Value.normalize_eq_null_iff]

theorem faithful_case {ofName? : String → Option α} {name : α → String}
    (h : ∀ a, ofName? (name a) = some a) :
    Faithful (fun v => (caseName? v).bind ofName?) fun a => .string (name a) where
  reads_back _ := h _
  ne_null _ _ := nofun

section Items

variable {item? : Value → Option α} {encode : α → Value}

theorem exists_of_mem_mapM {vs : List Value} {items : List α} (h : vs.mapM item? = some items) :
    ∀ a ∈ items, ∃ v, item? v = some a := by
  induction vs generalizing items with
  | nil =>
    cases h
    exact nofun
  | cons v rest ih =>
    rw [List.mapM_cons] at h
    obtain ⟨first, hfirst, h⟩ := Option.bind_eq_some_iff.1 h
    obtain ⟨others, hothers, heq⟩ := Option.bind_eq_some_iff.1 h
    cases heq
    exact List.forall_mem_cons.2 ⟨⟨v, hfirst⟩, ih hothers⟩

theorem exists_of_mem_list? {v : Value} {items : List α} (h : list? item? v = some items) :
    ∀ a ∈ items, ∃ v, item? v = some a := by
  cases v with
  | array vs => exact exists_of_mem_mapM h
  | _ => cases h

theorem mapM_map_encode {items : List α} (h : ∀ a ∈ items, item? (encode a) = some a) :
    (items.map encode).mapM item? = some items := by
  induction items with
  | nil => rfl
  | cons a rest ih =>
    rw [List.forall_mem_cons] at h
    rw [List.map_cons, List.mapM_cons, h.1, ih h.2]
    rfl

theorem Faithful.list (h : Faithful item? encode) :
    Faithful (list? item?) fun items => .array (items.map encode) where
  reads_back {v items} hread := by
    refine mapM_map_encode fun a ha => ?_
    obtain ⟨w, hw⟩ := exists_of_mem_list? hread a ha
    exact h.reads_back hw
  ne_null _ _ := nofun

theorem Faithful.forall_mem (h : Faithful item? encode) {members entries : List (String × _)}
    (hread : (members.mapM fun m => (item? m.2).map fun a => (m.1, a)) = some entries) :
    ∀ e ∈ entries, item? (encode e.2) = some e.2 := by
  induction members generalizing entries with
  | nil =>
    cases hread
    exact nofun
  | cons m rest ih =>
    rw [List.mapM_cons] at hread
    obtain ⟨first, hfirst, hread⟩ := Option.bind_eq_some_iff.1 hread
    obtain ⟨others, hothers, heq⟩ := Option.bind_eq_some_iff.1 hread
    cases heq
    obtain ⟨a, ha, rfl⟩ := Option.map_eq_some_iff.1 hfirst
    exact List.forall_mem_cons.2 ⟨h.reads_back ha, ih hothers⟩

theorem mapM_mapValues {d : Dict α} (h : ∀ e ∈ d, item? (encode e.2) = some e.2) :
    ((d.mapValues encode).mapM fun m => (item? m.2).map fun a => (m.1, a)) = some d := by
  induction d with
  | nil => rfl
  | cons e rest ih =>
    rw [List.forall_mem_cons] at h
    rw [Dict.mapValues, List.map_cons, List.mapM_cons, h.1, ← Dict.mapValues, ih h.2]
    rfl

theorem Faithful.dict (h : Faithful item? encode) :
    Faithful (dict? item?) fun d => .object (d.mapValues encode) where
  reads_back {v d} hread := by
    cases v with
    | object members =>
      obtain ⟨entries, hentries, rfl⟩ := Option.map_eq_some_iff.1 hread
      have hitems : ∀ e ∈ Dict.ofList entries, item? (encode e.2) = some e.2 :=
        fun e he => h.forall_mem hentries e (Dict.mem_of_mem_ofList he)
      rw [dict?, mapM_mapValues hitems, Option.map_some, (Dict.sorted_ofList entries).ofList_eq]
    | _ => cases hread
  ne_null _ _ := nofun

/-! ## Members -/

variable {m m' : Dict Value} {key : String}

theorem Faithful.need (h : Faithful item? encode) {a : α} (hread : need item? m key = some a)
    (hwritten : m'.get? key = some (encode a)) : need item? m' key = some a := by
  obtain ⟨v, -, hv⟩ := Option.bind_eq_some_iff.1 hread
  rw [Decode.need, hwritten]
  exact h.reads_back hv

theorem Faithful.maybe (h : Faithful item? encode) {o : Option α}
    (hread : maybe item? m key = some o) (hwritten : m'.get? key = o.map encode) :
    maybe item? m' key = some o := by
  unfold Decode.maybe at hread ⊢
  rw [hwritten]
  split at hread
  · cases hread
    rfl
  · cases hread
    rfl
  · rename_i v hnull _
    obtain ⟨a, ha, rfl⟩ := Option.map_eq_some_iff.1 hread
    have hne : encode a ≠ .null := h.ne_null ha hnull
    rw [Option.map_some]
    split
    · rename_i heq
      cases heq
    · rename_i heq
      exact absurd (Option.some.inj heq) hne
    · rename_i heq
      rw [← Option.some.inj heq, h.reads_back ha]
      rfl

theorem Faithful.orElse (h : Faithful item? encode) {a fallback : α}
    (hread : orElse item? m key fallback = some a)
    (hfallback : item? (encode fallback) = some fallback)
    (hwritten : m'.get? key = some (encode a)) : orElse item? m' key fallback = some a := by
  unfold Decode.orElse at hread ⊢
  rw [hwritten]
  split at hread
  · cases hread
    exact hfallback
  · exact h.reads_back hread

theorem Faithful.orEmpty {item? : Value → Option (List α)} {encode : List α → Value}
    (h : Faithful item? encode) {items : List α}
    (hread : Decode.orElse item? m key [] = some items)
    (hwritten : m'.get? key = if items.isEmpty then none else some (encode items)) :
    Decode.orElse item? m' key [] = some items := by
  unfold Decode.orElse at hread ⊢
  rw [hwritten]
  cases items with
  | nil => rfl
  | cons a rest =>
    split at hread
    · cases hread
    · exact h.reads_back hread

end Items

end Decode

end FormEngine
