import FormEngine.Dict
import Mathlib.Data.List.Perm.Basic
import Mathlib.Data.List.Sort
import Mathlib.Data.String.Basic

/-!
# Dictionaries in order

Writing keeps the entries of a dictionary in the order of their keys, so a dictionary that is made
by writing is in order. Dictionaries in order that read the same are the same list of entries
(`Sorted.ext`).
-/

namespace FormEngine.Dict

variable {α β : Type} {d e : Dict α} {key : String} {value : α}

instance : Decidable d.Sorted := inferInstanceAs (Decidable (d.Pairwise fun a b => a.1 < b.1))

theorem sorted_iff_keys : d.Sorted ↔ d.keys.Pairwise (· < ·) := List.pairwise_map.symm

theorem Sorted.nodup_keys (h : d.Sorted) : d.keys.Nodup :=
  (sorted_iff_keys.1 h).imp fun hlt => hlt.ne

theorem Sorted.of_keys_eq {e : Dict β} (h : d.Sorted) (hkeys : e.keys = d.keys) : e.Sorted := by
  rw [sorted_iff_keys, hkeys]
  exact sorted_iff_keys.1 h

/-! ## Writing -/

theorem Sorted.replace (h : d.Sorted) : (d.replace key value).Sorted :=
  h.of_keys_eq (keys_replace d key value)

theorem Sorted.place (h : d.Sorted) (hkey : key ∉ d.keys) : (d.place key value).Sorted := by
  induction d with
  | nil => exact List.pairwise_singleton _ _
  | cons first rest ih =>
    rw [keys, List.map_cons, List.mem_cons, not_or] at hkey
    obtain ⟨hfirst, hrest⟩ := List.pairwise_cons.1 h
    rw [Dict.place]
    split
    · rename_i hlt
      refine List.pairwise_cons.2 ⟨fun other hother => ?_, h⟩
      rcases List.mem_cons.1 hother with rfl | hother
      · exact hlt
      · exact hlt.trans (hfirst other hother)
    · rename_i hle
      have hlt : first.1 < key := lt_of_le_of_ne (not_lt.1 hle) (Ne.symm hkey.1)
      refine List.pairwise_cons.2 ⟨fun other hother => ?_, ih hrest hkey.2⟩
      have hmem := List.mem_map_of_mem (f := Prod.fst) hother
      rcases (mem_keys_place rest key value other.1).1 hmem with heq | hmem
      · rwa [heq]
      · obtain ⟨old, hold, heq⟩ := List.mem_map.1 hmem
        rw [← heq]
        exact hfirst old hold

theorem Sorted.insert (h : d.Sorted) (key : String) (value : α) : (d.insert key value).Sorted := by
  unfold Dict.insert
  split
  · exact h.replace
  · rename_i hhas
    exact h.place (by rwa [has_iff] at hhas)

theorem Sorted.erase (h : d.Sorted) (key : String) : (d.erase key).Sorted :=
  h.sublist List.filter_sublist

theorem Sorted.insertAll (h : d.Sorted) (entries : List (String × α)) :
    (d.insertAll entries).Sorted := by
  induction entries generalizing d with
  | nil => exact h
  | cons first rest ih => exact ih (h.insert _ _)

theorem sorted_ofList (entries : List (String × α)) : (ofList entries).Sorted :=
  Sorted.insertAll List.Pairwise.nil entries

/-! ## Equality -/

theorem Sorted.mem_iff (h : d.Sorted) {entry : String × α} :
    entry ∈ d ↔ d.get? entry.1 = some entry.2 :=
  ⟨get?_of_mem h.nodup_keys, mem_of_get?⟩

theorem Sorted.ext (hd : d.Sorted) (he : e.Sorted) (h : ∀ key, d.get? key = e.get? key) :
    d = e := by
  have hperm : d.Perm e := by
    refine (List.perm_ext_iff_of_nodup hd.nodup_keys.of_map he.nodup_keys.of_map).2 ?_
    intro entry
    rw [hd.mem_iff, he.mem_iff, h]
  exact hperm.eq_of_pairwise (fun a b _ _ hab hba => absurd hba hab.asymm) hd he

theorem Sorted.ofList_eq (h : d.Sorted) : ofList d = d := by
  refine (sorted_ofList d).ext h fun key => Option.ext fun value => ?_
  exact (get?_ofList_eq_some_iff h.nodup_keys).trans h.mem_iff

theorem get?_insertAll (d : Dict α) (entries : List (String × α)) (key : String) :
    (d.insertAll entries).get? key = ((ofList entries).get? key).or (d.get? key) := by
  induction entries generalizing d with
  | nil => rfl
  | cons e rest ih =>
    have hsingle : (ofList (e :: rest)).get? key =
        ((ofList rest).get? key).or (get? (Dict.insert [] e.1 e.2) key) := ih _
    rw [Dict.insertAll, List.foldl_cons, ← Dict.insertAll, ih, hsingle, get?_insert, get?_insert]
    cases (ofList rest).get? key <;> split <;> rfl

theorem Sorted.insertAll_again (h : d.Sorted) (entries : List (String × α)) :
    d.insertAll (d.insertAll entries) = d.insertAll entries := by
  refine (h.insertAll _).ext (h.insertAll _) fun key => ?_
  rw [get?_insertAll, (h.insertAll entries).ofList_eq, get?_insertAll, Option.or_assoc,
    Option.or_self]

theorem get?_filter (hn : d.keys.Nodup) (test : α → Bool) (key : String) :
    get? (d.filter fun entry => test entry.2) key = (d.get? key).filter test := by
  induction d with
  | nil => rfl
  | cons first rest ih =>
    rw [keys, List.map_cons, List.nodup_cons] at hn
    by_cases hkey : first.1 = key
    · subst hkey
      have hrest : get? rest first.1 = none := get?_eq_none_iff.2 hn.1
      have hnone : get? (rest.filter fun entry => test entry.2) first.1 = none := by
        rw [ih hn.2, hrest]
        rfl
      cases htest : test first.2 <;> simp [get?, htest, hnone, Option.filter]
    · have hsame : get? (first :: rest) key = get? rest key := if_neg hkey
      rw [hsame, ← ih hn.2]
      cases htest : test first.2 <;> simp [get?, htest, hkey]

theorem mem_of_mem_ofList {entries : List (String × α)} {entry : String × α}
    (h : entry ∈ ofList entries) : entry ∈ entries :=
  mem_of_get?_ofList ((sorted_ofList entries).mem_iff.1 h)

end FormEngine.Dict
