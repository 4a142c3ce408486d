/-!
# Dictionaries

A `Dict` maps texts to values and lists its entries by key, in code point order. Every operation
looks at the first entry of a key only: `insert` replaces it where it stands, or puts a new entry
before the first larger key. So the laws of reading and writing hold for any list of entries, and
the order is kept where it holds.
-/

namespace FormEngine

/-- Entries by key, in increasing order of keys. -/
abbrev Dict (α : Type) := List (String × α)

namespace Dict

variable {α β : Type}

/-- The value of a key. -/
def get? : Dict α → String → Option α
  | [], _ => none
  | (k, v) :: rest, key => if k = key then some v else get? rest key

def has (d : Dict α) (key : String) : Bool := (d.get? key).isSome

def keys (d : Dict α) : List String := d.map Prod.fst

/-- Changes the value of the first entry with this key. -/
def replace : Dict α → String → α → Dict α
  | [], _, _ => []
  | (k, v) :: rest, key, value =>
    if k = key then (k, value) :: rest else (k, v) :: replace rest key value

/-- Adds an entry before the first larger key. -/
def place : Dict α → String → α → Dict α
  | [], key, value => [(key, value)]
  | (k, v) :: rest, key, value =>
    if key < k then (key, value) :: (k, v) :: rest else (k, v) :: place rest key value

/-- Sets the value of a key. -/
def insert (d : Dict α) (key : String) (value : α) : Dict α :=
  if d.has key then d.replace key value else d.place key value

/-- Removes every entry with this key. -/
def erase (d : Dict α) (key : String) : Dict α := d.filter fun e => e.1 ≠ key

/-- Inserts entries one after another, so that the last of a key stays. -/
def insertAll (d : Dict α) (entries : List (String × α)) : Dict α :=
  entries.foldl (fun acc e => acc.insert e.1 e.2) d

/-- The dictionary of a list of entries; the last value of a key stays. -/
def ofList (entries : List (String × α)) : Dict α := insertAll [] entries

/-- The same keys with other values. -/
def mapValues (f : α → β) (d : Dict α) : Dict β := d.map fun e => (e.1, f e.2)

/-- Keys strictly increase. -/
def Sorted (d : Dict α) : Prop := d.Pairwise fun a b => a.1 < b.1

theorem has_iff {d : Dict α} {key : String} : d.has key = true ↔ key ∈ d.keys := by
  induction d with
  | nil => simp [has, get?, keys]
  | cons e rest ih =>
    by_cases h : e.1 = key
    · simp [has, get?, keys, h]
    · simpa [has, get?, keys, h, Ne.symm h] using ih

theorem get?_replace {d : Dict α} {key : String} {value : α} (h : d.has key = true)
    (other : String) :
    (d.replace key value).get? other = if key = other then some value else d.get? other := by
  induction d with
  | nil => simp [has, get?] at h
  | cons e rest ih =>
    by_cases hk : e.1 = key
    · subst hk
      by_cases ho : e.1 = other <;> simp [replace, get?, ho]
    · have h' : has rest key = true := by simpa [has, get?, hk] using h
      rw [replace, if_neg hk, get?, get?, ih h']
      grind

theorem get?_place {d : Dict α} {key : String} {value : α} (h : d.has key = false)
    (other : String) :
    (d.place key value).get? other = if key = other then some value else d.get? other := by
  induction d with
  | nil => simp [place, get?]
  | cons e rest ih =>
    by_cases hlt : key < e.1
    · simp [place, get?, hlt]
    · have hk : e.1 ≠ key := by
        intro hk
        simp [has, get?, hk] at h
      have h' : has rest key = false := by simpa [has, get?, hk] using h
      rw [place, if_neg hlt, get?, get?, ih h']
      grind

@[simp] theorem get?_nil (key : String) : get? ([] : Dict α) key = none := rfl

theorem get?_insert (d : Dict α) (key : String) (value : α) (other : String) :
    (d.insert key value).get? other = if key = other then some value else d.get? other := by
  by_cases h : d.has key = true
  · rw [insert, if_pos h, get?_replace h]
  · rw [insert, if_neg h, get?_place (by simpa using h)]

@[simp] theorem get?_insert_self (d : Dict α) (key : String) (value : α) :
    (d.insert key value).get? key = some value := by
  simp [get?_insert]

theorem keys_replace (d : Dict α) (key : String) (value : α) :
    (d.replace key value).keys = d.keys := by
  induction d with
  | nil => rfl
  | cons e rest ih =>
    by_cases h : e.1 = key
    · simp [replace, keys, h]
    · simp only [replace, h, if_false, keys, List.map_cons] at *
      rw [ih]

theorem mem_keys_place (d : Dict α) (key : String) (value : α) (other : String) :
    other ∈ (d.place key value).keys ↔ other = key ∨ other ∈ d.keys := by
  induction d with
  | nil => simp [place, keys]
  | cons e rest ih =>
    by_cases h : key < e.1
    · simp [place, keys, h]
    · simp only [place, h, if_false, keys, List.map_cons, List.mem_cons] at *
      rw [ih]
      grind

theorem mem_keys_insert (d : Dict α) (key : String) (value : α) (other : String) :
    other ∈ (d.insert key value).keys ↔ other = key ∨ other ∈ d.keys := by
  by_cases h : d.has key = true
  · rw [insert, if_pos h, keys_replace]
    constructor
    · exact Or.inr
    · rintro (rfl | hm)
      · exact has_iff.1 h
      · exact hm
  · rw [insert, if_neg h, mem_keys_place]

theorem replace_replace (d : Dict α) (key : String) (a b : α) :
    (d.replace key a).replace key b = d.replace key b := by
  induction d with
  | nil => rfl
  | cons e rest ih => by_cases hk : e.1 = key <;> simp [replace, hk, ih]

theorem replace_place {d : Dict α} {key : String} (h : d.has key = false) (a b : α) :
    (d.place key a).replace key b = d.place key b := by
  induction d with
  | nil => simp [place, replace]
  | cons e rest ih =>
    by_cases hlt : key < e.1
    · simp [place, replace, hlt]
    · have hk : e.1 ≠ key := by
        intro hk
        simp [has, get?, hk] at h
      have h' : has rest key = false := by simpa [has, get?, hk] using h
      simp [place, replace, hlt, hk, ih h']

theorem insert_insert (d : Dict α) (key : String) (a b : α) :
    (d.insert key a).insert key b = d.insert key b := by
  have hhas : (d.insert key a).has key = true := by simp [has]
  rw [insert, if_pos hhas, insert, insert]
  split
  · exact replace_replace d key a b
  · rename_i h
    exact replace_place (by simpa using h) a b

theorem insert_get? {d : Dict α} {key : String} {value : α} (h : d.get? key = some value) :
    d.insert key value = d := by
  have hh : d.has key = true := by simp [has, h]
  rw [insert, if_pos hh]
  clear hh
  induction d with
  | nil => simp [get?] at h
  | cons e rest ih =>
    by_cases hk : e.1 = key
    · simp only [get?, hk, if_true, Option.some.injEq] at h
      obtain ⟨k, v⟩ := e
      simp_all [replace]
    · simp only [get?, hk, if_false] at h
      simp only [replace, hk, if_false, ih h]

theorem get?_erase (d : Dict α) (key other : String) :
    (d.erase key).get? other = if key = other then none else d.get? other := by
  induction d with
  | nil => simp [erase, get?]
  | cons e rest ih =>
    simp only [erase] at *
    by_cases hk : e.1 = key
    · by_cases ho : key = other
      · simp_all
      · have : e.1 ≠ other := fun hh => ho (hk.symm.trans hh)
        simp_all [get?]
    · by_cases ho : e.1 = other
      · have : key ≠ other := fun hh => hk (ho.trans hh.symm)
        simp_all [get?]
      · simp_all [get?]

/-! ## Keys -/

theorem get?_eq_none_iff {d : Dict α} {key : String} : d.get? key = none ↔ key ∉ d.keys := by
  rw [← has_iff, has]
  simp

theorem mem_keys_of_get? {d : Dict α} {key : String} {value : α} (h : d.get? key = some value) :
    key ∈ d.keys := by
  rw [← has_iff, has, h]
  rfl

theorem mem_of_get? {d : Dict α} {key : String} {value : α} (h : d.get? key = some value) :
    (key, value) ∈ d := by
  induction d with
  | nil => cases h
  | cons e rest ih =>
    rw [get?] at h
    split at h
    · rename_i hk
      cases h
      subst hk
      exact List.mem_cons_self
    · exact List.mem_cons_of_mem _ (ih h)

theorem get?_of_mem {d : Dict α} (hn : d.keys.Nodup) {key : String} {value : α}
    (h : (key, value) ∈ d) : d.get? key = some value := by
  induction d with
  | nil => cases h
  | cons e rest ih =>
    rw [keys, List.map_cons, List.nodup_cons] at hn
    rcases List.mem_cons.1 h with rfl | h
    · rw [get?, if_pos rfl]
    · have hne : e.1 ≠ key := by
        rintro rfl
        exact hn.1 (List.mem_map.2 ⟨_, h, rfl⟩)
      rw [get?, if_neg hne, ih hn.2 h]

theorem keys_insert_of_mem {d : Dict α} {key : String} (h : key ∈ d.keys) (value : α) :
    (d.insert key value).keys = d.keys := by
  rw [insert, if_pos (has_iff.2 h), keys_replace]

theorem keys_place_perm (d : Dict α) (key : String) (value : α) :
    (d.place key value).keys.Perm (key :: d.keys) := by
  induction d with
  | nil => exact .refl _
  | cons e rest ih =>
    by_cases h : key < e.1
    · simp [place, keys, h]
    · rw [place, if_neg h]
      exact (List.Perm.cons e.1 ih).trans (.swap key e.1 _)

theorem keys_insert_perm {d : Dict α} {key : String} (h : key ∉ d.keys) (value : α) :
    (d.insert key value).keys.Perm (key :: d.keys) := by
  rw [insert, if_neg (by rwa [has_iff])]
  exact keys_place_perm d key value

theorem nodup_keys_insert {d : Dict α} (h : d.keys.Nodup) (key : String) (value : α) :
    (d.insert key value).keys.Nodup := by
  by_cases hk : key ∈ d.keys
  · rwa [keys_insert_of_mem hk]
  · exact (keys_insert_perm hk value).nodup_iff.2 (List.nodup_cons.2 ⟨hk, h⟩)

theorem nodup_keys_erase {d : Dict α} (h : d.keys.Nodup) (key : String) :
    (d.erase key).keys.Nodup :=
  h.sublist (List.filter_sublist.map _)

@[simp] theorem keys_mapValues (f : α → β) (d : Dict α) : (d.mapValues f).keys = d.keys := by
  simp [mapValues, keys, Function.comp_def]

theorem get?_mapValues (f : α → β) (d : Dict α) (key : String) :
    (d.mapValues f).get? key = (d.get? key).map f := by
  induction d with
  | nil => rfl
  | cons e rest ih =>
    show (if e.1 = key then some (f e.2) else get? (mapValues f rest) key) = _
    rw [ih, get?]
    split <;> rfl

/-! ## Dictionaries of lists of entries -/

theorem mem_keys_insertAll (d : Dict α) (entries : List (String × α)) (key : String) :
    key ∈ (d.insertAll entries).keys ↔ key ∈ entries.map Prod.fst ∨ key ∈ d.keys := by
  induction entries generalizing d with
  | nil => simp [insertAll]
  | cons e rest ih =>
    have := ih (d.insert e.1 e.2)
    rw [mem_keys_insert] at this
    simp only [insertAll, List.foldl_cons, List.map_cons, List.mem_cons] at *
    rw [this]
    grind

theorem ofList_append_singleton (entries : List (String × α)) (last : String × α) :
    ofList (entries ++ [last]) = (ofList entries).insert last.1 last.2 := List.foldl_append

@[simp] theorem mem_keys_ofList (entries : List (String × α)) (key : String) :
    key ∈ (ofList entries).keys ↔ key ∈ entries.map Prod.fst := by
  rw [ofList, mem_keys_insertAll]
  simp [keys]

theorem keys_foldl_insert_perm {key : β → String} {value : Dict α → β → α} (d : Dict α)
    {items : List β} (hn : (items.map key).Nodup) (hd : ∀ k ∈ items.map key, k ∉ d.keys) :
    (items.foldl (fun d b => d.insert (key b) (value d b)) d).keys.Perm
      (items.map key ++ d.keys) := by
  induction items generalizing d with
  | nil => exact .refl _
  | cons b rest ih =>
    rw [List.map_cons, List.nodup_cons] at hn
    have hperm := keys_insert_perm (hd (key b) (by simp)) (value d b)
    have hrest : ∀ k ∈ rest.map key, k ∉ (d.insert (key b) (value d b)).keys := by
      intro k hk hin
      rcases List.mem_cons.1 (hperm.mem_iff.1 hin) with rfl | hin
      · exact hn.1 hk
      · exact hd k (by simp [hk]) hin
    refine (ih _ hn.2 hrest).trans ?_
    exact (hperm.append_left _).trans List.perm_middle

theorem keys_insertAll_perm (d : Dict α) {entries : List (String × α)}
    (hn : (entries.map Prod.fst).Nodup) (hd : ∀ key ∈ entries.map Prod.fst, key ∉ d.keys) :
    (d.insertAll entries).keys.Perm (entries.map Prod.fst ++ d.keys) :=
  keys_foldl_insert_perm d hn hd

theorem keys_ofList_perm {entries : List (String × α)} (h : (entries.map Prod.fst).Nodup) :
    (ofList entries).keys.Perm (entries.map Prod.fst) := by
  have := keys_insertAll_perm [] h (by simp [keys])
  rwa [show keys ([] : Dict α) = [] from rfl, List.append_nil] at this

theorem mem_of_get?_insertAll {d : Dict α} {entries : List (String × α)} {key : String} {value : α}
    (h : (d.insertAll entries).get? key = some value) :
    (key, value) ∈ entries ∨ d.get? key = some value := by
  induction entries generalizing d with
  | nil => exact .inr h
  | cons e rest ih =>
    rcases ih h with h | h
    · exact .inl (List.mem_cons_of_mem _ h)
    · rw [get?_insert] at h
      split at h
      · rename_i hk
        left
        cases h
        subst hk
        exact List.mem_cons_self
      · exact .inr h

theorem mem_of_get?_ofList {entries : List (String × α)} {key : String} {value : α}
    (h : (ofList entries).get? key = some value) : (key, value) ∈ entries := by
  rcases mem_of_get?_insertAll h with h | h
  · exact h
  · cases h

theorem get?_insertAll_of_notMem {d : Dict α} {entries : List (String × α)} {key : String}
    (h : key ∉ entries.map Prod.fst) : (d.insertAll entries).get? key = d.get? key := by
  induction entries generalizing d with
  | nil => rfl
  | cons e rest ih =>
    rw [List.map_cons, List.mem_cons, not_or] at h
    rw [insertAll, List.foldl_cons, ← insertAll, ih h.2, get?_insert, if_neg (Ne.symm h.1)]

theorem get?_insertAll_of_mem {d : Dict α} {entries : List (String × α)}
    (hn : (entries.map Prod.fst).Nodup) {key : String} {value : α} (h : (key, value) ∈ entries) :
    (d.insertAll entries).get? key = some value := by
  induction entries generalizing d with
  | nil => cases h
  | cons e rest ih =>
    rw [List.map_cons, List.nodup_cons] at hn
    rw [insertAll, List.foldl_cons, ← insertAll]
    rcases List.mem_cons.1 h with rfl | h
    · rw [get?_insertAll_of_notMem hn.1, get?_insert_self]
    · exact ih hn.2 h

theorem get?_ofList_eq_some_iff {entries : List (String × α)} (hn : (entries.map Prod.fst).Nodup)
    {key : String} {value : α} : (ofList entries).get? key = some value ↔ (key, value) ∈ entries :=
  ⟨mem_of_get?_ofList, get?_insertAll_of_mem hn⟩

theorem get?_ofList_filter {entries : List (String × α)} (hn : (entries.map Prod.fst).Nodup)
    {key : String} {value : α} (h : (key, value) ∈ entries) (test : String × α → Bool) :
    (ofList (entries.filter test)).get? key =
      if test (key, value) then some value else none := by
  have hn' : ((entries.filter test).map Prod.fst).Nodup :=
    hn.sublist (List.filter_sublist.map _)
  split
  · rename_i htest
    exact (get?_ofList_eq_some_iff hn').2 (List.mem_filter.2 ⟨h, htest⟩)
  · rename_i htest
    refine Option.eq_none_iff_forall_ne_some.2 fun other hother => htest ?_
    obtain ⟨hmem, htest'⟩ := List.mem_filter.1 ((get?_ofList_eq_some_iff hn').1 hother)
    have heq : some other = some value := (get?_of_mem hn hmem).symm.trans (get?_of_mem hn h)
    rwa [Option.some.inj heq] at htest'

end Dict

end FormEngine
