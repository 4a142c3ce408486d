import FormEngine.Proofs.Choices.Loading
import FormEngine.Proofs.Session.Set

/-!
# Patches

A patch fails for its text or at one of its entries (`patch_error_iff`). One that succeeds leads
where setting its fields in the order of their keys leads, and calls for one request for each field
whose choices depend on them (`patched_of_patch`).
-/

namespace FormEngine

/-! ## Documents -/

namespace Value

theorem map_fst_normalizeMembers (members : List (String × Value)) :
    (normalizeMembers members).map Prod.fst = members.map Prod.fst := by
  induction members with
  | nil => rfl
  | cons m rest ih => rw [normalizeMembers, List.map_cons, List.map_cons, ih]

end Value

/-- An object is read from an object as written: its keys are those written, in order. -/
theorem Json.keys_of_read? {text : String} {entries : List (String × Value)}
    (h : Json.read? text = some (.object entries)) :
    ∃ members, Json.parse? text = some (.object members) ∧
      (∀ key, key ∈ Dict.keys entries ↔ key ∈ members.map Prod.fst) ∧
      Dict.Sorted entries := by
  obtain ⟨v, hv, heq⟩ := Option.map_eq_some_iff.1 h
  cases v with
  | object members =>
    cases heq
    refine ⟨members, hv, fun key => ?_, Dict.sorted_ofList _⟩
    rw [Dict.mem_keys_ofList, Value.map_fst_normalizeMembers]
  | _ => cases heq

namespace Session

/-! ## Requests -/

theorem mem_of_mem_onePerField {l : List ChoiceRequest} {r : ChoiceRequest}
    (h : r ∈ onePerField l) : r ∈ l := by
  induction l with
  | nil => exact h
  | cons first rest ih =>
    rcases List.mem_cons.1 h with rfl | h
    · exact List.mem_cons_self
    · exact List.mem_cons_of_mem _ (ih (List.mem_filter.1 h).1)

theorem nodup_onePerField (l : List ChoiceRequest) : ((onePerField l).map (·.field)).Nodup := by
  induction l with
  | nil => exact List.nodup_nil
  | cons first rest ih =>
    rw [onePerField, List.map_cons, List.nodup_cons]
    refine ⟨fun hmem => ?_, ih.sublist (List.filter_sublist.map _)⟩
    obtain ⟨other, hother, heq⟩ := List.mem_map.1 hmem
    simpa [heq] using (List.mem_filter.1 hother).2

/-- Where the field determines the request, none is lost. -/
theorem mem_onePerField {l : List ChoiceRequest} {r : ChoiceRequest}
    (hfield : ∀ a ∈ l, ∀ b ∈ l, a.field = b.field → a = b) :
    r ∈ onePerField l ↔ r ∈ l := by
  refine ⟨mem_of_mem_onePerField, fun h => ?_⟩
  induction l with
  | nil => exact h
  | cons first rest ih =>
    rw [onePerField]
    by_cases heq : r.field = first.field
    · rw [hfield r h first List.mem_cons_self heq]
      exact List.mem_cons_self
    · have hrest : r ∈ rest := (List.mem_cons.1 h).resolve_left fun hr => heq (by rw [hr])
      have hmem := ih (fun a ha b hb => hfield a (List.mem_cons_of_mem _ ha) b
        (List.mem_cons_of_mem _ hb)) hrest
      exact List.mem_cons_of_mem _ (List.mem_filter.2 ⟨hmem, by simpa using heq⟩)

variable {s t : Session}

/-! ## Entries -/

/-- Why a patch fails: its text is no document or no object, or has no entry, or one of its fields
cannot be set after those before it. -/
inductive PatchFails (s : Session) (text : String) : SessionError → Prop where
  | unreadable (h : Json.read? text = none) : PatchFails s text .json
  | notAnObject {v : Value} (h : Json.read? text = some v) (hv : ∀ entries, v ≠ .object entries) :
      PatchFails s text (.invalidPatch .notAnObject)
  | empty (h : Json.read? text = some (.object [])) : PatchFails s text (.invalidPatch .empty)
  | entry {entries : List (String × Value)} {e : SessionError}
      (h : Json.read? text = some (.object entries)) (hentries : SetAllFails e s entries) :
      PatchFails s text e

theorem patchEntries_eq (text : String) :
    patchEntries text = match Json.read? text with
      | none => .error .json
      | some (.object []) => .error (.invalidPatch .empty)
      | some (.object entries) => .ok entries
      | some _ => .error (.invalidPatch .notAnObject) := by
  unfold patchEntries document
  cases Json.read? text with
  | none => rfl
  | some v =>
    cases v with
    | object entries => cases entries <;> rfl
    | _ => rfl

theorem patchEntries_eq_ok_iff {text : String} {entries : Dict Value} :
    patchEntries text = .ok entries ↔
      Json.read? text = some (.object entries) ∧ entries ≠ [] := by
  rw [patchEntries_eq]
  constructor
  · intro h
    split at h <;> cases h
    rename_i hne hread
    exact ⟨hread, hne⟩
  · rintro ⟨hread, hne⟩
    rw [hread]
    cases entries with
    | nil => exact absurd rfl hne
    | cons entry rest => rfl

/-- A text without entries to set is a fault of the patch itself. -/
theorem patchFails_of_patchEntries {text : String} {e : SessionError}
    (h : patchEntries text = .error e) : PatchFails s text e := by
  rw [patchEntries_eq] at h
  split at h <;> cases h <;> rename_i hread
  · exact .unreadable hread
  · exact .empty hread
  · rename_i v hany
    exact .notAnObject hread hany

theorem patch_error_iff {text : String} {e : SessionError} :
    (s.patch text).1 = .error e ↔ s.PatchFails text e := by
  unfold patch
  rw [commit_error_iff, bind_eq_error_iff]
  constructor
  · rintro (h | ⟨entries, hentries, h⟩)
    · exact patchFails_of_patchEntries h
    · rcases bind_eq_error_iff.1 h with h | ⟨next, -, h⟩
      · exact .entry (patchEntries_eq_ok_iff.1 hentries).1 (editAll_error_iff.1 h)
      · cases h
  · intro h
    cases h with
    | unreadable h => exact .inl (by rw [patchEntries_eq, h])
    | @notAnObject v h hv =>
      refine .inl ?_
      rw [patchEntries_eq, h]
      cases v with
      | object entries => exact absurd rfl (hv entries)
      | _ => rfl
    | empty h => exact .inl (by rw [patchEntries_eq, h])
    | @entry entries e h hentries =>
      have hne : entries ≠ [] := by
        rintro rfl
        cases hentries
      exact .inr ⟨entries, patchEntries_eq_ok_iff.2 ⟨h, hne⟩,
        bind_eq_error_iff.2 (.inl (editAll_error_iff.2 hentries))⟩

/-! ## Patches that succeed -/

/-- What a patch does that succeeds: it sets the fields of its keys in order, each of them once, and
calls for one request for each field whose choices depend on them. -/
structure Patched (s : Session) (text : String) (o : PatchOutcome) (t : Session) : Prop where
  keys : ∃ members, Json.parse? text = some (.object members) ∧ members ≠ [] ∧
    ∀ key, key ∈ o.changed ↔ key ∈ members.map Prod.fst
  sorted : o.changed.Pairwise (· < ·)
  sets : ∃ entries, Json.read? text = some (.object entries) ∧ o.changed = Dict.keys entries ∧
    SetAll s entries t
  fields : (o.requests.map (·.field)).Nodup
  requests : ∀ r, r ∈ o.requests ↔ ∃ key ∈ o.changed, r ∈ t.snapshot.pendingRequests key

theorem patch_eq_of_reply {text : String} {o : PatchOutcome} (h : (s.patch text).1 = .ok o) :
    s.patch text = (.ok o, (s.patch text).2) := Prod.ext h rfl

theorem patched_of_patch {text : String} {o : PatchOutcome} (h : s.patch text = (.ok o, t)) :
    s.Patched text o t := by
  obtain ⟨next, hdone, rfl⟩ := commit_eq_ok_iff.1 h
  obtain ⟨entries, hentries, hdone⟩ := bind_eq_ok_iff.1 hdone
  obtain ⟨_, hnext, hdone⟩ := bind_eq_ok_iff.1 hdone
  cases hdone
  obtain ⟨hread, hne⟩ := patchEntries_eq_ok_iff.1 hentries
  obtain ⟨members, hparse, hkeys, hsorted⟩ := Json.keys_of_read? hread
  refine ⟨⟨members, hparse, ?_, hkeys⟩, Dict.sorted_iff_keys.1 hsorted,
    ⟨entries, hread, rfl, editAll_eq_ok_iff.1 hnext⟩, nodup_onePerField _, fun r => ?_⟩
  · rintro rfl
    cases entries with
    | nil => exact hne rfl
    | cons entry rest => simpa [Dict.keys] using (hkeys entry.1).1 List.mem_cons_self
  · rw [mem_onePerField, List.mem_flatMap]
    intro a ha b hb hfield
    obtain ⟨_, -, ha⟩ := List.mem_flatMap.1 ha
    obtain ⟨_, -, hb⟩ := List.mem_flatMap.1 hb
    have hfound := Snapshot.field?_of_mem_pendingRequests ha
    rw [hfield, Snapshot.field?_of_mem_pendingRequests hb] at hfound
    exact (Option.some.inj hfound).symm

end Session

end FormEngine
