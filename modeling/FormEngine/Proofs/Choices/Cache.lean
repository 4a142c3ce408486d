import FormEngine.Choices.Cache

/-!
# Answers from the cache

A cached loader is asked again and again, over a loader whose answers depend on the request alone.
What it keeps are answers to earlier requests (`ChoiceCache.Holds`), so every call gives the answer
to a request with the same key. That is the answer to the request itself if requests that share a
key have one answer; the key leaves out how choices are taken from a response, so requests for one
address with different labels do not (`cached_loader_mixes_labels`).
-/

namespace FormEngine.ChoiceCache

variable {σ : Type} {inner : ChoiceLoader σ}
  {answer : ChoiceRequest → Except ChoiceError (List Choice)}

/-! ## Calls -/

/-- The cache and the host after some calls, each a request and its time. -/
def afterCalls (inner : ChoiceLoader σ) (state : ChoiceCache × σ)
    (calls : List (ChoiceRequest × Nat)) : ChoiceCache × σ :=
  calls.foldl (fun state call => (loader inner call.2 call.1 state).2) state

/-- The cache holds answers to some of the requests, under their keys. -/
def Holds (c : ChoiceCache) (answer : ChoiceRequest → Except ChoiceError (List Choice))
    (asked : List ChoiceRequest) : Prop :=
  ∀ key e, c.entries.get? key = some e →
    ∃ r ∈ asked, r.key = key ∧ answer r = .ok e.choices

theorem holds_empty (ttl : Nat) (asked : List ChoiceRequest) : Holds ⟨ttl, []⟩ answer asked := by
  intro key e he
  cases he

variable {c : ChoiceCache} {asked : List ChoiceRequest} {host : σ}

theorem Holds.mono (h : c.Holds answer asked) {more : List ChoiceRequest} (hsub : asked ⊆ more) :
    c.Holds answer more := by
  intro key e he
  obtain ⟨r, hr, hkey, hanswer⟩ := h key e he
  exact ⟨r, hsub hr, hkey, hanswer⟩

theorem Holds.insert (h : c.Holds answer asked) {r : ChoiceRequest} {choices : List Choice}
    (hanswer : answer r = .ok choices) (now : Nat) :
    (c.insert r choices now).Holds answer (r :: asked) := by
  intro key e he
  unfold ChoiceCache.insert at he
  rw [Dict.get?_insert] at he
  split at he
  · cases he
    exact ⟨r, List.mem_cons_self, ‹_›, hanswer⟩
  · exact h.mono (List.subset_cons_self _ _) key e he

theorem Holds.get? (h : c.Holds answer asked) {r : ChoiceRequest} {now : Nat}
    {choices : List Choice} (hget : c.get? r now = some choices) :
    ∃ r' ∈ asked, r'.key = r.key ∧ answer r' = .ok choices := by
  unfold ChoiceCache.get? at hget
  obtain ⟨e, he, rfl⟩ := Option.map_eq_some_iff.1 hget
  exact h r.key e (Option.filter_eq_some_iff.1 he).1

section Calls

variable {r : ChoiceRequest} {now : Nat} {choices : List Choice}

theorem loader_hit (h : c.get? r now = some choices) :
    loader inner now r (c, host) = (.ok choices, (c, host)) := by
  simp only [loader, h]

theorem loader_miss {host' : σ} (h : c.get? r now = none)
    (hcall : inner r host = (.ok choices, host')) :
    loader inner now r (c, host) = (.ok choices, (c.insert r choices now, host')) := by
  simp only [loader, h, hcall]

theorem loader_failed {e : ChoiceError} {host' : σ} (h : c.get? r now = none)
    (hcall : inner r host = (.error e, host')) :
    loader inner now r (c, host) = (.error e, (c, host')) := by
  simp only [loader, h, hcall]

theorem answer_of_miss (h : c.get? r now = none) :
    (loader inner now r (c, host)).1 = (inner r host).1 := by
  cases hcall : inner r host with
  | mk result host' =>
    cases result with
    | ok choices => rw [loader_miss h hcall]
    | error e => rw [loader_failed h hcall]

end Calls

theorem Holds.answer_loader (hinner : ∀ r host, (inner r host).1 = answer r)
    (h : c.Holds answer asked) (r : ChoiceRequest) (now : Nat) :
    (loader inner now r (c, host)).1 = answer r ∨
      ∃ r' ∈ asked, ∃ choices, r'.key = r.key ∧ answer r' = .ok choices ∧
        (loader inner now r (c, host)).1 = .ok choices := by
  cases hget : c.get? r now with
  | some choices =>
    obtain ⟨r', hr', hkey, hanswer⟩ := h.get? hget
    exact .inr ⟨r', hr', choices, hkey, hanswer, by rw [loader_hit hget]⟩
  | none => exact .inl ((answer_of_miss hget).trans (hinner r host))

/-- After a call the cache holds answers to its request and to those before. -/
theorem Holds.after_loader (hinner : ∀ r host, (inner r host).1 = answer r)
    (h : c.Holds answer asked) (r : ChoiceRequest) (now : Nat) :
    (loader inner now r (c, host)).2.1.Holds answer (r :: asked) := by
  have hkept : c.Holds answer (r :: asked) := h.mono (List.subset_cons_self _ _)
  cases hget : c.get? r now with
  | some choices =>
    rw [loader_hit hget]
    exact hkept
  | none =>
    have hresult := hinner r host
    cases hcall : inner r host with
    | mk result host' =>
      rw [hcall] at hresult
      cases result with
      | ok choices =>
        rw [loader_miss hget hcall]
        exact h.insert hresult.symm now
      | error e =>
        rw [loader_failed hget hcall]
        exact hkept

theorem ttl_loader (inner : ChoiceLoader σ) (now : Nat) (r : ChoiceRequest) (c : ChoiceCache)
    (host : σ) : (loader inner now r (c, host)).2.1.ttl = c.ttl := by
  cases hget : c.get? r now with
  | some choices => rw [loader_hit hget]
  | none =>
    cases hcall : inner r host with
    | mk result host' =>
      cases result with
      | ok choices =>
        rw [loader_miss hget hcall]
        rfl
      | error e => rw [loader_failed hget hcall]

theorem get?_of_ttl_eq_zero (h : c.ttl = 0) (r : ChoiceRequest) (now : Nat) :
    c.get? r now = none := by
  simp [ChoiceCache.get?, isFresh, h]

/-! ## Histories -/

theorem holds_afterCalls (hinner : ∀ r host, (inner r host).1 = answer r)
    {state : ChoiceCache × σ} (h : state.1.Holds answer asked)
    (calls : List (ChoiceRequest × Nat)) :
    (afterCalls inner state calls).1.Holds answer (calls.map (·.1) ++ asked) := by
  induction calls generalizing state asked with
  | nil => exact h
  | cons call rest ih =>
    have hfirst := @Holds.after_loader σ inner answer state.1 asked state.2 hinner h call.1 call.2
    refine (ih hfirst).mono fun r hr => ?_
    simp only [List.map_cons, List.mem_append, List.mem_cons] at hr ⊢
    rcases hr with hr | rfl | hr
    · exact .inl (.inr hr)
    · exact .inl (.inl rfl)
    · exact .inr hr

/-- After any calls, a call gives the answer to its request, or choices that answer an earlier one
with the same key. -/
theorem answer_afterCalls (hinner : ∀ r host, (inner r host).1 = answer r) (ttl : Nat) (host : σ)
    (before : List (ChoiceRequest × Nat)) (r : ChoiceRequest) (now : Nat) :
    (loader inner now r (afterCalls inner (⟨ttl, []⟩, host) before)).1 = answer r ∨
      ∃ r' ∈ before.map (·.1), ∃ choices, r'.key = r.key ∧ answer r' = .ok choices ∧
        (loader inner now r (afterCalls inner (⟨ttl, []⟩, host) before)).1 = .ok choices := by
  have hholds : (afterCalls inner (⟨ttl, []⟩, host) before).1.Holds answer
      (before.map (·.1) ++ []) := holds_afterCalls hinner (holds_empty ttl []) before
  rw [List.append_nil] at hholds
  exact hholds.answer_loader hinner r now

theorem ttl_afterCalls (inner : ChoiceLoader σ) (state : ChoiceCache × σ)
    (calls : List (ChoiceRequest × Nat)) :
    (afterCalls inner state calls).1.ttl = state.1.ttl := by
  induction calls generalizing state with
  | nil => rfl
  | cons call rest ih => exact (ih _).trans (ttl_loader ..)

/-- At the time of a call, a request with the same key gets the same choices. -/
theorem loader_of_key_eq {r r' : ChoiceRequest} {ttl : Nat} (httl : 0 < ttl)
    (hkey : r.key = r'.key) {choices : List Choice} (h : (inner r host).1 = .ok choices) :
    (loader inner 0 r' (afterCalls inner (⟨ttl, []⟩, host) [(r, 0)])).1 = .ok choices := by
  have hcall : inner r host = (.ok choices, (inner r host).2) := Prod.ext h rfl
  have hfirst : afterCalls inner (⟨ttl, []⟩, host) [(r, 0)] =
      (ChoiceCache.insert ⟨ttl, []⟩ r choices 0, (inner r host).2) :=
    congrArg Prod.snd (loader_miss rfl hcall)
  have hget : (ChoiceCache.insert ⟨ttl, []⟩ r choices 0).get? r' 0 = some choices := by
    have hself := get?_insert_self ⟨ttl, []⟩ r choices 0 httl
    unfold ChoiceCache.get? at hself ⊢
    rwa [hkey] at hself
  rw [hfirst, loader_hit hget]

/-- The answers of a cached loader, over one whose answers depend on the request alone. After any
calls, it answers a request as the inner loader does, or with the choices of an earlier request with
the same key. It always answers as the inner loader does exactly if it keeps nothing, or if requests
with one key have the same choices. -/
theorem cached_answers (hinner : ∀ r host, (inner r host).1 = answer r) (ttl : Nat) (host : σ) :
    (∀ before r now,
      (loader inner now r (afterCalls inner (⟨ttl, []⟩, host) before)).1 = answer r ∨
      ∃ r' ∈ before.map (·.1), ∃ choices, r'.key = r.key ∧ answer r' = .ok choices ∧
        (loader inner now r (afterCalls inner (⟨ttl, []⟩, host) before)).1 = .ok choices) ∧
    ((∀ before r now,
        (loader inner now r (afterCalls inner (⟨ttl, []⟩, host) before)).1 = answer r) ↔
      ttl = 0 ∨ ∀ r r' choices, r.key = r'.key → answer r = .ok choices →
        answer r' = .ok choices) := by
  refine ⟨answer_afterCalls hinner ttl host, fun h => ?_, ?_⟩
  · rcases Nat.eq_zero_or_pos ttl with hzero | hpos
    · exact .inl hzero
    · refine .inr fun r r' choices hkey hr => ?_
      rw [← h [(r, 0)] r' 0]
      exact loader_of_key_eq hpos hkey ((hinner r host).trans hr)
  · rintro (rfl | hsame) before r now
    · have hnone := get?_of_ttl_eq_zero (ttl_afterCalls inner (⟨0, []⟩, host) before) r now
      exact (answer_of_miss hnone).trans (hinner r _)
    · rcases answer_afterCalls hinner ttl host before r now with
        h | ⟨r', -, choices, hkey, hanswer, hresult⟩
      · exact h
      · exact hresult.trans (hsame r' r choices hkey hanswer).symm

/-! ## Labels under one address -/

/-- A request for the cities of an address, labelled by one of their keys. -/
def citiesRequest (field labelKey : String) : ChoiceRequest where
  field := field
  url := "https://geo.test/cities"
  method := "GET"
  headers := []
  body := none
  itemsPath := none
  labelKey := labelKey
  valueKey := "code"

def cities : Value := .array [.object [("code", .string "PAR"), ("name", .string "Paris")]]

/-- A host that answers every request from the same response. -/
def citiesLoader : ChoiceLoader Unit := fun r host => (.ok (r.extract cities), host)

/-- The labels of the choices of an answer. -/
def labels (result : Except ChoiceError (List Choice)) : List String :=
  (result.toOption.getD []).map (·.label)

/-- Asked for the cities by name and then by code, the cached loader gives the names twice. -/
theorem cached_loader_mixes_labels :
    labels (loader citiesLoader 0 (citiesRequest "city_code" "code")
        (afterCalls citiesLoader (⟨1000, []⟩, ()) [(citiesRequest "city" "name", 0)])).1 =
      ["Paris"] ∧
    labels (citiesLoader (citiesRequest "city_code" "code") ()).1 = ["PAR"] := by
  have hsecond := loader_of_key_eq (show 0 < 1000 by decide)
    (show (citiesRequest "city" "name").key = (citiesRequest "city_code" "code").key from rfl)
    (show (citiesLoader (citiesRequest "city" "name") ()).1 = .ok _ from rfl)
  rw [hsecond]
  exact ⟨by decide +kernel, by decide +kernel⟩

/-- That is why the loader of cities cannot be cached for any time, and can be for none. -/
theorem citiesLoader_answers :
    (∀ before r now, (loader citiesLoader now r
      (afterCalls citiesLoader (⟨0, []⟩, ()) before)).1 = .ok (r.extract cities)) ∧
    ¬ ∀ before r now, (loader citiesLoader now r
      (afterCalls citiesLoader (⟨1000, []⟩, ()) before)).1 = .ok (r.extract cities) := by
  have hinner : ∀ r host, (citiesLoader r host).1 = .ok (r.extract cities) := fun _ _ => rfl
  refine ⟨(cached_answers hinner 0 ()).2.2 (.inl rfl), fun h => ?_⟩
  rcases (cached_answers hinner 1000 ()).2.1 h with h | h
  · cases h
  · have hlabels := congrArg labels (h (citiesRequest "city" "name")
      (citiesRequest "city_code" "code") _ rfl rfl)
    revert hlabels
    decide +kernel

end FormEngine.ChoiceCache
