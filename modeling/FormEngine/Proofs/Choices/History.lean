import FormEngine.Proofs.Choices.Cache
import FormEngine.Proofs.Dict.Order

/-!
# Histories of a cache

Choices are stored in a cache, fetched through it and dropped from it, at times that may go back.
An operation stores one entry, drops entries or does nothing to them (`Operation.event?`), and the
entry under a key is the latest that was stored there, as long as no event ends it
(`get?_run_iff`). So what a cache answers follows from its history, and between two calls of the
loader behind it for one key lies at least the time that choices are kept (`answers_from_history`).
-/

namespace FormEngine.ChoiceCache

variable {σ : Type}

/-- What is done with a cache in front of a loader. -/
inductive Operation where
  | insert (r : ChoiceRequest) (choices : List Choice) (now : Nat)
  | fetch (r : ChoiceRequest) (now : Nat)
  | invalidate (lead : String)
  | purge (now : Nat)
  | clear

/-- What an operation replies. -/
inductive Reply where
  | nothing
  | answer (result : Except ChoiceError (List Choice))
  | count (n : Nat)

/-- What happens to the entries of a cache. -/
inductive Event where
  | stored (key : String) (e : CacheEntry)
  | invalidated (lead : String)
  | purged (now : Nat)
  | cleared

/-- After the event, an entry that stood under a key does not stand there any more. -/
def Event.Ends (ttl : Nat) (key : String) (e : CacheEntry) : Event → Prop
  | .stored other _ => other = key
  | .invalidated lead => lead.toList <+: e.url.toList
  | .purged now => ttl ≤ now - e.storedAt
  | .cleared => True

instance (ttl : Nat) (key : String) (e : CacheEntry) : (x : Event) → Decidable (x.Ends ttl key e)
  | .stored other _ => inferInstanceAs (Decidable (other = key))
  | .invalidated lead => inferInstanceAs (Decidable (lead.toList <+: e.url.toList))
  | .purged now => inferInstanceAs (Decidable (ttl ≤ now - e.storedAt))
  | .cleared => inferInstanceAs (Decidable True)

namespace Operation

/-- The reply of an operation, with the cache and the host after it. -/
def perform (inner : ChoiceLoader σ) : Operation → ChoiceCache × σ → Reply × (ChoiceCache × σ)
  | .insert r choices now, (c, host) => (.nothing, c.insert r choices now, host)
  | .fetch r now, state =>
    let (result, after) := loader inner now r state
    (.answer result, after)
  | .invalidate lead, (c, host) => (.count (c.dropped (c.invalidate lead)), c.invalidate lead, host)
  | .purge now, (c, host) => (.count (c.dropped (c.purge now)), c.purge now, host)
  | .clear, (c, host) => (.nothing, c.clear, host)

/-- The event that an operation is. What is fetched is stored when the cache does not have it and
the loader behind it does. -/
def event? (inner : ChoiceLoader σ) : Operation → ChoiceCache × σ → Option Event
  | .insert r choices now, _ => some (.stored r.key ⟨r.url, choices, now⟩)
  | .fetch r now, (c, host) =>
    match c.get? r now, (inner r host).1 with
    | none, .ok choices => some (.stored r.key ⟨r.url, choices, now⟩)
    | _, _ => none
  | .invalidate lead, _ => some (.invalidated lead)
  | .purge now, _ => some (.purged now)
  | .clear, _ => some .cleared

def time? : Operation → Option Nat
  | .insert _ _ now => some now
  | .fetch _ now => some now
  | .purge now => some now
  | .invalidate _ | .clear => none

end Operation

/-- The cache and the host after some operations. -/
def run (inner : ChoiceLoader σ) (state : ChoiceCache × σ) (ops : List Operation) :
    ChoiceCache × σ :=
  ops.foldl (fun state op => (op.perform inner state).2) state

/-- The events of some operations. -/
def events (inner : ChoiceLoader σ) : ChoiceCache × σ → List Operation → List Event
  | _, [] => []
  | state, op :: rest =>
    (op.event? inner state).toList ++ events inner (op.perform inner state).2 rest

/-- The latest entry stored under a key, when no later event ends it. -/
def Latest (ttl : Nat) (key : String) (e : CacheEntry) (history : List Event) : Prop :=
  ∃ before after, history = before ++ .stored key e :: after ∧ ∀ x ∈ after, ¬ x.Ends ttl key e

/-- Times do not go back. -/
def Timely (ops : List Operation) : Prop := (ops.filterMap Operation.time?).Pairwise (· ≤ ·)

instance (ops : List Operation) : Decidable (Timely ops) :=
  inferInstanceAs (Decidable ((ops.filterMap Operation.time?).Pairwise (· ≤ ·)))

/-- The keys that stand in the first cache and not in the second. -/
def lostKeys (before after : ChoiceCache) : List String :=
  before.entries.keys.filter fun key => !after.entries.has key

/-- A loader that notes what it is asked. -/
def noting (inner : ChoiceLoader σ) : ChoiceLoader (σ × List ChoiceRequest) :=
  fun r (host, asked) => ((inner r host).1, (inner r host).2, asked ++ [r])

variable {inner : ChoiceLoader σ} {c : ChoiceCache} {host : σ} {state : ChoiceCache × σ}
  {ttl now : Nat} {key : String} {e : CacheEntry} {r : ChoiceRequest} {choices : List Choice}

/-! ## Entries -/

theorem get?_eq_some_iff : c.get? r now = some choices ↔
    ∃ e, c.entries.get? r.key = some e ∧ now - e.storedAt < c.ttl ∧ e.choices = choices := by
  simp only [get?, isFresh, Option.map_eq_some_iff, Option.filter_eq_some_iff, decide_eq_true_eq,
    and_assoc]

theorem get?_keep (h : c.entries.Sorted) (test : CacheEntry → Bool) (key : String) :
    (c.keep test).entries.get? key = (c.entries.get? key).filter test :=
  Dict.get?_filter h.nodup_keys test key

theorem get?_entries_insert_iff : (c.insert r choices now).entries.get? key = some e ↔
    Event.stored r.key ⟨r.url, choices, now⟩ = .stored key e ∨
      c.entries.get? key = some e ∧ ¬ r.key = key := by
  unfold ChoiceCache.insert
  rw [Dict.get?_insert]
  split <;> simp_all

theorem dropped_keep (h : c.entries.Sorted) (test : CacheEntry → Bool) :
    c.dropped (c.keep test) = (c.lostKeys (c.keep test)).length := by
  have hlost : c.lostKeys (c.keep test) =
      (c.entries.filter fun entry => !test entry.2).map Prod.fst := by
    unfold lostKeys Dict.keys
    rw [List.filter_map]
    refine congrArg _ (List.filter_congr fun entry hentry => ?_)
    rw [Function.comp_apply, Dict.has, get?_keep h, h.mem_iff.1 hentry]
    cases htest : test entry.2 <;> simp [Option.filter, htest]
  have hlength := List.length_eq_length_filter_add (l := c.entries) fun entry => test entry.2
  rw [hlost, List.length_map]
  show c.entries.length - (c.entries.filter fun entry => test entry.2).length = _
  omega

/-! ## One operation -/

/-- The cache with the answer to a request; a failure is not kept. -/
def withAnswer (c : ChoiceCache) (r : ChoiceRequest) (now : Nat) :
    Except ChoiceError (List Choice) → ChoiceCache
  | .ok choices => c.insert r choices now
  | .error _ => c

namespace Operation

variable (inner)

theorem perform_fetch_of_hit (host : σ) (h : c.get? r now = some choices) :
    (fetch r now).perform inner (c, host) = (.answer (.ok choices), c, host) := by
  rw [perform, loader_hit h]

theorem perform_fetch_of_miss (host : σ) (h : c.get? r now = none) :
    (fetch r now).perform inner (c, host) =
      (.answer (inner r host).1, c.withAnswer r now (inner r host).1, (inner r host).2) := by
  rw [perform]
  cases hcall : inner r host with
  | mk result host' =>
    cases result with
    | ok choices =>
      rw [loader_miss h hcall]
      rfl
    | error e =>
      rw [loader_failed h hcall]
      rfl

theorem sorted_perform (h : state.1.entries.Sorted) (op : Operation) :
    (op.perform inner state).2.1.entries.Sorted ∧
      (op.perform inner state).2.1.ttl = state.1.ttl := by
  obtain ⟨c, host⟩ := state
  cases op with
  | insert r choices now => exact ⟨h.insert _ _, rfl⟩
  | fetch r now =>
    cases hget : c.get? r now with
    | some choices => exact perform_fetch_of_hit inner host hget ▸ ⟨h, rfl⟩
    | none =>
      rw [perform_fetch_of_miss inner host hget]
      cases (inner r host).1 with
      | ok choices => exact ⟨h.insert _ _, rfl⟩
      | error e => exact ⟨h, rfl⟩
  | invalidate lead | purge now => exact ⟨h.sublist List.filter_sublist, rfl⟩
  | clear => exact ⟨List.Pairwise.nil, rfl⟩

/-- The entry under a key after an operation is the one it stores there, or the one that was there
and that it does not end. -/
theorem get?_perform_iff (h : state.1.entries.Sorted) (op : Operation) :
    (op.perform inner state).2.1.entries.get? key = some e ↔
      op.event? inner state = some (.stored key e) ∨
        state.1.entries.get? key = some e ∧
          ∀ x, op.event? inner state = some x → ¬ x.Ends state.1.ttl key e := by
  obtain ⟨c, host⟩ := state
  cases op with
  | insert r choices now =>
    refine get?_entries_insert_iff.trans ?_
    simp [event?, Event.Ends]
  | fetch r now =>
    cases hget : c.get? r now with
    | some choices =>
      rw [perform_fetch_of_hit inner host hget]
      simp [event?, hget]
    | none =>
      rw [perform_fetch_of_miss inner host hget]
      cases hcall : (inner r host).1 with
      | ok choices =>
        refine get?_entries_insert_iff.trans ?_
        simp [event?, hget, hcall, Event.Ends]
      | error failure => simp [event?, hget, hcall, withAnswer]
  | invalidate lead =>
    have hends : (!Text.startsWith e.url lead) = true ↔ ¬ lead.toList <+: e.url.toList := by
      rw [Bool.not_eq_true', ← Bool.not_eq_true, Text.startsWith, List.isPrefixOf_iff_prefix]
    show (c.keep _).entries.get? key = some e ↔ _
    rw [get?_keep h, Option.filter_eq_some_iff, hends]
    simp [event?, Event.Ends]
  | purge now =>
    show (c.keep _).entries.get? key = some e ↔ _
    rw [get?_keep h, Option.filter_eq_some_iff]
    simp [event?, Event.Ends, isFresh]
  | clear => simp [perform, event?, Event.Ends, ChoiceCache.clear]

end Operation

/-! ## Histories -/

section Histories

variable (inner)

theorem run_append (before after : List Operation) :
    run inner state (before ++ after) = run inner (run inner state before) after :=
  List.foldl_append

theorem sorted_run (h : state.1.entries.Sorted) (ops : List Operation) :
    (run inner state ops).1.entries.Sorted ∧ (run inner state ops).1.ttl = state.1.ttl := by
  induction ops generalizing state with
  | nil => exact ⟨h, rfl⟩
  | cons op rest ih =>
    obtain ⟨hsorted, httl⟩ := Operation.sorted_perform inner h op
    exact ⟨(ih hsorted).1, (ih hsorted).2.trans httl⟩

theorem latest_cons_iff {x : Event} {rest : List Event} : Latest ttl key e (x :: rest) ↔
    (x = .stored key e ∧ ∀ y ∈ rest, ¬ y.Ends ttl key e) ∨ Latest ttl key e rest := by
  constructor
  · rintro ⟨before, after, hsplit, hkept⟩
    cases before with
    | nil =>
      cases hsplit
      exact .inl ⟨rfl, hkept⟩
    | cons first before =>
      cases hsplit
      exact .inr ⟨before, after, rfl, hkept⟩
  · rintro (⟨rfl, hkept⟩ | ⟨before, after, rfl, hkept⟩)
    · exact ⟨[], rest, rfl, hkept⟩
    · exact ⟨x :: before, after, rfl, hkept⟩

/-- The entry under a key after some operations is the latest that they store there, or else the one
that was there; no event may have ended it. -/
theorem get?_run_iff (h : state.1.entries.Sorted) (ops : List Operation) :
    (run inner state ops).1.entries.get? key = some e ↔
      Latest state.1.ttl key e (events inner state ops) ∨
        state.1.entries.get? key = some e ∧
          ∀ x ∈ events inner state ops, ¬ x.Ends state.1.ttl key e := by
  induction ops generalizing state with
  | nil => simp [run, events, Latest]
  | cons op rest ih =>
    obtain ⟨hsorted, httl⟩ := Operation.sorted_perform inner h op
    refine (ih hsorted).trans ?_
    rw [Operation.get?_perform_iff inner h op, httl, events]
    cases op.event? inner state with
    | none => simp
    | some x =>
      simp only [Option.toList_some, List.singleton_append, latest_cons_iff, List.forall_mem_cons,
        Option.some.injEq, forall_eq']
      tauto

end Histories

/-! ## Calls for one key -/

namespace Operation

theorem of_event?_eq_some {op : Operation} {x : Event} (h : op.event? inner state = some x) :
    match x with
    | .stored _ e => op.time? = some e.storedAt
    | .invalidated lead => op = .invalidate lead
    | .purged now => op.time? = some now
    | .cleared => op = .clear := by
  obtain ⟨c, host⟩ := state
  cases op with
  | fetch r now =>
    simp only [event?] at h
    split at h <;> cases h
    rfl
  | _ =>
    cases h
    rfl

variable {op : Operation} {start stop : Nat}

/-- From an entry that is not older than some time, an operation that drops neither by address nor
everything leads to such an entry under the same key, until that time is too long ago. -/
theorem exists_entry_perform (h : state.1.entries.Sorted) (hshort : stop < start + state.1.ttl)
    (hdrop : ∀ lead, op ≠ .invalidate lead) (hclear : op ≠ .clear)
    (htime : ∀ now, op.time? = some now → start ≤ now ∧ now ≤ stop)
    (hentry : ∃ e, state.1.entries.get? key = some e ∧ start ≤ e.storedAt) :
    ∃ e, (op.perform inner state).2.1.entries.get? key = some e ∧ start ≤ e.storedAt := by
  obtain ⟨e, he, hstored⟩ := hentry
  have hkept : (∀ x, op.event? inner state = some x → ¬ x.Ends state.1.ttl key e) →
      ∃ e, (op.perform inner state).2.1.entries.get? key = some e ∧ start ≤ e.storedAt :=
    fun hends => ⟨e, (get?_perform_iff inner h op).2 (.inr ⟨he, hends⟩), hstored⟩
  cases hevent : op.event? inner state with
  | none => exact hkept fun x hx => by rw [hevent] at hx; cases hx
  | some x =>
    have hop := of_event?_eq_some hevent
    cases x with
    | stored other new =>
      by_cases hkey : other = key
      · subst hkey
        exact ⟨new, (get?_perform_iff inner h op).2 (.inl hevent), (htime _ hop).1⟩
      · refine hkept fun x hx => ?_
        rw [hevent] at hx
        cases hx
        exact hkey
    | purged now =>
      refine hkept fun x hx => ?_
      rw [hevent] at hx
      cases hx
      obtain ⟨hstart, hstop⟩ := htime now hop
      simp only [Event.Ends]
      omega
    | invalidated lead => exact absurd hop (hdrop lead)
    | cleared => exact absurd hop hclear

end Operation

theorem exists_entry_run (h : state.1.entries.Sorted) {start stop : Nat}
    (hshort : stop < start + state.1.ttl) {ops : List Operation}
    (hdrop : ∀ op ∈ ops, (∀ lead, op ≠ .invalidate lead) ∧ op ≠ .clear)
    (htime : ∀ op ∈ ops, ∀ now, op.time? = some now → start ≤ now ∧ now ≤ stop)
    (hentry : ∃ e, state.1.entries.get? key = some e ∧ start ≤ e.storedAt) :
    ∃ e, (run inner state ops).1.entries.get? key = some e ∧ start ≤ e.storedAt := by
  induction ops generalizing state with
  | nil => exact hentry
  | cons op rest ih =>
    rw [List.forall_mem_cons] at hdrop htime
    obtain ⟨hsorted, httl⟩ := Operation.sorted_perform inner h op
    refine ih hsorted (httl ▸ hshort) hdrop.2 htime.2 ?_
    exact Operation.exists_entry_perform h hshort hdrop.1.1 hdrop.1.2 htime.1 hentry

/-- Calls of the loader behind a cache for one key, of which the first has an answer, are as far
apart as choices are kept, when times do not go back and nothing is dropped by address. -/
theorem le_of_calls (h : state.1.entries.Sorted) {start stop : Nat} {r' : ChoiceRequest}
    {between : List Operation}
    (hdrop : ∀ op ∈ between, (∀ lead, op ≠ .invalidate lead) ∧ op ≠ .clear)
    (htimes : Timely (.fetch r start :: between ++ [.fetch r' stop]))
    (hkey : r'.key = r.key) (hmiss : state.1.get? r start = none)
    (hanswer : (inner r state.2).1 = .ok choices)
    (hmiss' : (run inner state (.fetch r start :: between)).1.get? r' stop = none) :
    start + state.1.ttl ≤ stop := by
  by_contra hshort
  rw [not_le] at hshort
  have hperform := Operation.perform_fetch_of_miss inner state.2 hmiss
  obtain ⟨hsorted, httl⟩ := Operation.sorted_perform inner h (.fetch r start)
  simp only [Timely, List.cons_append, List.filterMap_cons, List.filterMap_append, Operation.time?,
    List.filterMap_nil, List.pairwise_cons, List.pairwise_append, List.mem_append,
    List.mem_singleton] at htimes
  obtain ⟨hstart, -, -, hstop⟩ := htimes
  have hle : start ≤ stop := hstart stop (.inr rfl)
  have htime : ∀ op ∈ between, ∀ now, op.time? = some now → start ≤ now ∧ now ≤ stop := by
    intro op hop now hnow
    have hmem : now ∈ between.filterMap Operation.time? := List.mem_filterMap.2 ⟨op, hop, hnow⟩
    exact ⟨hstart now (.inl hmem), hstop now hmem stop rfl⟩
  have hfirst : ∃ e, ((Operation.fetch r start).perform inner state).2.1.entries.get? r.key =
      some e ∧ start ≤ e.storedAt := by
    rw [hperform, hanswer]
    exact ⟨_, Dict.get?_insert_self .., le_rfl⟩
  obtain ⟨e, he, hstored⟩ := exists_entry_run hsorted (httl ▸ hshort) hdrop htime hfirst
  rw [← hkey] at he
  have hfresh : (run inner state (.fetch r start :: between)).1.get? r' stop = some e.choices := by
    refine get?_eq_some_iff.2 ⟨e, he, ?_, rfl⟩
    rw [(sorted_run inner h (.fetch r start :: between)).2]
    omega
  rw [hfresh] at hmiss'
  cases hmiss'

/-! ## What is answered -/

/-- What is answered from a history that begins with an empty cache, over any loader and at any
times.

A cache answers a request with some choices exactly if they are those of the latest entry stored
under its key, inserted or fetched, if no event after it ended the entry, and if the entry is not
too old. A step that drops entries by address or by age replies how many keys are lost, and clearing
loses all without a reply. A request that is fetched is answered by the cache if the cache has an
answer; only else, and then once, it is passed on to the loader behind the cache, whose failures
leave the cache as it is. And between two calls of that loader for one key, of which the first has
an answer, lies at least the time that choices are kept, as long as times do not go back and nothing
is dropped by address. -/
theorem answers_from_history (inner : ChoiceLoader σ) (ttl : Nat) (host : σ) :
    (∀ ops r now choices, (run inner (⟨ttl, []⟩, host) ops).1.get? r now = some choices ↔
      ∃ e, Latest ttl r.key e (events inner (⟨ttl, []⟩, host) ops) ∧ e.choices = choices ∧
        now - e.storedAt < ttl) ∧
    (∀ ops c h, run inner (⟨ttl, []⟩, host) ops = (c, h) →
      (∀ lead, (Operation.invalidate lead).perform inner (c, h) =
        (.count (c.lostKeys (c.invalidate lead)).length, c.invalidate lead, h)) ∧
      (∀ now, (Operation.purge now).perform inner (c, h) =
        (.count (c.lostKeys (c.purge now)).length, c.purge now, h)) ∧
      Operation.clear.perform inner (c, h) = (.nothing, ⟨ttl, []⟩, h)) ∧
    (∀ c h r now,
      (∀ choices, c.get? r now = some choices →
        (Operation.fetch r now).perform inner (c, h) = (.answer (.ok choices), c, h)) ∧
      (c.get? r now = none → (Operation.fetch r now).perform inner (c, h) =
        (.answer (inner r h).1, c.withAnswer r now (inner r h).1, (inner r h).2)) ∧
      ∀ asked, ((Operation.fetch r now).perform (noting inner) (c, h, asked)).2.2.2 =
        if (c.get? r now).isNone then asked ++ [r] else asked) ∧
    ∀ before r start between r' stop choices,
      (∀ op ∈ between, (∀ lead, op ≠ .invalidate lead) ∧ op ≠ .clear) →
      Timely (.fetch r start :: between ++ [.fetch r' stop]) →
      r'.key = r.key → (run inner (⟨ttl, []⟩, host) before).1.get? r start = none →
      (inner r (run inner (⟨ttl, []⟩, host) before).2).1 = .ok choices →
      (run inner (⟨ttl, []⟩, host) (before ++ .fetch r start :: between)).1.get? r' stop = none →
      start + ttl ≤ stop := by
  have hempty : ((⟨ttl, []⟩, host) : ChoiceCache × σ).1.entries.Sorted := List.Pairwise.nil
  have hsorted := sorted_run inner hempty
  refine ⟨fun ops r now choices => ?_, fun ops c h hrun => ?_, fun c h r now => ⟨?_, ?_, ?_⟩, ?_⟩
  · rw [get?_eq_some_iff, (hsorted ops).2]
    refine exists_congr fun e => ?_
    rw [get?_run_iff inner hempty]
    simp [and_comm]
  · obtain ⟨hc, httl⟩ : c.entries.Sorted ∧ c.ttl = ttl := by
      have hlast := hsorted ops
      rwa [hrun] at hlast
    have hcount (test : CacheEntry → Bool) := congrArg Reply.count (dropped_keep hc test)
    refine ⟨fun lead => Prod.ext (hcount _) rfl, fun now => Prod.ext (hcount _) rfl, ?_⟩
    rw [← httl]
    rfl
  · exact fun choices => Operation.perform_fetch_of_hit inner h
  · exact Operation.perform_fetch_of_miss inner h
  · intro asked
    cases hget : c.get? r now with
    | some choices =>
      rw [Operation.perform_fetch_of_hit (noting inner) (h, asked) hget]
      rfl
    | none =>
      rw [Operation.perform_fetch_of_miss (noting inner) (h, asked) hget]
      rfl
  · intro before r start between r' stop choices hdrop htimes hkey hmiss hanswer hmiss'
    rw [run_append] at hmiss'
    have hle := le_of_calls (hsorted before).1 hdrop htimes hkey hmiss hanswer hmiss'
    rwa [(hsorted before).2] at hle

/-- The cities are fetched, and what is too old is dropped before they are. -/
def citiesHistory : List Operation := [.fetch (citiesRequest "city" "name") 5, .purge 50]

/-- A drop of other addresses leaves the cities until their time is over. Then a purge loses their
key, and fetching them calls the loader again. -/
theorem citiesHistory_answers :
    (run citiesLoader (⟨60, []⟩, ()) (citiesHistory ++ [.invalidate "https://other.test"])).1.get?
        (citiesRequest "city" "name") 64 = some ((citiesRequest "city" "name").extract cities) ∧
      ((Operation.purge 65).perform citiesLoader
        (run citiesLoader (⟨60, []⟩, ()) citiesHistory)).1 = .count 1 ∧
      (run citiesLoader (⟨60, []⟩, ()) citiesHistory).1.get? (citiesRequest "city" "name") 65 =
        none ∧
      5 + 60 ≤ 65 := by
  obtain ⟨hget, hreply, -, hcalls⟩ := answers_from_history citiesLoader 60 ()
  have hmiss : (run citiesLoader (⟨60, []⟩, ()) citiesHistory).1.get?
      (citiesRequest "city" "name") 65 = none := Option.isNone_iff_eq_none.1 (by decide +kernel)
  refine ⟨(hget _ _ _ _).2 ⟨_, ⟨[], [.purged 50, .invalidated "https://other.test"], rfl, ?_⟩, rfl,
    by decide⟩, ?_, hmiss, ?_⟩
  · decide +kernel
  · refine (congrArg Prod.fst ((hreply citiesHistory _ _ rfl).2.1 65)).trans ?_
    exact congrArg Reply.count (by decide +kernel)
  · exact hcalls [] (citiesRequest "city" "name") 5 [.purge 50] (citiesRequest "city" "name") 65 _
      (by simp) (by decide) rfl rfl rfl hmiss

theorem clear_replies_nothing :
    ((run citiesLoader (⟨60, []⟩, ()) citiesHistory).1.lostKeys
        (run citiesLoader (⟨60, []⟩, ()) citiesHistory).1.clear).length = 1 ∧
      (Operation.clear.perform citiesLoader
        (run citiesLoader (⟨60, []⟩, ()) citiesHistory)).1 ≠ .count 1 := by
  refine ⟨by decide +kernel, ?_⟩
  simp [Operation.perform]

end FormEngine.ChoiceCache
