import FormEngine.Choices.Request

/-!
# A cache of choices

Loaded choices are kept under the key of their request and are good for a fixed time. A clock that
goes back counts as standing still. A cached loader asks the loader behind it only for what the
cache does not hold, and keeps what it gets.
-/

namespace FormEngine

/-- Choices in the cache. -/
structure CacheEntry where
  url : String
  choices : List Choice
  storedAt : Nat

/-- Choices by the key of their request; times are in milliseconds. -/
structure ChoiceCache where
  ttl : Nat
  entries : Dict CacheEntry := []

namespace ChoiceCache

/-- Whether an entry is still good. -/
def isFresh (c : ChoiceCache) (now : Nat) (e : CacheEntry) : Bool := now - e.storedAt < c.ttl

/-- The choices of a request, unless they are too old. -/
def get? (c : ChoiceCache) (r : ChoiceRequest) (now : Nat) : Option (List Choice) :=
  ((c.entries.get? r.key).filter (c.isFresh now)).map (·.choices)

def insert (c : ChoiceCache) (r : ChoiceRequest) (choices : List Choice) (now : Nat) :
    ChoiceCache :=
  { c with entries := c.entries.insert r.key ⟨r.url, choices, now⟩ }

/-- Keeps the entries that satisfy a condition. -/
def keep (c : ChoiceCache) (p : CacheEntry → Bool) : ChoiceCache :=
  { c with entries := c.entries.filter fun e => p e.2 }

/-- Drops the entries whose address begins with a text. -/
def invalidate (c : ChoiceCache) (lead : String) : ChoiceCache :=
  c.keep fun e => !Text.startsWith e.url lead

/-- Drops the entries that are too old. -/
def purge (c : ChoiceCache) (now : Nat) : ChoiceCache := c.keep (c.isFresh now)

def clear (c : ChoiceCache) : ChoiceCache := { c with entries := [] }

def size (c : ChoiceCache) : Nat := c.entries.length

/-- The number of entries that a step has dropped. -/
def dropped (before after : ChoiceCache) : Nat := before.size - after.size

variable {σ : Type}

/-- A loader that answers from the cache before it asks another one. -/
def loader (inner : ChoiceLoader σ) (now : Nat) : ChoiceLoader (ChoiceCache × σ) :=
  fun r (cache, host) =>
    match cache.get? r now with
    | some choices => (.ok choices, (cache, host))
    | none =>
      match inner r host with
      | (.ok choices, host) => (.ok choices, (cache.insert r choices now, host))
      | (.error e, host) => (.error e, (cache, host))

theorem get?_insert_self (c : ChoiceCache) (r : ChoiceRequest) (choices : List Choice) (now : Nat)
    (h : 0 < c.ttl) : (c.insert r choices now).get? r now = some choices := by
  simp [get?, insert, isFresh, Option.filter, h]

theorem get?_insert_at_end (c : ChoiceCache) (r : ChoiceRequest) (choices : List Choice)
    (now : Nat) : (c.insert r choices now).get? r (now + c.ttl) = none := by
  simp [get?, insert, isFresh]

end ChoiceCache

end FormEngine
