/-
This file holds the map that both caches are built on: values that expire, under a bound on how
many are stored.

An entry lives for the map's time to live, or until a deadline that comes sooner. Expired entries
are not removed by themselves; a look-up that finds one removes it and counts as a miss, and a
sweep removes them all. An insertion of a new key into a full map first removes the expired
entries, and if that made no room drops the entry that was stored first, which counts as an
eviction. Each key occurs at most once in `entries`, which keeps the order of first insertion.

Nothing can be stored when the clock cannot tell the moment at which the time to live would end.
-/

import UserDashboard.Cache.Entry
import UserDashboard.Json.Basic
import UserDashboard.Number.Binary64

namespace UserDashboard.Cache

open Time Number

/-! ### Statistics -/

/-- What is reported about a map. -/
structure Stats where
  /-- The entries stored, live or not. -/
  total : Nat := 0
  /-- The live ones. -/
  active : Nat := 0
  /-- The others. -/
  expired : Nat := 0
  /-- Look-ups that found a live value. -/
  hits : Nat := 0
  /-- Look-ups that found none. -/
  misses : Nat := 0
  /-- Entries dropped to keep the bound. -/
  evictions : Nat := 0
  /-- The bound. -/
  maxEntries : Nat := 0
  deriving DecidableEq

namespace Stats

/-- The look-ups that found a value, in percent of all. The ratio is rounded before it is
multiplied, and no look-ups at all count as none found. -/
def hitRate (stats : Stats) : Binary64 :=
  if stats.hits + stats.misses = 0 then Binary64.zero false
  else
    let rate? := do
      let hits ← Binary64.ofNat? stats.hits
      let all ← Binary64.ofNat? (stats.hits + stats.misses)
      let ratio ← hits.div? all
      let hundred ← Binary64.ofNat? 100
      ratio.mul? hundred
    rate?.getD (Binary64.zero false)

/-- The statistics as JSON. -/
def toJson (stats : Stats) : Json :=
  .object [("total", .nat stats.total), ("active", .nat stats.active),
    ("expired", .nat stats.expired), ("hits", .nat stats.hits), ("misses", .nat stats.misses),
    ("evictions", .nat stats.evictions), ("max_entries", .nat stats.maxEntries)]

end Stats

/-! ### The map -/

/-- Values that expire, under a bound on how many are stored. -/
structure ExpiringMap (K V : Type) where
  /-- How long an entry lives. -/
  ttl : Span
  /-- How many entries may be stored, one at least. -/
  maxEntries : Nat
  /-- The entries in the order in which their keys were first stored. -/
  entries : List (K × Entry V)
  /-- Look-ups that found a live value. -/
  hits : Nat
  /-- Look-ups that found none. -/
  misses : Nat
  /-- Entries dropped to keep the bound. -/
  evictions : Nat

namespace ExpiringMap

variable {K V : Type} [DecidableEq K]

/-- An empty map. A bound of zero counts as one. -/
def new (ttl : Span) (maxEntries : Nat) : ExpiringMap K V :=
  ⟨ttl, max maxEntries 1, [], 0, 0, 0⟩

/-- The number of entries stored, live or not. -/
def size (map : ExpiringMap K V) : Nat :=
  map.entries.length

/-- The entry of a key, live or not. -/
def entry? (map : ExpiringMap K V) (key : K) : Option (Entry V) :=
  (map.entries.find? (·.1 = key)).map (·.2)

/-- The value of a key, if its entry is live. -/
def live? (map : ExpiringMap K V) (now : Moment) (key : K) : Option V :=
  match map.entry? key with
  | some entry => if entry.isExpired now then none else some entry.value
  | none => none

/-- The map without the entry of a key. -/
def erase (map : ExpiringMap K V) (key : K) : ExpiringMap K V :=
  { map with entries := map.entries.filter (·.1 ≠ key) }

/-- Looks a key up: its live value counts as a hit, anything else as a miss, and an entry that
turns out to be expired is removed. -/
def get (map : ExpiringMap K V) (now : Moment) (key : K) : Option V × ExpiringMap K V :=
  match map.live? now key with
  | some value => (some value, { map with hits := map.hits + 1 })
  | none => (none, { map.erase key with misses := map.misses + 1 })

/-- Whether a key has a live entry. Nothing is counted. -/
def containsLive (map : ExpiringMap K V) (now : Moment) (key : K) : Bool :=
  (map.live? now key).isSome

/-- Removes the entries whose key and value satisfy a condition, and says how many. -/
def removeWhere (map : ExpiringMap K V) (condition : K → V → Bool) : Nat × ExpiringMap K V :=
  let kept := map.entries.filter fun (key, entry) => !condition key entry.value
  (map.entries.length - kept.length, { map with entries := kept })

/-- Removes the expired entries, and says how many. -/
def purge (map : ExpiringMap K V) (now : Moment) : Nat × ExpiringMap K V :=
  let kept := map.entries.filter fun (_, entry) => !entry.isExpired now
  (map.entries.length - kept.length, { map with entries := kept })

/-- The entry that was stored first; of several stored at one moment, the first in the list. -/
def oldest? : List (K × Entry V) → Option (K × Entry V)
  | [] => none
  | first :: rest =>
    match oldest? rest with
    | none => some first
    | some other => if other.2.createdAt < first.2.createdAt then some other else some first

/-- Drops the entry that was stored first, which counts as an eviction. -/
def evict (map : ExpiringMap K V) : ExpiringMap K V :=
  match oldest? map.entries with
  | none => map
  | some (key, _) => { map.erase key with evictions := map.evictions + 1 }

/-- Removes the expired entries, and drops a live one if that made no room. -/
def makeRoom (map : ExpiringMap K V) (now : Moment) : ExpiringMap K V :=
  let (removed, purged) := map.purge now
  if 0 < removed ∧ purged.size < map.maxEntries then purged else purged.evict

/-- The entries with the entry of a key replaced, or put at the end. -/
def place (key : K) (entry : Entry V) : List (K × Entry V) → List (K × Entry V)
  | [] => [(key, entry)]
  | (other, kept) :: rest =>
    if other = key then (key, entry) :: rest else (other, kept) :: place key entry rest

/-- Stores an entry, making room for a new key in a full map. -/
def store (map : ExpiringMap K V) (key : K) (entry : Entry V) : ExpiringMap K V :=
  let roomy :=
    if (map.entry? key).isNone ∧ map.maxEntries ≤ map.size then map.makeRoom entry.createdAt
    else map
  { roomy with entries := place key entry roomy.entries }

/-- Stores a value for the full time to live, if the clock can tell when that ends. -/
def insert? (map : ExpiringMap K V) (now : Moment) (key : K) (value : V) :
    Option (ExpiringMap K V) :=
  (later? now map.ttl).map fun expiry => map.store key ⟨value, now, expiry⟩

/-- Stores a value until the time to live or a deadline ends, whichever comes first. Nothing is
stored, and the answer is no, when the deadline has passed. -/
def insertUntil? (map : ExpiringMap K V) (now : Moment) (key : K) (value : V)
    (deadline : Moment) : Option (Bool × ExpiringMap K V) :=
  if deadline ≤ now then some (false, map)
  else
    (later? now map.ttl).map fun expiry =>
      (true, map.store key ⟨value, now, min deadline expiry⟩)

/-- Removes the entry of a key, and says whether there was one. -/
def remove (map : ExpiringMap K V) (key : K) : Bool × ExpiringMap K V :=
  ((map.entry? key).isSome, map.erase key)

/-- Removes all entries. -/
def clear (map : ExpiringMap K V) : ExpiringMap K V :=
  { map with entries := [] }

/-- What is reported at a moment. -/
def stats (map : ExpiringMap K V) (now : Moment) : Stats :=
  let expired := map.entries.countP fun (_, entry) => entry.isExpired now
  { total := map.size, active := map.size - expired, expired
    hits := map.hits, misses := map.misses, evictions := map.evictions
    maxEntries := map.maxEntries }

end ExpiringMap

end UserDashboard.Cache
