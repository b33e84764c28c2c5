/-
This file is about expiring maps with room for all keys that are ever used.

Such a map is never full when a new key comes, so nothing is dropped to make room. What is done for
one key then leaves what is live under the others as it was, at every moment from then on.
-/

import Mathlib.Data.List.Perm.Subperm
import UserDashboard.Proofs.Cache.Live

namespace UserDashboard.Cache.ExpiringMap

open Time

variable {K V : Type} [DecidableEq K] {map after : ExpiringMap K V} {now later : Moment}
  {key other : K} {entry : Entry V} {keys : List K}

/-! ### What is live under other keys -/

theorem live?_of_entry? (same : after.entry? key = map.entry? key) :
    after.live? now key = map.live? now key := by
  unfold live?
  rw [same]

theorem entry?_erase_of_ne (map : ExpiringMap K V) (different : other ≠ key) :
    ExpiringMap.entry? (map.erase key) other = map.entry? other := by
  unfold entry? erase
  rw [List.find?_filter]
  congr 2
  funext pair
  by_cases same : pair.1 = other
  · simp [same, different]
  · simp [same]

theorem entry?_erase (map : ExpiringMap K V) (key : K) :
    ExpiringMap.entry? (map.erase key) key = none :=
  entry?_eq_none_iff.mpr fun _ member => (mem_erase.mp member).2

/-- Nothing is live under a key that was removed. -/
theorem live?_erase (map : ExpiringMap K V) (now : Moment) (key : K) :
    (map.erase key).live? now key = none := by
  unfold live?
  rw [entry?_erase]

/-- What is not live will not be live again by itself. -/
theorem live?_eq_none_of_le (ordered : now ≤ later) (missing : map.live? now key = none) :
    map.live? later key = none := by
  unfold live? at missing ⊢
  cases found : map.entry? key with
  | none => rfl
  | some entry =>
    rw [found] at missing
    have expired : entry.expiresAt ≤ now := by
      by_contra early
      simp [Entry.isExpired, early] at missing
    have still : entry.expiresAt ≤ later := Int.le_trans expired ordered
    simp [Entry.isExpired, still]

/-- A look-up changes nothing about what is live from then on. -/
theorem live?_get (map : ExpiringMap K V) (ordered : now ≤ later) (key other : K) :
    (map.get now key).2.live? later other = map.live? later other := by
  cases found : map.live? now key with
  | some value => rw [get_of_live? found]; rfl
  | none =>
    rw [get_of_missing found]
    show (map.erase key).live? later other = map.live? later other
    by_cases same : other = key
    · subst same
      rw [live?_erase, live?_eq_none_of_le ordered found]
    · exact live?_of_entry? (entry?_erase_of_ne map same)

/-- Neither does a sweep. -/
theorem Regular.live?_purge (regular : map.Regular) (ordered : now ≤ later) (key : K) :
    (map.purge now).2.live? later key = map.live? later key := by
  have kept : (map.purge now).2.Regular := regular.forget (purge_sublist map now) rfl
  have same : (map.purge now).2.live later = map.live later := by
    rw [live_later _ ordered, live_purge, ← live_later _ ordered]
  refine Option.ext fun value => ?_
  rw [kept.live?_eq_some_iff, regular.live?_eq_some_iff, same]

/-- What was stored last under a key is live until it expires. -/
theorem live?_store (map : ExpiringMap K V) (now : Moment) (key : K) (entry : Entry V) :
    (map.store key entry).live? now key =
      if entry.isExpired now then none else some entry.value := by
  unfold live?
  rw [store_found]

/-- Putting an entry in place leaves those of other keys where they are. -/
theorem find?_place_of_ne (entry : Entry V) (entries : List (K × Entry V))
    (different : other ≠ key) :
    (place key entry entries).find? (·.1 = other) = entries.find? (·.1 = other) := by
  induction entries with
  | nil => simp [place, Ne.symm different]
  | cons first rest inductionHypothesis =>
    obtain ⟨stored, kept⟩ := first
    simp only [place]
    by_cases same : stored = key
    · have others : stored ≠ other := fun alike => different (alike.symm.trans same)
      rw [if_pos same, List.find?_cons_of_neg (by simpa using Ne.symm different),
        List.find?_cons_of_neg (by simpa using others)]
    · rw [if_neg same, List.find?_cons, List.find?_cons, inductionHypothesis]

/-! ### Maps with room for all keys -/

/-- There is room for all keys of some list, and no others are used. -/
structure Within (keys : List K) (map : ExpiringMap K V) : Prop where
  regular : map.Regular
  among : ∀ pair ∈ map.entries, pair.1 ∈ keys
  few : keys.length ≤ map.maxEntries

namespace Within

omit [DecidableEq K] in
theorem forget (within : map.Within keys) (kept : after.entries.Sublist map.entries)
    (bound : after.maxEntries = map.maxEntries) : after.Within keys where
  regular := within.regular.forget kept bound
  among pair member := within.among pair (kept.subset member)
  few := bound ▸ within.few

/-- No room has to be made for a key of the list. -/
theorem roomFor_eq (within : map.Within keys) (known : key ∈ keys) (now : Moment) :
    map.roomFor now key = map := by
  refine if_neg fun full => ?_
  have absent : ∀ pair ∈ map.entries, pair.1 ≠ key :=
    entry?_eq_none_iff.mp (Option.isNone_iff_eq_none.mp full.1)
  have distinct : (key :: map.entries.map Prod.fst).Nodup := by
    refine List.nodup_cons.mpr ⟨fun stored => ?_, within.regular.single⟩
    obtain ⟨pair, member, same⟩ := List.mem_map.mp stored
    exact absent pair member same
  have used : key :: map.entries.map Prod.fst ⊆ keys := by
    refine List.cons_subset.mpr ⟨known, fun stored present => ?_⟩
    obtain ⟨pair, member, rfl⟩ := List.mem_map.mp present
    exact within.among pair member
  have fewer := (List.subperm_of_subset distinct used).length_le
  rw [List.length_cons, List.length_map] at fewer
  exact absurd (Nat.lt_of_lt_of_le fewer within.few) (Nat.not_lt.mpr full.2)

theorem store (within : map.Within keys) (known : key ∈ keys) (entry : Entry V) :
    (map.store key entry).Within keys where
  regular := within.regular.store key entry
  among pair member := by
    rcases mem_store member with rfl | old
    · exact known
    · exact within.among pair old
  few := by
    rw [store_eq]
    exact (maxEntries_roomFor map entry.createdAt key).symm ▸ within.few

/-- What is stored under a key of the list changes nothing for the others. -/
theorem live?_store_of_ne (within : map.Within keys) (known : key ∈ keys) (entry : Entry V)
    (different : other ≠ key) : (map.store key entry).live? now other = map.live? now other := by
  refine live?_of_entry? ?_
  rw [store_eq, within.roomFor_eq known]
  exact congrArg _ (find?_place_of_ne entry map.entries different)

end Within

end UserDashboard.Cache.ExpiringMap
