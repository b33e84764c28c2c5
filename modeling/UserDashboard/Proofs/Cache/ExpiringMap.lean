/-
This file says what the operations of an expiring map do to its entries.

Every operation but a store leaves some of the entries as they were, in their order, and drops the
others. A store leaves some of them too and adds one, which is the entry of its key from then on.
-/

import UserDashboard.Cache.ExpiringMap

namespace UserDashboard.Cache.ExpiringMap

open Time

variable {K V : Type} [DecidableEq K]

/-! ### Looking up -/

theorem mem_entries_of_found {map : ExpiringMap K V} {key : K} {entry : Entry V}
    (found : map.entry? key = some entry) : (key, entry) ∈ map.entries := by
  unfold entry? at found
  rw [Option.map_eq_some_iff] at found
  obtain ⟨⟨other, kept⟩, member, rfl⟩ := found
  have same : other = key := by simpa using List.find?_some member
  rw [← same]
  exact List.mem_of_find?_eq_some member

/-- A value is live exactly when its key has an entry that has not expired. -/
theorem live?_eq_some_iff {map : ExpiringMap K V} {now : Moment} {key : K} {value : V} :
    map.live? now key = some value ↔
      ∃ entry, map.entry? key = some entry ∧ now < entry.expiresAt ∧ entry.value = value := by
  unfold live?
  cases map.entry? key with
  | none => simp
  | some entry => simp [Entry.isExpired]

theorem get_fst (map : ExpiringMap K V) (now : Moment) (key : K) :
    (map.get now key).1 = map.live? now key := by
  unfold get
  cases map.live? now key <;> rfl

theorem get_of_live? {map : ExpiringMap K V} {now : Moment} {key : K} {value : V}
    (live : map.live? now key = some value) :
    map.get now key = (some value, { map with hits := map.hits + 1 }) := by
  unfold get
  rw [live]

theorem get_of_missing {map : ExpiringMap K V} {now : Moment} {key : K}
    (missing : map.live? now key = none) :
    map.get now key = (none, { map.erase key with misses := map.misses + 1 }) := by
  unfold get
  rw [missing]

/-! ### Entries that are dropped -/

theorem mem_erase {map : ExpiringMap K V} {key : K} {pair : K × Entry V} :
    pair ∈ (map.erase key).entries ↔ pair ∈ map.entries ∧ pair.1 ≠ key := by
  simp [erase]

theorem erase_sublist (map : ExpiringMap K V) (key : K) :
    (map.erase key).entries.Sublist map.entries :=
  List.filter_sublist

theorem get_sublist (map : ExpiringMap K V) (now : Moment) (key : K) :
    (map.get now key).2.entries.Sublist map.entries := by
  unfold get
  cases map.live? now key with
  | none => exact erase_sublist map key
  | some value => exact List.Sublist.refl _

omit [DecidableEq K] in
theorem removeWhere_sublist (map : ExpiringMap K V) (condition : K → V → Bool) :
    (map.removeWhere condition).2.entries.Sublist map.entries :=
  List.filter_sublist

omit [DecidableEq K] in
theorem purge_sublist (map : ExpiringMap K V) (now : Moment) :
    (map.purge now).2.entries.Sublist map.entries :=
  List.filter_sublist

theorem evict_sublist (map : ExpiringMap K V) : map.evict.entries.Sublist map.entries := by
  unfold evict
  cases oldest? map.entries with
  | none => exact List.Sublist.refl _
  | some pair => exact erase_sublist map pair.1

theorem makeRoom_sublist (map : ExpiringMap K V) (now : Moment) :
    (map.makeRoom now).entries.Sublist map.entries := by
  simp only [makeRoom]
  split
  · exact purge_sublist map now
  · exact (evict_sublist _).trans (purge_sublist map now)

/-! ### Entries that are stored -/

theorem mem_place {key : K} {entry : Entry V} {entries : List (K × Entry V)} {pair : K × Entry V}
    (member : pair ∈ place key entry entries) : pair = (key, entry) ∨ pair ∈ entries := by
  induction entries with
  | nil => exact Or.inl (List.mem_singleton.mp member)
  | cons first rest inductionHypothesis =>
    simp only [place] at member
    split at member
    · rcases List.mem_cons.mp member with same | later
      · exact Or.inl same
      · exact Or.inr (List.mem_cons_of_mem _ later)
    · rcases List.mem_cons.mp member with same | later
      · exact Or.inr (same ▸ List.mem_cons_self)
      · rcases inductionHypothesis later with new | old
        · exact Or.inl new
        · exact Or.inr (List.mem_cons_of_mem _ old)

/-- The entry that was put in place is the first of its key. -/
theorem find?_place (key : K) (entry : Entry V) (entries : List (K × Entry V)) :
    (place key entry entries).find? (·.1 = key) = some (key, entry) := by
  induction entries with
  | nil => simp [place]
  | cons first rest inductionHypothesis =>
    obtain ⟨other, kept⟩ := first
    simp only [place]
    by_cases same : other = key
    · rw [if_pos same]
      simp
    · rw [if_neg same, List.find?_cons_of_neg (by simpa using same)]
      exact inductionHypothesis

theorem mem_store {map : ExpiringMap K V} {key : K} {entry : Entry V} {pair : K × Entry V}
    (member : pair ∈ (map.store key entry).entries) :
    pair = (key, entry) ∨ pair ∈ map.entries := by
  simp only [store] at member
  rcases mem_place member with new | old
  · exact Or.inl new
  · right
    split at old
    · exact (makeRoom_sublist map _).subset old
    · exact old

/-- What was stored last under a key is its entry. -/
theorem store_found (map : ExpiringMap K V) (key : K) (entry : Entry V) :
    ExpiringMap.entry? (map.store key entry) key = some entry := by
  unfold entry? store
  rw [find?_place, Option.map_some]

/-! ### The time to live -/

@[simp] theorem ttl_get (map : ExpiringMap K V) (now : Moment) (key : K) :
    (map.get now key).2.ttl = map.ttl := by
  unfold get
  cases map.live? now key <;> rfl

@[simp] theorem ttl_evict (map : ExpiringMap K V) : map.evict.ttl = map.ttl := by
  unfold evict
  cases oldest? map.entries <;> rfl

@[simp] theorem ttl_makeRoom (map : ExpiringMap K V) (now : Moment) :
    (map.makeRoom now).ttl = map.ttl := by
  simp only [makeRoom]
  split
  · rfl
  · exact ttl_evict _

@[simp] theorem ttl_store (map : ExpiringMap K V) (key : K) (entry : Entry V) :
    (map.store key entry).ttl = map.ttl := by
  simp only [store]
  split
  · exact ttl_makeRoom map _
  · rfl

/-! ### The counters of look-ups -/

/-- Making room looks nothing up. -/
theorem lookUps_makeRoom (map : ExpiringMap K V) (now : Moment) :
    (map.makeRoom now).hits = map.hits ∧ (map.makeRoom now).misses = map.misses := by
  simp only [makeRoom, evict]
  split
  · exact ⟨rfl, rfl⟩
  · split <;> exact ⟨rfl, rfl⟩

/-- Neither does storing. -/
theorem lookUps_store (map : ExpiringMap K V) (key : K) (entry : Entry V) :
    (map.store key entry).hits = map.hits ∧ (map.store key entry).misses = map.misses := by
  simp only [store]
  split
  · exact lookUps_makeRoom map _
  · exact ⟨rfl, rfl⟩

end UserDashboard.Cache.ExpiringMap
