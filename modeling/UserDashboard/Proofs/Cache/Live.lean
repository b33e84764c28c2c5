/-
This file says which entries of an expiring map are live, and what each operation does to those.

A map may hold entries that have expired and were not removed yet, and these count towards its
bound. They are never seen: a look-up, a removal and the passing of time do to the live entries what
they would do if there were no others, and a sweep does nothing to them. Making room drops a live
entry only if all stored ones are live, because otherwise removing the expired ones is enough.
-/

import UserDashboard.Proofs.Cache.ExpiringMap
import UserDashboard.Proofs.Keyed

namespace UserDashboard.Cache.ExpiringMap

open Time

variable {K V : Type} [DecidableEq K] {map : ExpiringMap K V} {now : Moment} {key : K}
  {entry : Entry V}

/-- The entries that are live at a moment. -/
def live (map : ExpiringMap K V) (now : Moment) : List (K × Entry V) :=
  map.entries.filter fun pair => !pair.2.isExpired now

/-- What always holds of a map. -/
structure Regular (map : ExpiringMap K V) : Prop where
  /-- No key has two entries. -/
  single : (map.entries.map Prod.fst).Nodup
  /-- The bound is kept, by live and expired entries together. -/
  bounded : map.size ≤ map.maxEntries
  /-- There is room for one entry. -/
  roomy : 0 < map.maxEntries

omit [DecidableEq K] in
theorem mem_live {pair : K × Entry V} :
    pair ∈ map.live now ↔ pair ∈ map.entries ∧ now < pair.2.expiresAt := by
  simp [live, Entry.isExpired]

omit [DecidableEq K] in
theorem live_sublist (map : ExpiringMap K V) (now : Moment) :
    (map.live now).Sublist map.entries :=
  List.filter_sublist

omit [DecidableEq K] in
theorem live_length_le (map : ExpiringMap K V) (now : Moment) :
    (map.live now).length ≤ map.size :=
  (map.live_sublist now).length_le

omit [DecidableEq K] in
theorem Regular.live_single (regular : map.Regular) (now : Moment) :
    ((map.live now).map Prod.fst).Nodup :=
  regular.single.sublist ((map.live_sublist now).map Prod.fst)

/-! ### What is looked up and reported -/

theorem Regular.entry?_eq_some_iff (regular : map.Regular) :
    map.entry? key = some entry ↔ (key, entry) ∈ map.entries := by
  constructor
  · exact mem_entries_of_found
  · intro present
    have found : map.entries.find? (·.1 = key) = some (key, entry) :=
      find?_of_nodup regular.single present
    unfold entry?
    rw [found, Option.map_some]

theorem entry?_eq_none_iff : map.entry? key = none ↔ ∀ pair ∈ map.entries, pair.1 ≠ key := by
  unfold entry?
  simp

theorem entry?_ne_none {pair : K × Entry V} (member : pair ∈ map.entries) :
    map.entry? pair.1 ≠ none :=
  fun missing => entry?_eq_none_iff.mp missing pair member rfl

theorem Regular.live?_eq_some_iff (regular : map.Regular) {value : V} :
    map.live? now key = some value ↔
      ∃ entry, (key, entry) ∈ map.live now ∧ entry.value = value := by
  rw [ExpiringMap.live?_eq_some_iff]
  constructor
  · rintro ⟨entry, found, early, same⟩
    exact ⟨entry, mem_live.mpr ⟨mem_entries_of_found found, early⟩, same⟩
  · rintro ⟨entry, present, same⟩
    obtain ⟨stored, early⟩ := mem_live.mp present
    exact ⟨entry, regular.entry?_eq_some_iff.mpr stored, early, same⟩

/-- Whatever has no live value has no live entry. -/
theorem Regular.key_ne_of_live?_eq_none (regular : map.Regular) (missing : map.live? now key = none)
    {pair : K × Entry V} (present : pair ∈ map.live now) : pair.1 ≠ key := by
  rintro rfl
  have found := regular.live?_eq_some_iff.mpr ⟨pair.2, present, rfl⟩
  rw [missing] at found
  cases found

omit [DecidableEq K] in
theorem stats_active (map : ExpiringMap K V) (now : Moment) :
    (map.stats now).active = (map.live now).length := by
  have split := List.length_eq_countP_add_countP (fun pair : K × Entry V => pair.2.isExpired now)
    (l := map.entries)
  have kept : (map.live now).length =
      map.entries.countP fun pair => decide ¬pair.2.isExpired now = true := by
    rw [List.countP_eq_length_filter, live]
    congr 2
    funext pair
    cases pair.2.isExpired now <;> rfl
  rw [kept]
  show map.entries.length - map.entries.countP (fun pair => pair.2.isExpired now) = _
  omega

/-! ### Operations that drop entries -/

theorem live_erase (map : ExpiringMap K V) (now : Moment) (key : K) :
    (map.erase key).live now = (map.live now).filter (·.1 ≠ key) := by
  simp only [live, erase, List.filter_filter, Bool.and_comm]

/-- A look-up removes no live entry. -/
theorem Regular.live_get (regular : map.Regular) (now : Moment) (key : K) :
    (map.get now key).2.live now = map.live now := by
  unfold get
  cases found : map.live? now key with
  | some value => rfl
  | none =>
    show (map.erase key).live now = map.live now
    rw [live_erase, List.filter_eq_self]
    intro pair present
    exact decide_eq_true (regular.key_ne_of_live?_eq_none found present)

omit [DecidableEq K] in
/-- What a sweep leaves are the live entries. -/
theorem entries_purge (map : ExpiringMap K V) (now : Moment) :
    (map.purge now).2.entries = map.live now := rfl

omit [DecidableEq K] in
theorem live_purge (map : ExpiringMap K V) (now : Moment) :
    (map.purge now).2.live now = map.live now := by
  rw [live, entries_purge, live, List.filter_filter]
  simp only [Bool.and_self]

omit [DecidableEq K] in
/-- As time passes entries only stop being live. -/
theorem live_later (map : ExpiringMap K V) {later : Moment} (ordered : now ≤ later) :
    map.live later = (map.live now).filter fun pair => !pair.2.isExpired later := by
  rw [live, live, List.filter_filter]
  refine List.filter_congr fun pair _ => ?_
  simp only [Entry.isExpired]
  by_cases expired : pair.2.expiresAt ≤ later
  · simp [expired]
  · have earlier : ¬pair.2.expiresAt ≤ now := fun passed => expired (Int.le_trans passed ordered)
    simp [expired, earlier]

/-! ### The entry that was stored first -/

omit [DecidableEq K] in
theorem oldest?_eq_none_iff {entries : List (K × Entry V)} :
    oldest? entries = none ↔ entries = [] := by
  cases entries with
  | nil => simp [oldest?]
  | cons first rest =>
    simp only [oldest?, List.cons_ne_nil, iff_false]
    split
    · exact nofun
    · split <;> exact nofun

omit [DecidableEq K] in
theorem oldest?_le {entries : List (K × Entry V)} {oldest : K × Entry V}
    (found : oldest? entries = some oldest) :
    oldest ∈ entries ∧ ∀ pair ∈ entries, oldest.2.createdAt ≤ pair.2.createdAt := by
  induction entries generalizing oldest with
  | nil => cases found
  | cons first rest inductionHypothesis =>
    simp only [oldest?] at found
    cases later : oldest? rest with
    | none =>
      rw [later] at found
      obtain rfl := Option.some.inj found
      rw [oldest?_eq_none_iff.mp later]
      refine ⟨List.mem_cons_self, fun pair member => ?_⟩
      obtain rfl := List.mem_singleton.mp member
      exact Int.le_refl _
    | some other =>
      obtain ⟨member, least⟩ := inductionHypothesis later
      simp only [later] at found
      split at found
      · rename_i older
        obtain rfl := Option.some.inj found
        refine ⟨List.mem_cons_of_mem _ member, fun pair present => ?_⟩
        rcases List.mem_cons.mp present with rfl | kept
        · exact Int.le_of_lt older
        · exact least pair kept
      · rename_i younger
        obtain rfl := Option.some.inj found
        refine ⟨List.mem_cons_self, fun pair present => ?_⟩
        rcases List.mem_cons.mp present with rfl | kept
        · exact Int.le_refl _
        · exact Int.le_trans (Int.not_lt.mp younger) (least pair kept)

omit [DecidableEq K] in
/-- No two of some entries were stored at one moment. -/
def Dated (entries : List (K × Entry V)) : Prop :=
  ∀ first ∈ entries, ∀ second ∈ entries, first.2.createdAt = second.2.createdAt → first = second

/-- When no two entries were stored at one moment, the one that is dropped is the one before which
no other was stored. -/
theorem evict_eq (single : (map.entries.map Prod.fst).Nodup) (dated : Dated map.entries)
    (filled : map.entries ≠ []) :
    map.evict = { map with
      entries := map.entries.filter fun pair =>
        map.entries.any fun other => other.2.createdAt < pair.2.createdAt
      evictions := map.evictions + 1 } := by
  unfold evict
  cases found : oldest? map.entries with
  | none => exact absurd (oldest?_eq_none_iff.mp found) filled
  | some oldest =>
    obtain ⟨member, least⟩ := oldest?_le found
    have kept : (map.erase oldest.1).entries = map.entries.filter fun pair =>
        map.entries.any fun other => other.2.createdAt < pair.2.createdAt := by
      refine List.filter_congr fun pair present => ?_
      by_cases same : pair = oldest
      · -- Nothing was stored before the oldest entry.
        have none : ¬∃ other ∈ map.entries, other.2.createdAt < pair.2.createdAt := by
          rintro ⟨other, stored, older⟩
          rw [same] at older
          exact absurd (least other stored) (Int.not_le.mpr older)
        rw [same] at none ⊢
        simp only [ne_eq, not_true_eq_false, decide_false]
        exact (by simpa using none : _ = false).symm
      · -- The oldest entry was stored before any other.
        have different : pair.1 ≠ oldest.1 := fun alike =>
          same (eq_of_nodup single present member alike)
        have older : oldest.2.createdAt < pair.2.createdAt :=
          Int.lt_iff_le_and_ne.mpr ⟨least pair present, fun alike =>
            same (dated pair present oldest member alike.symm)⟩
        have some : (map.entries.any fun other =>
            decide (other.2.createdAt < pair.2.createdAt)) = true :=
          List.any_eq_true.mpr ⟨oldest, member, decide_eq_true older⟩
        rw [some]
        exact decide_eq_true different
    simp only [erase] at kept ⊢
    rw [kept]

/-! ### Making room -/

theorem evict_length_lt (filled : map.entries ≠ []) : map.evict.size < map.size := by
  unfold evict
  cases found : oldest? map.entries with
  | none => exact absurd (oldest?_eq_none_iff.mp found) filled
  | some oldest =>
    have shorter := List.length_filter_lt_length_iff_exists (l := map.entries)
      (p := fun pair : K × Entry V => decide (pair.1 ≠ oldest.1)) |>.mpr
      ⟨oldest, (oldest?_le found).1, by simp⟩
    exact shorter

/-- A full map drops a live entry exactly when all its entries are live. -/
theorem Regular.makeRoom_eq (regular : map.Regular) (full : map.maxEntries ≤ map.size)
    (now : Moment) :
    map.makeRoom now =
      if (map.live now).length < map.maxEntries then (map.purge now).2
      else (map.purge now).2.evict := by
  have size : map.size = map.maxEntries := Nat.le_antisymm regular.bounded full
  have removed : (map.purge now).1 = map.size - (map.live now).length := rfl
  have left : (map.purge now).2.size = (map.live now).length := rfl
  show (if 0 < (map.purge now).1 ∧ (map.purge now).2.size < map.maxEntries then
    (map.purge now).2 else (map.purge now).2.evict) = _
  rw [removed, left, size]
  by_cases room : (map.live now).length < map.maxEntries
  · rw [if_pos room, if_pos ⟨by omega, room⟩]
  · rw [if_neg room, if_neg fun both => room both.2]

theorem Regular.makeRoom_size_lt (regular : map.Regular) (full : map.maxEntries ≤ map.size)
    (now : Moment) : (map.makeRoom now).size < map.maxEntries := by
  rw [regular.makeRoom_eq full]
  split
  · rename_i room
    exact room
  · rename_i crowded
    have filled : (map.purge now).2.entries ≠ [] := by
      rw [entries_purge]
      intro empty
      rw [empty] at crowded
      exact crowded regular.roomy
    have fewer := evict_length_lt filled
    have live := map.live_length_le now
    have bounded := regular.bounded
    have left : (map.purge now).2.size = (map.live now).length := rfl
    omega

/-! ### Storing -/

/-- Putting an entry in place removes the one of its key and adds the new one. -/
theorem place_perm (key : K) (entry : Entry V) {entries : List (K × Entry V)}
    (single : (entries.map Prod.fst).Nodup) :
    (place key entry entries).Perm ((key, entry) :: entries.filter (·.1 ≠ key)) := by
  induction entries with
  | nil => exact List.Perm.refl _
  | cons first rest inductionHypothesis =>
    rw [List.map_cons, List.nodup_cons] at single
    obtain ⟨other, kept⟩ := first
    simp only [place]
    by_cases same : other = key
    · have others : rest.filter (·.1 ≠ key) = rest := by
        rw [List.filter_eq_self]
        intro pair member
        refine decide_eq_true fun alike => single.1 ?_
        exact List.mem_map.mpr ⟨pair, member, alike.trans same.symm⟩
      rw [if_pos same, List.filter_cons_of_neg (by simpa using same), others]
    · rw [if_neg same, List.filter_cons_of_pos (by simpa using same)]
      exact ((inductionHypothesis single.2).cons _).trans (List.Perm.swap _ _ _)

/-- What a store puts its entry into: the map itself, unless a new key comes to a full one. -/
def roomFor (map : ExpiringMap K V) (now : Moment) (key : K) : ExpiringMap K V :=
  if (map.entry? key).isNone ∧ map.maxEntries ≤ map.size then map.makeRoom now else map

theorem store_eq (map : ExpiringMap K V) (key : K) (entry : Entry V) :
    map.store key entry = { map.roomFor entry.createdAt key with
      entries := place key entry (map.roomFor entry.createdAt key).entries } := rfl

theorem roomFor_sublist (map : ExpiringMap K V) (now : Moment) (key : K) :
    (map.roomFor now key).entries.Sublist map.entries := by
  unfold roomFor
  split
  · exact makeRoom_sublist map now
  · exact List.Sublist.refl _

theorem Regular.store_perm (regular : map.Regular) (key : K) (entry : Entry V) :
    (map.store key entry).entries.Perm
      ((key, entry) :: (map.roomFor entry.createdAt key).entries.filter (·.1 ≠ key)) :=
  place_perm key entry
    (regular.single.sublist ((map.roomFor_sublist entry.createdAt key).map Prod.fst))

/-- Making room drops nothing that is live without counting it. -/
theorem mem_roomFor_or_evicted {pair : K × Entry V} (member : pair ∈ map.live now) :
    pair ∈ (map.roomFor now key).entries ∨ map.evictions < (map.roomFor now key).evictions := by
  unfold roomFor
  split
  · simp only [makeRoom]
    split
    · exact Or.inl member
    · right
      unfold evict
      cases found : oldest? (map.purge now).2.entries with
      | none =>
        have nothing : map.live now = [] := oldest?_eq_none_iff.mp found
        rw [nothing] at member
        cases member
      | some oldest => exact Nat.lt_succ_self map.evictions
  · exact Or.inl (mem_live.mp member).1

/-- A live entry of another key is kept by a store, unless it is evicted. -/
theorem Regular.mem_store_or_evicted (regular : map.Regular) (entry : Entry V) {pair : K × Entry V}
    (member : pair ∈ map.live entry.createdAt) (different : pair.1 ≠ key) :
    pair ∈ (map.store key entry).entries ∨
      ExpiringMap.entry? (map.store key entry) pair.1 = none ∧
        map.evictions < (map.store key entry).evictions := by
  have stored := regular.store_perm key entry
  by_cases kept : pair ∈ (map.roomFor entry.createdAt key).entries
  · left
    refine stored.mem_iff.mpr (List.mem_cons_of_mem _ (List.mem_filter.mpr ⟨kept, ?_⟩))
    exact decide_eq_true different
  · refine Or.inr ⟨entry?_eq_none_iff.mpr fun other present same => ?_, ?_⟩
    · rcases List.mem_cons.mp (stored.mem_iff.mp present) with rfl | old
      · exact different same.symm
      · -- No other entry has the key of the one that was dropped.
        have left := (List.mem_filter.mp old).1
        have was := (map.roomFor_sublist entry.createdAt key).subset left
        obtain rfl := eq_of_nodup regular.single was (mem_live.mp member).1 same
        exact kept left
    · exact (mem_roomFor_or_evicted member).resolve_left kept

/-! ### What always holds -/

theorem maxEntries_evict (map : ExpiringMap K V) : map.evict.maxEntries = map.maxEntries := by
  unfold evict
  cases oldest? map.entries <;> rfl

theorem maxEntries_roomFor (map : ExpiringMap K V) (now : Moment) (key : K) :
    (map.roomFor now key).maxEntries = map.maxEntries := by
  simp only [roomFor, makeRoom]
  split
  · split
    · rfl
    · exact maxEntries_evict _
  · rfl

omit [DecidableEq K] in
theorem Regular.new (ttl : Span) (maxEntries : Nat) :
    (ExpiringMap.new ttl maxEntries : ExpiringMap K V).Regular where
  single := List.nodup_nil
  bounded := Nat.zero_le _
  roomy := Nat.lt_of_lt_of_le Nat.zero_lt_one (Nat.le_max_right _ _)

omit [DecidableEq K] in
/-- Dropping entries keeps what always holds. -/
theorem Regular.forget (regular : map.Regular) {after : ExpiringMap K V}
    (kept : after.entries.Sublist map.entries) (bound : after.maxEntries = map.maxEntries) :
    after.Regular where
  single := regular.single.sublist (kept.map Prod.fst)
  bounded := by
    rw [bound]
    exact Nat.le_trans kept.length_le regular.bounded
  roomy := by
    rw [bound]
    exact regular.roomy

omit [DecidableEq K] in
/-- A removal by condition counts the entries that satisfy it. -/
theorem removeWhere_fst (map : ExpiringMap K V) (condition : K → V → Bool) :
    (map.removeWhere condition).1 =
      map.entries.countP fun pair => condition pair.1 pair.2.value := by
  have split := List.length_eq_countP_add_countP
    (fun pair : K × Entry V => condition pair.1 pair.2.value) (l := map.entries)
  have kept : (map.removeWhere condition).2.entries.length =
      map.entries.countP fun pair => decide ¬condition pair.1 pair.2.value = true := by
    rw [List.countP_eq_length_filter]
    refine congrArg List.length (List.filter_congr fun pair _ => ?_)
    show (!condition pair.1 pair.2.value) = _
    cases condition pair.1 pair.2.value <;> rfl
  show map.entries.length - (map.removeWhere condition).2.entries.length = _
  omega

/-- It leaves every other entry as it was, and none that satisfies the condition. -/
theorem Regular.entry?_removeWhere_eq_some_iff (regular : map.Regular)
    {condition : K → V → Bool} :
    entry? (map.removeWhere condition).2 key = some entry ↔
      map.entry? key = some entry ∧ condition key entry.value = false := by
  have still := regular.forget (map.removeWhere_sublist condition) rfl
  rw [still.entry?_eq_some_iff, regular.entry?_eq_some_iff, removeWhere, List.mem_filter,
    Bool.not_eq_true']

theorem Regular.get (regular : map.Regular) (now : Moment) (key : K) :
    (map.get now key).2.Regular := by
  refine regular.forget (get_sublist map now key) ?_
  unfold ExpiringMap.get
  cases map.live? now key <;> rfl

theorem Regular.store (regular : map.Regular) (key : K) (entry : Entry V) :
    (map.store key entry).Regular := by
  have stored := regular.store_perm key entry
  have room := map.roomFor_sublist entry.createdAt key
  have bound : (map.store key entry).maxEntries = map.maxEntries :=
    maxEntries_roomFor map entry.createdAt key
  refine ⟨?_, ?_, by rw [bound]; exact regular.roomy⟩
  · rw [(stored.map Prod.fst).nodup_iff, List.map_cons, List.nodup_cons]
    constructor
    · intro again
      obtain ⟨pair, member, same⟩ := List.mem_map.mp again
      exact absurd same (of_decide_eq_true (List.mem_filter.mp member).2)
    · exact (regular.single.sublist (room.map Prod.fst)).sublist (List.filter_sublist.map Prod.fst)
  · rw [bound]
    show (map.store key entry).entries.length ≤ map.maxEntries
    rw [stored.length_eq, List.length_cons]
    cases found : map.entry? key with
    | some old =>
      -- The entry of the key makes place for the new one.
      have same : map.roomFor entry.createdAt key = map := by
        rw [roomFor, if_neg (by simp [found])]
      rw [same]
      have fewer := List.length_filter_lt_length_iff_exists (l := map.entries)
        (p := fun pair : K × Entry V => decide (pair.1 ≠ key)) |>.mpr
        ⟨(key, old), mem_entries_of_found found, by simp⟩
      exact Nat.le_trans fewer regular.bounded
    | none =>
      have others : ((map.roomFor entry.createdAt key).entries.filter (·.1 ≠ key)).length ≤
          (map.roomFor entry.createdAt key).size := List.length_filter_le _ _
      have fewer : (map.roomFor entry.createdAt key).size < map.maxEntries := by
        unfold roomFor
        split
        · rename_i full
          exact regular.makeRoom_size_lt full.2 _
        · rename_i room
          simp only [found, Option.isNone_none, true_and] at room
          exact Nat.not_le.mp room
      omega

end UserDashboard.Cache.ExpiringMap
