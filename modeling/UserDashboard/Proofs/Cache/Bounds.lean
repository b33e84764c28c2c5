/-
This file proves how much an expiring map holds, for how long, and what it counts.

Expired entries count towards the bound until something removes them, so making room has to free a
place in each of its cases; it drops a live entry only when nothing has expired, and then exactly
one. An entry is held as it was stored: what is known of the step that stored it, its moment and the
deadline given then, holds of the entry in every later state.
-/

import Mathlib.Algebra.Order.Ring.Nat
import UserDashboard.Proofs.Cache.LiveMap

namespace UserDashboard.Cache

open Time

/-- Whether a key is looked up. -/
def Operation.looksUp {K V : Type} : Operation K V → Bool
  | .get _ => true
  | _ => false

/-- An insertion takes no time. -/
theorem Operation.timeAfter_of_inserts {K V : Type} {operation : Operation K V}
    (inserts : operation.inserts) (now : Moment) : operation.timeAfter now = now := by
  cases operation <;> first | rfl | cases inserts

namespace ExpiringMap

variable {K V : Type} [DecidableEq K] {map after : ExpiringMap K V} {now start : Moment} {key : K}
  {entry : Entry V} {operation : Operation K V} {ttl : Span} {maxEntries : Nat}

/-! ### What a store drops -/

/-- The live entries of other keys that are not held any more after something was stored under a
key. -/
def displaced (map after : ExpiringMap K V) (now : Moment) (key : K) : List (K × Entry V) :=
  (map.live now).filter fun pair => pair.1 ≠ key && (after.entry? pair.1).isNone

theorem displaced_self (map : ExpiringMap K V) (now : Moment) (key : K) :
    map.displaced map now key = [] := by
  rw [displaced, List.filter_eq_nil_iff]
  intro pair member
  simp [Option.isNone_iff_eq_none, entry?_ne_none (mem_live.mp member).1]

theorem Regular.mem_store_iff (regular : map.Regular) {pair : K × Entry V} :
    pair ∈ (map.store key entry).entries ↔
      pair = (key, entry) ∨ pair ∈ (map.roomFor entry.createdAt key).entries ∧ pair.1 ≠ key := by
  rw [(regular.store_perm key entry).mem_iff, List.mem_cons, List.mem_filter, decide_eq_true_iff]

/-- As long as no eviction is counted, every live entry of another key is still held. -/
theorem Regular.displaced_of_spared (regular : map.Regular)
    (spared : (map.store key entry).evictions = map.evictions) :
    map.displaced (map.store key entry) entry.createdAt key = [] := by
  rw [displaced, List.filter_eq_nil_iff]
  intro pair member gone
  rw [Bool.and_eq_true, decide_eq_true_iff, Option.isNone_iff_eq_none] at gone
  rcases regular.mem_store_or_evicted entry member gone.1 with kept | ⟨-, evicted⟩
  · exact entry?_ne_none kept gone.2
  · exact absurd evicted (by omega)

/-- Room is made by an eviction only when the map is full of live entries. -/
theorem Regular.roomFor_of_evicted (regular : map.Regular)
    (evicted : (map.roomFor now key).evictions ≠ map.evictions) :
    map.maxEntries ≤ map.size ∧ map.entry? key = none ∧ map.live now = map.entries ∧
      map.roomFor now key = (map.purge now).2.evict := by
  unfold roomFor at evicted ⊢
  split at evicted
  · rename_i full
    rw [if_pos full]
    rw [regular.makeRoom_eq full.2] at evicted ⊢
    split at evicted
    · exact absurd rfl evicted
    · rename_i crowded
      have enough : map.entries.length ≤ (map.live now).length :=
        Nat.le_trans regular.bounded (Nat.not_lt.mp crowded)
      exact ⟨full.2, Option.isNone_iff_eq_none.mp full.1,
        (map.live_sublist now).eq_of_length_le enough, if_neg crowded⟩
  · exact absurd rfl evicted

/-- An eviction drops one entry with its key, and counts it. -/
theorem exists_evicted (filled : map.entries ≠ []) :
    ∃ oldest ∈ map.entries, map.evict.evictions = map.evictions + 1 ∧
      ∀ pair, pair ∈ map.evict.entries ↔ pair ∈ map.entries ∧ pair.1 ≠ oldest.1 := by
  unfold evict
  cases found : oldest? map.entries with
  | none => exact absurd (oldest?_eq_none_iff.mp found) filled
  | some oldest => exact ⟨oldest, (oldest?_le found).1, rfl, fun pair => mem_erase⟩

/-- A store drops no live entry, or it drops one and all entries were live. -/
theorem Regular.displaced_store (regular : map.Regular) (key : K) (entry : Entry V) :
    ((map.store key entry).evictions = map.evictions ∧
      map.displaced (map.store key entry) entry.createdAt key = []) ∨
    ((map.store key entry).evictions = map.evictions + 1 ∧
      map.live entry.createdAt = map.entries ∧
      ∃ oldest, map.displaced (map.store key entry) entry.createdAt key = [oldest]) := by
  by_cases spared : (map.store key entry).evictions = map.evictions
  · exact Or.inl ⟨spared, regular.displaced_of_spared spared⟩
  right
  have evicted : (map.roomFor entry.createdAt key).evictions ≠ map.evictions := spared
  obtain ⟨full, absent, alive, made⟩ := regular.roomFor_of_evicted evicted
  have purged : (map.purge entry.createdAt).2.entries = map.entries := alive
  have filled : (map.purge entry.createdAt).2.entries ≠ [] := by
    rw [purged]
    intro empty
    have none : map.size = 0 := by rw [size, empty, List.length_nil]
    exact absurd regular.roomy (by omega)
  obtain ⟨oldest, member, counted, left⟩ := exists_evicted filled
  rw [purged] at member
  rw [← made, purged] at left
  have fresh : ∀ other ∈ map.entries, other.1 ≠ key := entry?_eq_none_iff.mp absent
  refine ⟨(congrArg evictions made).trans counted, alive, oldest, ?_⟩
  rw [displaced, alive, ← filter_of_nodup regular.single member]
  refine List.filter_congr fun pair present => ?_
  rw [Bool.eq_iff_iff, Bool.and_eq_true, decide_eq_true_iff, decide_eq_true_iff,
    Option.isNone_iff_eq_none, entry?_eq_none_iff]
  constructor
  · rintro ⟨different, gone⟩
    by_cases same : pair.1 = oldest.1
    · exact same
    · exact absurd rfl (gone pair (regular.mem_store_iff.mpr
        (Or.inr ⟨(left pair).mpr ⟨present, same⟩, different⟩)))
  · intro same
    refine ⟨fresh pair present, fun other held alike => ?_⟩
    rcases regular.mem_store_iff.mp held with rfl | ⟨old, -⟩
    · exact fresh pair present alike.symm
    · exact ((left other).mp old).2 (alike.trans same)

/-! ### What an operation does -/

/-- An operation stored an entry of its moment under a key, and this is what was known of it. -/
def Storing (ttl : Span) (now : Moment) (operation : Operation K V) (reply : Reply V) (key : K)
    (entry : Entry V) : Prop :=
  entry.createdAt = now ∧
    ((operation = .insert key entry.value ∧ reply = .done ∧
        entry.expiresAt = now + ttl.nanos) ∨
      ∃ deadline, operation = .insertUntil key entry.value deadline ∧ reply = .told true ∧
        now < deadline ∧ entry.expiresAt = min deadline (now + ttl.nanos))

/-- What an operation can do to the entries and to the count of evictions. -/
inductive Effect (map : ExpiringMap K V) (now : Moment) (operation : Operation K V)
    (reply : Reply V) : ExpiringMap K V → Prop where
  /-- It stored an entry. -/
  | stored {key : K} {entry : Entry V} (storing : Storing map.ttl now operation reply key entry) :
      Effect map now operation reply (map.store key entry)
  /-- It was refused. -/
  | refused (nothing : ∀ key entry, ¬Storing map.ttl now operation reply key entry) :
      Effect map now operation reply map
  /-- It stored nothing, and may have dropped entries. -/
  | dropped {after : ExpiringMap K V} (harmless : operation.inserts = false)
      (kept : after.entries.Sublist map.entries) (ttl : after.ttl = map.ttl)
      (bound : after.maxEntries = map.maxEntries) (evictions : after.evictions = map.evictions) :
      Effect map now operation reply after

omit [DecidableEq K] in
/-- Whatever stores an entry is an insertion under its key. -/
theorem Storing.inserts {reply : Reply V} (storing : Storing ttl now operation reply key entry) :
    operation.inserts := by
  rcases storing.2 with ⟨rfl, -⟩ | ⟨deadline, rfl, -⟩ <;> rfl

theorem effect_get (map : ExpiringMap K V) (now : Moment) (key : K) :
    Effect map now (.get key) (.found (map.get now key).1) (map.get now key).2 := by
  refine .dropped rfl (get_sublist map now key) (ttl_get map now key) ?_ ?_
  · unfold get
    cases map.live? now key <;> rfl
  · unfold get
    cases map.live? now key <;> rfl

/-- What an operation comes to is one of these. -/
theorem effect_perform (map : ExpiringMap K V) (now : Moment) (operation : Operation K V) :
    Effect map now operation (map.perform now operation).1 (map.perform now operation).2 := by
  cases operation with
  | insert key value =>
    simp only [perform, insert?]
    cases told : later? now map.ttl with
    | none =>
      refine .refused fun other entry storing => ?_
      rcases storing.2 with ⟨-, replied, -⟩ | ⟨deadline, acts, -⟩
      · cases replied
      · cases acts
    | some expiry => exact .stored ⟨rfl, Or.inl ⟨rfl, rfl, eq_of_later? told⟩⟩
  | insertUntil key value deadline =>
    simp only [perform, insertUntil?]
    by_cases passed : deadline ≤ now
    · rw [if_pos passed]
      refine .refused fun other entry storing => ?_
      rcases storing.2 with ⟨acts, -⟩ | ⟨deadline, -, replied, -⟩
      · cases acts
      · cases replied
    · rw [if_neg passed]
      cases told : later? now map.ttl with
      | none =>
        refine .refused fun other entry storing => ?_
        rcases storing.2 with ⟨acts, -⟩ | ⟨deadline, -, replied, -⟩
        · cases acts
        · cases replied
      | some expiry =>
        refine .stored ⟨rfl, Or.inr ⟨deadline, rfl, rfl, Int.not_le.mp passed, ?_⟩⟩
        rw [eq_of_later? told]
  | get key => exact effect_get map now key
  | containsLive key => exact .dropped rfl (List.Sublist.refl _) rfl rfl rfl
  | remove key => exact .dropped rfl (erase_sublist map key) rfl rfl rfl
  | removeWhere condition => exact .dropped rfl (removeWhere_sublist map condition) rfl rfl rfl
  | purge => exact .dropped rfl (purge_sublist map now) rfl rfl rfl
  | clear => exact .dropped rfl (List.nil_sublist _) rfl rfl rfl
  | wait nanos => exact .dropped rfl (List.Sublist.refl _) rfl rfl rfl

/-- A look-up is counted once, and nothing else is. -/
theorem lookUps_perform (map : ExpiringMap K V) (now : Moment) (operation : Operation K V) :
    (map.perform now operation).2.hits + (map.perform now operation).2.misses =
      map.hits + map.misses + if operation.looksUp then 1 else 0 := by
  have storing (key : K) (entry : Entry V) : (map.store key entry).hits +
      (map.store key entry).misses = map.hits + map.misses := by
    obtain ⟨hits, misses⟩ := lookUps_store map key entry
    rw [hits, misses]
  cases operation with
  | insert key value =>
    simp only [perform, insert?]
    cases later? now map.ttl with
    | none => rfl
    | some expiry => exact storing key _
  | insertUntil key value deadline =>
    simp only [perform, insertUntil?]
    by_cases passed : deadline ≤ now
    · rw [if_pos passed]
      rfl
    · rw [if_neg passed]
      cases later? now map.ttl with
      | none => rfl
      | some expiry => exact storing key _
  | get key =>
    simp only [perform, get]
    cases map.live? now key with
    | some value => exact Nat.add_right_comm _ _ _
    | none => rfl
  | containsLive | remove | removeWhere | purge | clear | wait => rfl

theorem Effect.regular {reply : Reply V} (effect : Effect map now operation reply after)
    (regular : map.Regular) : after.Regular := by
  cases effect with
  | stored => exact regular.store _ _
  | refused => exact regular
  | dropped harmless kept ttl bound => exact regular.forget kept bound

theorem Effect.ttl_eq {reply : Reply V} (effect : Effect map now operation reply after) :
    after.ttl = map.ttl := by
  cases effect with
  | stored => exact ttl_store map _ _
  | refused => rfl
  | dropped harmless kept ttl => exact ttl

theorem Effect.maxEntries_eq {reply : Reply V} (effect : Effect map now operation reply after) :
    after.maxEntries = map.maxEntries := by
  cases effect with
  | stored => exact maxEntries_roomFor map _ _
  | refused => rfl
  | dropped harmless kept ttl bound => exact bound

/-- What is held after an operation was stored by it, or was held before and stayed at its key. -/
theorem Effect.mem {reply : Reply V} (effect : Effect map now operation reply after)
    (regular : map.Regular) {pair : K × Entry V} (member : pair ∈ after.entries) :
    Storing map.ttl now operation reply pair.1 pair.2 ∨
      pair ∈ map.entries ∧ ∀ entry, ¬Storing map.ttl now operation reply pair.1 entry := by
  cases effect with
  | @stored key entry storing =>
    rcases regular.mem_store_iff.mp member with rfl | ⟨old, different⟩
    · exact Or.inl storing
    · refine Or.inr ⟨(map.roomFor_sublist _ _).subset old, fun other again => different ?_⟩
      rcases storing.2 with ⟨rfl, -⟩ | ⟨deadline, rfl, -⟩
      · rcases again.2 with ⟨acts, -⟩ | ⟨deadline, acts, -⟩
        · exact (Operation.insert.inj acts).1.symm
        · cases acts
      · rcases again.2 with ⟨acts, -⟩ | ⟨deadline, acts, -⟩
        · cases acts
        · exact (Operation.insertUntil.inj acts).1.symm
  | refused nothing => exact Or.inr ⟨member, fun entry => nothing pair.1 entry⟩
  | dropped harmless kept =>
    refine Or.inr ⟨kept.subset member, fun entry storing => ?_⟩
    rw [storing.inserts] at harmless
    cases harmless

/-! ### Runs -/

section Runs

variable {state : Timed (ExpiringMap K V)}
  {steps : List (Step (Timed (ExpiringMap K V)) (Operation K V) (Reply V))}
  {step : Step (Timed (ExpiringMap K V)) (Operation K V) (Reply V)}

/-- The live entries that a step dropped to make room. -/
def displacedIn (step : Step (Timed (ExpiringMap K V)) (Operation K V) (Reply V)) :
    List (K × Entry V) :=
  match step.action with
  | .insert key _ => step.before.map.displaced step.after.map step.before.now key
  | .insertUntil key _ _ => step.before.map.displaced step.after.map step.before.now key
  | _ => []

/-- A step stored an entry under a key. -/
def StoresIn (ttl : Span) (step : Step (Timed (ExpiringMap K V)) (Operation K V) (Reply V))
    (key : K) (entry : Entry V) : Prop :=
  Storing ttl step.before.now step.action step.output key entry

/-- An entry is as the last step stored it that stored something under its key. -/
def HeldSince (ttl : Span) (steps : List (Step (Timed (ExpiringMap K V)) (Operation K V) (Reply V)))
    (pair : K × Entry V) : Prop :=
  ∃ earlier step later, steps = earlier ++ step :: later ∧ StoresIn ttl step pair.1 pair.2 ∧
    ∀ other ∈ later, ∀ entry, ¬StoresIn ttl other pair.1 entry

/-- What a step does to the map. -/
theorem effect_of_taken {before after : Timed (ExpiringMap K V)} {reply : Reply V}
    (taken : system K V before operation = some (after, reply)) :
    Effect before.map (operation.timeAfter before.now) operation reply after.map := by
  obtain ⟨reached, told⟩ := Prod.mk.inj (Option.some.inj taken)
  rw [← reached, ← told]
  exact effect_perform _ _ _

theorem now_of_taken {before after : Timed (ExpiringMap K V)} {reply : Reply V}
    (taken : system K V before operation = some (after, reply)) :
    after.now = operation.timeAfter before.now :=
  (congrArg Timed.now (Prod.mk.inj (Option.some.inj taken)).1).symm

omit [DecidableEq K] in
theorem storesIn_of_storing
    (storing : Storing ttl (step.action.timeAfter step.before.now) step.action step.output key
      entry) : StoresIn ttl step key entry := by
  rwa [Operation.timeAfter_of_inserts storing.inserts] at storing

omit [DecidableEq K] in
theorem StoresIn.storing (stores : StoresIn ttl step key entry) :
    Storing ttl (step.action.timeAfter step.before.now) step.action step.output key entry := by
  rwa [Operation.timeAfter_of_inserts (Storing.inserts stores)]

/-! ### What a run drops -/

theorem displacedIn_of_stores (stores : StoresIn ttl step key entry) :
    displacedIn step = step.before.map.displaced step.after.map step.before.now key := by
  unfold displacedIn
  rcases stores.2 with ⟨acts, -⟩ | ⟨deadline, acts, -⟩
  · rw [acts]
  · rw [acts]

theorem displacedIn_of_same (same : step.after.map = step.before.map) : displacedIn step = [] := by
  unfold displacedIn
  rw [same]
  split
  · exact displaced_self _ _ _
  · exact displaced_self _ _ _
  · rfl

theorem displacedIn_of_harmless (harmless : step.action.inserts = false) :
    displacedIn step = [] := by
  unfold displacedIn
  split
  · rename_i acts
    rw [acts] at harmless
    cases harmless
  · rename_i acts
    rw [acts] at harmless
    cases harmless
  · rfl

/-- What a step drops to make room, at most one live entry and none beside an expired one, is what
it counts as evicted. -/
theorem evictions_of_taken
    (step : Step (Timed (ExpiringMap K V)) (Operation K V) (Reply V))
    (taken : system K V step.before step.action = some (step.after, step.output))
    (regular : step.before.map.Regular) :
    step.after.map.evictions = step.before.map.evictions + (displacedIn step).length ∧
      (displacedIn step).length ≤ 1 ∧
      ((∃ pair ∈ step.before.map.entries, pair.2.isExpired step.before.now) →
        displacedIn step = []) := by
  have effect := effect_of_taken taken
  generalize held : step.after.map = after at effect
  cases effect with
  | @stored key entry storing =>
    have stores := storesIn_of_storing storing
    have created : entry.createdAt = step.before.now := stores.1
    rw [displacedIn_of_stores stores, held, ← created]
    rcases regular.displaced_store key entry with ⟨counted, none⟩ | ⟨counted, alive, oldest, one⟩
    · rw [counted, none]
      exact ⟨rfl, Nat.zero_le _, fun _ => rfl⟩
    · rw [counted, one]
      refine ⟨rfl, Nat.le_refl _, ?_⟩
      rintro ⟨pair, member, expired⟩
      rw [← alive, mem_live, ← Entry.isExpired_eq_false_iff, expired] at member
      cases member.2
  | refused =>
    rw [displacedIn_of_same held]
    exact ⟨rfl, Nat.zero_le _, fun _ => rfl⟩
  | dropped harmless kept ttl bound evictions =>
    rw [displacedIn_of_harmless harmless]
    exact ⟨evictions, Nat.zero_le _, fun _ => rfl⟩

theorem regular_of_trace (trace : Trace (system K V) ⟨start, .new ttl maxEntries⟩ steps state) :
    state.map.Regular := by
  induction trace with
  | nil => exact .new ttl maxEntries
  | snoc trace taken inductionHypothesis =>
    exact (effect_of_taken taken).regular inductionHypothesis

theorem regular_before (trace : Trace (system K V) ⟨start, .new ttl maxEntries⟩ steps state)
    (member : step ∈ steps) : step.before.map.Regular := by
  obtain ⟨earlier, later, rfl⟩ := List.append_of_mem member
  exact regular_of_trace trace.split.1

/-- In every state the evictions counted are the live entries dropped so far to make room. -/
theorem evictions_of_trace (trace : Trace (system K V) ⟨start, .new ttl maxEntries⟩ steps state) :
    state.map.evictions = (steps.map fun step => (displacedIn step).length).sum := by
  induction trace with
  | nil => rfl
  | @snoc steps before after operation reply trace taken inductionHypothesis =>
    obtain ⟨counted, -⟩ := evictions_of_taken ⟨before, operation, reply, after⟩ taken
      (regular_of_trace trace)
    rw [List.map_append, List.sum_append, List.map_singleton, List.sum_singleton,
      ← inductionHypothesis]
    exact counted

/-! ### What a run holds -/

/-- In every state there were as many hits and misses as look-ups. -/
theorem lookUps_of_trace (trace : Trace (system K V) ⟨start, .new ttl maxEntries⟩ steps state) :
    state.map.hits + state.map.misses = steps.countP fun step => step.action.looksUp := by
  induction trace with
  | nil => rfl
  | @snoc steps before after operation reply trace taken inductionHypothesis =>
    obtain ⟨reached, -⟩ := Prod.mk.inj (Option.some.inj taken)
    rw [List.countP_append, List.countP_singleton, ← inductionHypothesis, ← reached]
    exact lookUps_perform before.map _ operation

/-- The time to live and the bound are those that a map was made with. -/
theorem setUp_of_trace (trace : Trace (system K V) ⟨start, .new ttl maxEntries⟩ steps state) :
    state.map.ttl = ttl ∧ state.map.maxEntries = max maxEntries 1 := by
  induction trace with
  | nil => exact ⟨rfl, rfl⟩
  | snoc trace taken inductionHypothesis =>
    have effect := effect_of_taken taken
    exact ⟨effect.ttl_eq.trans inductionHypothesis.1,
      effect.maxEntries_eq.trans inductionHypothesis.2⟩

omit [DecidableEq K] in
theorem HeldSince.snoc {pair : K × Entry V} (held : HeldSince ttl steps pair)
    (spared : ∀ entry, ¬StoresIn ttl step pair.1 entry) :
    HeldSince ttl (steps ++ [step]) pair := by
  obtain ⟨earlier, storing, later, rfl, stores, since⟩ := held
  refine ⟨earlier, storing, later ++ [step], by simp, stores, fun other member => ?_⟩
  rcases List.mem_append.mp member with old | last
  · exact since other old
  · rw [List.mem_singleton.mp last]
    exact spared

/-- Whatever is held is held as it was stored last under its key, at a moment that has come. -/
theorem heldSince_of_trace
    (trace : Trace (system K V) ⟨start, .new ttl maxEntries⟩ steps state)
    {pair : K × Entry V} (member : pair ∈ state.map.entries) :
    pair.2.createdAt ≤ state.now ∧ HeldSince ttl steps pair := by
  induction trace with
  | nil => cases member
  | @snoc steps before after operation reply trace taken inductionHypothesis =>
    let step : Step (Timed (ExpiringMap K V)) (Operation K V) (Reply V) :=
      ⟨before, operation, reply, after⟩
    have later : before.now ≤ after.now := by
      rw [now_of_taken taken]
      exact operation.le_timeAfter before.now
    rcases (effect_of_taken taken).mem (regular_of_trace trace) member with storing | ⟨old, spared⟩
    · rw [(setUp_of_trace trace).1] at storing
      have stores : StoresIn ttl step pair.1 pair.2 := storesIn_of_storing storing
      refine ⟨?_, steps, step, [], rfl, stores, fun other none => by cases none⟩
      rw [stores.1]
      exact later
    · obtain ⟨created, held⟩ := inductionHypothesis old
      rw [(setUp_of_trace trace).1] at spared
      have since : ∀ entry, ¬StoresIn ttl step pair.1 entry :=
        fun entry stores => spared entry stores.storing
      exact ⟨Int.le_trans created later, held.snoc since⟩

omit [DecidableEq K] in
/-- An entry lives no longer than the time to live allows. -/
theorem HeldSince.expiresAt_le {pair : K × Entry V} (held : HeldSince ttl steps pair) :
    pair.2.expiresAt ≤ pair.2.createdAt + ttl.nanos := by
  obtain ⟨-, step, -, -, ⟨created, stored⟩, -⟩ := held
  rw [created]
  rcases stored with ⟨-, -, expiry⟩ | ⟨deadline, -, -, -, expiry⟩
  · exact Int.le_of_eq expiry
  · rw [expiry]
    exact Int.min_le_right _ _

/-- What a map holds and counts after any run. It holds no more entries than its bound allows,
expired ones included. Each was stored at a moment that has come, expires within the time to live,
and is as the last insertion under its key stored it, no later than the deadline given then. What is
reported adds up. There were as many hits and misses as look-ups. The evictions are the live entries
that were dropped to make room, at most one by an insertion and none by one that met an expired
entry. -/
theorem held_and_counted
    (trace : Trace (system K V) ⟨start, .new ttl maxEntries⟩ steps state) :
    state.map.size ≤ max maxEntries 1 ∧
    (∀ pair ∈ state.map.entries, pair.2.createdAt ≤ state.now ∧
      pair.2.expiresAt ≤ pair.2.createdAt + ttl.nanos ∧ HeldSince ttl steps pair) ∧
    (∀ moment, (state.map.stats moment).total = state.map.size ∧
      (state.map.stats moment).active = (state.map.live moment).length ∧
      (state.map.stats moment).active + (state.map.stats moment).expired = state.map.size) ∧
    state.map.hits + state.map.misses = steps.countP (fun step => step.action.looksUp) ∧
    state.map.evictions = (steps.map fun step => (displacedIn step).length).sum ∧
    ∀ step ∈ steps, (displacedIn step).length ≤ 1 ∧
      ((∃ pair ∈ step.before.map.entries, pair.2.isExpired step.before.now) →
        displacedIn step = []) := by
  have bounded := (regular_of_trace trace).bounded
  rw [(setUp_of_trace trace).2] at bounded
  refine ⟨bounded, fun pair member => ?_, fun moment => ?_, lookUps_of_trace trace,
    evictions_of_trace trace, fun step member => ?_⟩
  · obtain ⟨created, held⟩ := heldSince_of_trace trace member
    exact ⟨created, held.expiresAt_le, held⟩
  · refine ⟨rfl, state.map.stats_active moment, Nat.sub_add_cancel ?_⟩
    exact List.countP_le_length
  · exact (evictions_of_taken step (trace.taken member) (regular_before trace member)).2

end Runs

/-- A map for two entries in which a third insertion meets an expired entry, and a fourth one drops
a live one. -/
theorem held_and_counted_of_crowded :
    ∃ steps state, Trace (system Nat Nat) ⟨0, .new ⟨10, by decide⟩ 2⟩ steps state ∧
      steps.map (fun step => (displacedIn step).length) = [0, 0, 0, 0, 0, 0, 0, 1, 0, 0] ∧
      state.map.evictions = 1 ∧ state.map.hits + state.map.misses = 2 ∧ state.map.size = 2 ∧
      ∀ pair ∈ state.map.entries, pair.2.createdAt ≤ state.now ∧
        pair.2.expiresAt ≤ pair.2.createdAt + 10 := by
  obtain ⟨steps, state, trace, checked⟩ := Trace.exists_of_run? (system Nat Nat)
    ⟨0, .new ⟨10, by decide⟩ 2⟩
    [.insert 1 10, .wait 4, .insert 2 20, .wait 7, .insert 3 30, .get 1, .wait 1,
      .insertUntil 4 40 15, .purge, .get 3]
    (fun steps state =>
      steps.map (fun step => (displacedIn step).length) = [0, 0, 0, 0, 0, 0, 0, 1, 0, 0] ∧
      steps.countP (fun step => step.action.looksUp) = 2 ∧ state.map.size = 2) (by decide +kernel)
  obtain ⟨dropped, looked, size⟩ := of_decide_eq_true checked
  obtain ⟨-, held, -, lookUps, evictions, -⟩ := held_and_counted trace
  refine ⟨steps, state, trace, dropped, ?_, ?_, size, fun pair member => ?_⟩
  · rw [evictions, dropped]
    rfl
  · rw [lookUps, looked]
  · obtain ⟨created, expires, -⟩ := held pair member
    exact ⟨created, expires⟩

end ExpiringMap

end UserDashboard.Cache
