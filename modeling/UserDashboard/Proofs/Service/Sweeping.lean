/-
This file proves that no cache of the service holds an entry for a period after its expiry.

The caches of credentials and of dashboards and plain maps are swept side by side, any number of
them, while they are used in every way that there is. Each stores entries only until a moment that
is still to come.
-/

import UserDashboard.Proofs.Cache.Bounds
import UserDashboard.Proofs.Cache.Ticking
import UserDashboard.Proofs.Credential.Cache
import UserDashboard.Proofs.Dashboard.Progress

namespace UserDashboard

open Cache Credential Dashboard Time

theorem Time.lt_add_nanos {span : Span} (lasting : 0 < span.nanos) (now : Moment) :
    now < now + span.nanos :=
  Int.lt_add_of_pos_right _ (Int.natCast_pos.mpr lasting)

/-! ### Maps -/

namespace Cache.ExpiringMap

variable {K V : Type} {map after : ExpiringMap K V} {now : Moment}

/-- When the entries of a map expire. -/
def expiries (map : ExpiringMap K V) : List Moment :=
  map.entries.map fun pair => pair.2.expiresAt

theorem expiries_subset (kept : after.entries.Sublist map.entries) {expiry : Moment}
    (member : expiry ∈ after.expiries) : expiry ∈ map.expiries :=
  (kept.map _).subset member

theorem expiries_purge (map : ExpiringMap K V) (now : Moment) :
    (map.purge now).2.expiries = map.expiries.filter (now < ·) := by
  simp only [expiries, purge, List.filter_map]
  congr 1
  refine List.filter_congr fun pair _ => ?_
  rw [Bool.eq_iff_iff, Bool.not_eq_true', Entry.isExpired_eq_false_iff]
  exact decide_eq_true_iff.symm

theorem removed_purge (map : ExpiringMap K V) (now : Moment) :
    (map.purge now).1 = map.expiries.countP (· ≤ now) := by
  have parts := List.length_eq_countP_add_countP (fun pair : K × Entry V => pair.2.isExpired now)
    (l := map.entries)
  simp only [Bool.not_eq_true, Bool.decide_eq_false] at parts
  rw [expiries, List.countP_map]
  simp only [purge]
  rw [parts, ← List.countP_eq_length_filter, Nat.add_sub_cancel_right]
  rfl

theorem Storing.now_lt {ttl : Span} {operation : Operation K V} {reply : Reply V} {key : K}
    {entry : Entry V} (storing : Storing ttl now operation reply key entry)
    (lasting : 0 < ttl.nanos) : now < entry.expiresAt := by
  have later := lt_add_nanos lasting now
  rcases storing.2 with ⟨-, -, expiry⟩ | ⟨deadline, -, -, ahead, expiry⟩
  · exact expiry ▸ later
  · exact expiry ▸ Int.lt_min.mpr ⟨ahead, later⟩

variable [DecidableEq K]

/-- What is stored expires after the moment at which it was stored. -/
theorem expiries_store {key : K} {entry : Entry V} (lives : now < entry.expiresAt)
    {expiry : Moment} (member : expiry ∈ (map.store key entry).expiries) :
    expiry ∈ map.expiries ∨ now < expiry := by
  obtain ⟨pair, held, rfl⟩ := List.mem_map.mp member
  rcases mem_store held with rfl | old
  · exact Or.inr lives
  · exact Or.inl (List.mem_map_of_mem old)

theorem Effect.expiries {operation : Operation K V} {reply : Reply V}
    (effect : Effect map now operation reply after) (lasting : 0 < map.ttl.nanos)
    {expiry : Moment} (member : expiry ∈ after.expiries) :
    expiry ∈ map.expiries ∨ now < expiry := by
  cases effect with
  | stored storing => exact expiries_store (storing.now_lt lasting) member
  | refused => exact Or.inl member
  | dropped _ kept => exact Or.inl (expiries_subset kept member)

instance : TimedStore (ExpiringMap K V) (Operation K V) where
  use? now map operation := some (map.perform now operation).2
  ttl := ExpiringMap.ttl
  expiries := ExpiringMap.expiries
  removed_sweep now map := map.removed_purge now
  expiries_sweep now map := map.expiries_purge now
  ttl_sweep _ _ := rfl
  ttl_use led := Option.some.inj led ▸ (effect_perform _ _ _).ttl_eq
  expiries_use led lasting _ member :=
    (effect_perform _ _ _).expiries lasting (Option.some.inj led ▸ member)

end Cache.ExpiringMap

/-! ### Credentials -/

namespace Credential

theorem Desk.Change.expiries {desk after : Desk} {action : Desk.Action} {output : Option Answer}
    (changed : desk.Change action output after) (lasting : 0 < desk.cache.entries.ttl.nanos)
    {expiry : Moment} (member : expiry ∈ after.cache.entries.expiries) :
    expiry ∈ desk.cache.entries.expiries ∨ desk.now < expiry := by
  cases changed with
  | quiet _ _ _ kept => exact Or.inl (ExpiringMap.expiries_subset kept member)
  | @resolved raw _ cache resolving =>
    have looked := desk.cache.looked_sublist desk.now raw
    cases resolving with
    | malformed => exact Or.inl member
    | remembered | verified | untold => exact Or.inl (ExpiringMap.expiries_subset looked member)
    | stored _ _ _ valid told =>
      have later := lt_add_nanos lasting desk.now
      rcases ExpiringMap.expiries_store
        (Int.lt_min.mpr ⟨valid, eq_of_later? told ▸ later⟩) member with old | live
      · exact Or.inl (ExpiringMap.expiries_subset looked old)
      · exact Or.inr live

instance : TimedStore CredentialCache Desk.Action where
  sweep now cache := cache.sweep now
  use? now cache action := (Desk.step? ⟨now, cache⟩ action).map fun (desk, _) => desk.cache
  ttl cache := cache.entries.ttl
  expiries cache := cache.entries.expiries
  removed_sweep now cache := cache.entries.removed_purge now
  expiries_sweep now cache := cache.entries.expiries_purge now
  ttl_sweep _ _ := rfl
  ttl_use led := by
    obtain ⟨⟨desk, output⟩, taken, rfl⟩ := Option.map_eq_some_iff.mp led
    exact (Desk.change_of_step taken).setUp.ttl
  expiries_use led lasting expiry member := by
    obtain ⟨⟨desk, output⟩, taken, rfl⟩ := Option.map_eq_some_iff.mp led
    exact (Desk.change_of_step taken).expiries lasting member

end Credential

/-! ### Dashboards -/

namespace Dashboard

theorem Aggregation.Change.expiries {state after : Aggregation} {action : Aggregation.Action}
    {events : List Event} (changed : Aggregation.Change state action events after)
    (lasting : 0 < state.ttl.nanos) {expiry : Moment}
    (member : expiry ∈ after.snapshots.entries.expiries) :
    expiry ∈ state.snapshots.entries.expiries ∨ state.now < expiry := by
  obtain ⟨pair, held, rfl⟩ := List.mem_map.mp member
  rcases changed.stores held with old | ⟨refresh, run, entry, commits, rfl, -⟩
  · exact Or.inl (List.mem_map_of_mem old)
  · refine Or.inr ?_
    rw [eq_of_later? commits.told]
    exact lt_add_nanos lasting state.now

instance : TimedStore Aggregation Aggregation.Action where
  sweep now state := ({ state with now } : Aggregation).sweep
  use? now state action :=
    (({ state with now } : Aggregation).step? action).map fun (after, _) => { after with now }
  ttl state := state.ttl
  expiries state := state.snapshots.entries.expiries
  removed_sweep now state := state.snapshots.entries.removed_purge now
  expiries_sweep now state := state.snapshots.entries.expiries_purge now
  ttl_sweep _ _ := rfl
  ttl_use led := by
    obtain ⟨⟨after, events⟩, taken, rfl⟩ := Option.map_eq_some_iff.mp led
    exact (Aggregation.change_of_step taken).onward.ttl
  expiries_use led lasting expiry member := by
    obtain ⟨⟨after, events⟩, taken, rfl⟩ := Option.map_eq_some_iff.mp led
    exact (Aggregation.change_of_step taken).expiries lasting member

end Dashboard

namespace Service

/-! ### Caches of all kinds -/

/-- A cache that can be swept: a map, the credentials, or the dashboards. -/
abbrev AnyCache (K V : Type) := ExpiringMap K V ⊕ CredentialCache ⊕ Aggregation

/-- What a cache is used for. -/
abbrev AnyUse (K V : Type) := Operation K V ⊕ Desk.Action ⊕ Aggregation.Action

section

variable {K V : Type} [DecidableEq K] {initial state : Sweeping (AnyCache K V)} {period : Span}
  {steps : List (Step (Sweeping (AnyCache K V)) (Sweeping.Action (AnyUse K V)) Nat)}

/-- Any number of caches are used in any way while a sweeper runs. Once no tick is due, a period has
not passed since anything that is held expired, or since the start for what had expired before that.
Every tick sweeps all caches, and leaves in each what has not expired. Of two sweeps at one moment
the later one removes nothing. And however time passes, whether each tick is answered when it is due
or the clock moves in one step, there comes a state in which no tick is due. -/
theorem expired_within_period (running : (initial.start period).isFinished? = some false)
    (lasting : Sweeping.Lasting initial.targets)
    (trace : Trace Sweeping.step? (initial.start period) steps state) :
    (state.Settled → ∀ target ∈ state.targets, ∀ expiry ∈ TimedStore.expiries target.store,
      state.now < max expiry initial.now + period.nanos) ∧
    (∀ step ∈ steps, step.action = .tick →
      List.Forall₂ (Swept.ClearedAt step.before.now) step.before.targets step.after.targets) ∧
    steps.Pairwise (fun earlier later => earlier.action.sweeps → later.action.sweeps →
      later.before.now = earlier.before.now → later.output = 0) ∧
    ∀ nanos millis, ∀ next ∈ [state.sleep nanos, state.jump millis],
      next.Settled ∧ ∃ more, Trace Sweeping.step? state more next := by
  have timely : Sweeping.Timely initial.now period state :=
    trace.invariant (initial.timely_start lasting running) fun taken before =>
      before.step (Sweeping.change_of_step taken)
  refine ⟨fun settled target member expiry held => ?_, fun step member ticks => ?_,
    Sweeping.removed_of_trace trace lasting, fun nanos millis next reached => ?_⟩
  · exact timely.now_lt settled (List.mem_flatMap.mpr ⟨target, member, held⟩)
  · exact Sweeping.cleared_of_tick (Sweeping.change_of_step (trace.taken member)) ticks
  · rcases List.mem_pair.mp reached with rfl | rfl
    · exact ⟨timely.settled_sleep nanos, state.exists_trace_sleep nanos⟩
    · exact ⟨timely.settled_jump millis, state.exists_trace_jump millis⟩

end

/-- A map whose entries live for twelve milliseconds, and dashboards that do so too. -/
def mapAndDashboards : Sweeping (AnyCache Nat Nat) where
  now := 0
  targets := [⟨.inl (.new (.ofMillis 12) 2), 0⟩,
    ⟨.inr (.inr (.new 0 5 (.ofMillis 100) (fun _ _ => "") (.new (.ofMillis 12) 4))), 0⟩]
  handle := none

/-- With a period of ten milliseconds a first tick that is answered late, at 33 milliseconds,
removes an entry and is followed by one at 43. Seven milliseconds later two entries have expired
that are still held. -/
theorem expired_within_period_of_late :
    ∃ steps state, Trace Sweeping.step? (mapAndDashboards.start (.ofMillis 10)) steps state ∧
      (mapAndDashboards.start (.ofMillis 10)).isFinished? = some false ∧
      Sweeping.Lasting mapAndDashboards.targets ∧ state.Settled ∧ state.now = 50000000 ∧
      steps.map (·.output) = [0, 0, 1, 0, 0, 0, 0, 0, 0, 0] ∧
      expiriesIn state.targets = [45000000, 48000000] ∧
      (∀ expiry ∈ expiriesIn state.targets, state.now < max expiry 0 + 10000000) ∧
      (state.sleep 5000000).Settled ∧ (state.jump 1000).Settled := by
  obtain ⟨steps, state, trace, checked⟩ := Trace.exists_of_run? Sweeping.step?
    (mapAndDashboards.start (.ofMillis 10))
    [.use 0 (.inl (.insert 1 6)), .wait 33000000, .tick, .sweep, .use 0 (.inl (.insert 1 7)),
      .use 1 (.inr (.inr (.snapshot ⟨1⟩))), .wait 10000000, .tick,
      .use 0 (.inl (.insertUntil 2 8 48000000)), .wait 7000000]
    (fun steps state => state.Settled ∧ state.now = 50000000 ∧
      steps.map (·.output) = [0, 0, 1, 0, 0, 0, 0, 0, 0, 0] ∧
      expiriesIn state.targets = [45000000, 48000000]) (by decide +kernel)
  obtain ⟨settled, now, removed, held⟩ := of_decide_eq_true checked
  have running : (mapAndDashboards.start (.ofMillis 10)).isFinished? = some false := by
    decide +kernel
  have lasting : Sweeping.Lasting mapAndDashboards.targets := by
    intro target member
    rcases List.mem_pair.mp member with rfl | rfl <;> decide
  obtain ⟨bounded, -, -, reached⟩ := expired_within_period running lasting trace
  refine ⟨steps, state, trace, running, lasting, settled, now, removed, held,
    fun expiry member => ?_, (reached _ 0 _ (.head _)).1,
    (reached 0 _ _ (.tail _ (.head _))).1⟩
  obtain ⟨target, kept, expires⟩ := List.mem_flatMap.mp member
  exact bounded settled target kept expiry expires

end Service

end UserDashboard
