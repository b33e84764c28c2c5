/-
This file proves that dashboards are made of what the catalog says about their accounts.

The number of a refresh belongs to one account from when it was given out, even after the refresh
is over. So when every answer is what the catalog says about the account of the refresh that is told
it, nothing that is said about one account ever gets into the dashboard of another one.
-/

import UserDashboard.Catalog.Scripted
import UserDashboard.Proofs.Cache.Live
import UserDashboard.Proofs.Dashboard.Provenance

namespace UserDashboard.Dashboard

open Cache Catalog Time

/-! ### Numbers and accounts -/

namespace Aggregation

/-- A number was given out, and no refresh of another account has it. -/
structure Owns (state : Aggregation) (subject : SubjectId) (id : Nat) : Prop where
  given : id < state.nextId
  owner : ∀ refresh ∈ state.refreshes, refresh.id = id → refresh.subject = subject

variable {state after : Aggregation} {action : Action} {events : List Event} {subject : SubjectId}
  {id : Nat}

/-- The number of a flight belongs to its account. -/
theorem owns_of_flight (orderly : Orderly state) (flying : state.flight? subject = some id) :
    state.Owns subject id := by
  have flew := mem_flights_of_flight? flying
  exact ⟨orderly.launched _ flew, fun refresh member number =>
    (orderly.owned _ flew refresh member number).1⟩

/-- No later refresh gets the number. -/
theorem Owns.change (owns : state.Owns subject id) (orderly : Orderly state)
    (changed : Change state action events after) : after.Owns subject id where
  given := Nat.lt_of_lt_of_le owns.given changed.onward.numbers
  owner refresh member number := by
    rcases changed.progress orderly member with ⟨old, present, progress⟩ | ⟨_, -, -, rfl⟩
    · rw [progress.subject_eq]
      exact owns.owner old present (progress.id_eq.symm.trans number)
    · exact absurd number (Nat.ne_of_gt owns.given)

/-- Whoever has a refresh scheduled has it in flight. -/
theorem flight?_of_schedule (scheduled : (state.schedule subject).1 = some id) :
    (state.schedule subject).2.flight? subject = some id := by
  cases flight : state.flight? subject with
  | some other =>
    rw [schedule_of_some flight] at scheduled
    cases scheduled
  | none =>
    rw [schedule_of_none flight] at scheduled ⊢
    have nobody : state.flights.find? (·.1 = subject) = none := Option.map_eq_none_iff.mp flight
    rw [← Option.some.inj scheduled]
    simp [flight?, List.find?_append, nobody]

theorem flight?_of_snapshot (scheduled : (state.snapshot subject).2.1 = some id) :
    (state.snapshot subject).2.2.flight? subject = some id := by
  cases found : (state.cached subject).1 with
  | some snapshot =>
    rw [snapshot_of_some found] at scheduled
    cases scheduled
  | none =>
    rw [snapshot_of_none found] at scheduled ⊢
    exact flight?_of_schedule scheduled

/-- Only a refresh that is there can act. -/
theorem exists_refresh_of_step (taken : state.step? action = some (after, events))
    (acts : action.actor? = some id) : ∃ refresh, state.refresh? id = some refresh := by
  rw [← Option.ne_none_iff_exists']
  intro missing
  cases action <;> cases acts <;> simp [step?, begin?, call?, abandon?, endStatistics?,
    endListings?, endActivity?, conclude?, expire?, missing] at taken

/-- If an action tells a fetch something, it is what the catalog says about the account of its
refresh. -/
def Action.Fair (catalog : Scripted) (state : Aggregation) : Action → Prop
  | .endStatistics id result =>
    ∀ answer refresh, result = .answered answer → state.refresh? id = some refresh →
      answer = (catalog.statistics.plan refresh.subject).value
  | .endListings id result | .endActivity id result =>
    ∀ answer refresh, result = .answered answer → state.refresh? id = some refresh →
      answer = (catalog.listings.plan refresh.subject).value
  | _ => True

/-- A fetch that is fairly told statistics is told those of the account to which its number
belongs. -/
theorem Owns.eq_statistics {catalog : Scripted} {answer : Statistics}
    (owns : state.Owns subject id) (taken : state.step? action = some (after, events))
    (tells : action = .endStatistics id (.answered answer)) (fair : action.Fair catalog state) :
    answer = (catalog.statistics.plan subject).value := by
  obtain rfl := tells
  obtain ⟨refresh, found⟩ := exists_refresh_of_step taken rfl
  obtain ⟨present, number⟩ := mem_refreshes_of_refresh? found
  rw [← owns.owner refresh present number]
  exact fair answer refresh rfl found

theorem Owns.eq_listings {catalog : Scripted} {answer : List Listing}
    (owns : state.Owns subject id) (taken : state.step? action = some (after, events))
    (tells : action = .endListings id (.answered answer) ∨
      action = .endActivity id (.answered answer)) (fair : action.Fair catalog state) :
    answer = (catalog.listings.plan subject).value := by
  rcases tells with rfl | rfl
  all_goals
    obtain ⟨refresh, found⟩ := exists_refresh_of_step taken rfl
    obtain ⟨present, number⟩ := mem_refreshes_of_refresh? found
    rw [← owns.owner refresh present number]
    exact fair answer refresh rfl found

end Aggregation

/-! ### What is done for one account -/

namespace Aggregation

/-- Nothing has happened to other accounts. -/
structure OnlyFor (subject : SubjectId) (before after : Aggregation) : Prop where
  stores : ∀ stored : SubjectId × Entry Snapshot, stored.1 ≠ subject →
    (stored ∈ after.stores ↔ stored ∈ before.stores)
  flights : ∀ flight : SubjectId × Nat, flight.1 ≠ subject →
    (flight ∈ after.flights ↔ flight ∈ before.flights)
  refreshes : ∀ refresh : Refresh, refresh.subject ≠ subject →
    (refresh ∈ after.refreshes ↔ refresh ∈ before.refreshes)

variable {state next after : Aggregation} {subject : SubjectId}

theorem OnlyFor.trans (first : OnlyFor subject state next) (second : OnlyFor subject next after) :
    OnlyFor subject state after where
  stores stored other := (second.stores stored other).trans (first.stores stored other)
  flights flight other := (second.flights flight other).trans (first.flights flight other)
  refreshes refresh other := (second.refreshes refresh other).trans (first.refreshes refresh other)

theorem onlyFor_cached (state : Aggregation) (subject : SubjectId) :
    OnlyFor subject state (state.cached subject).2 where
  stores stored other := by
    simp only [stores, cached_snd, SnapshotCache.get]
    cases live : state.snapshots.entries.live? state.now subject with
    | some snapshot => rw [ExpiringMap.get_of_live? live]
    | none =>
      rw [ExpiringMap.get_of_missing live]
      exact ExpiringMap.mem_erase.trans ⟨And.left, fun member => ⟨member, other⟩⟩
  flights flight other := Iff.rfl
  refreshes refresh other := Iff.rfl

/-- Whoever finds nothing finds nothing when looking again. -/
theorem snapshot_of_cached {subject : SubjectId} (miss : (state.cached subject).1 = none) :
    ((state.cached subject).2.snapshot subject).1 = (state.snapshot subject).1 := by
  have missing : state.snapshots.entries.live? state.now subject = none :=
    (ExpiringMap.get_fst _ _ _).symm.trans miss
  have erased : (state.snapshots.entries.erase subject).live? state.now subject = none := by
    have nobody : ExpiringMap.entry? (state.snapshots.entries.erase subject) subject = none :=
      ExpiringMap.entry?_eq_none_iff.mpr fun pair member => (ExpiringMap.mem_erase.mp member).2
    unfold ExpiringMap.live?
    rw [nobody]
  have again : ((state.cached subject).2.cached subject).1 = none := by
    rw [cached_snd]
    simp only [cached, SnapshotCache.get, ExpiringMap.get_of_missing missing]
    exact (ExpiringMap.get_fst _ _ _).trans erased
  rw [snapshot_of_none miss, snapshot_of_none again]
  rfl

theorem onlyFor_schedule (state : Aggregation) (subject : SubjectId) :
    OnlyFor subject state (state.schedule subject).2 := by
  cases flight : state.flight? subject with
  | some id =>
    rw [schedule_of_some flight]
    exact ⟨fun _ _ => Iff.rfl, fun _ _ => Iff.rfl, fun _ _ => Iff.rfl⟩
  | none =>
    rw [schedule_of_none flight]
    refine ⟨fun _ _ => Iff.rfl, fun flight other => ?_, fun refresh other => ?_⟩
    · refine List.mem_append.trans (or_iff_left fun new => other ?_)
      rw [List.mem_singleton.mp new]
    · refine List.mem_append.trans (or_iff_left fun new => other ?_)
      rw [List.mem_singleton.mp new]

/-- Whoever reads a dashboard does nothing to those of others. -/
theorem onlyFor_snapshot (state : Aggregation) (subject : SubjectId) :
    OnlyFor subject state (state.snapshot subject).2.2 := by
  cases found : (state.cached subject).1 with
  | some snapshot =>
    rw [snapshot_of_some found]
    exact onlyFor_cached state subject
  | none =>
    rw [snapshot_of_none found]
    exact (onlyFor_cached state subject).trans (onlyFor_schedule _ subject)

theorem stores_invalidate (state : Aggregation) (subject : SubjectId) :
    (state.invalidate subject).stores = (state.snapshots.entries.erase subject).entries := by
  unfold stores
  cases flight : state.flight? subject with
  | none =>
    rw [invalidate_of_none flight]
    rfl
  | some id =>
    rw [invalidate_of_some flight]
    rfl

/-- An account that was invalidated has no dashboard and no refresh in flight. -/
theorem none_of_invalidate (state : Aggregation) (subject : SubjectId) :
    (∀ stored ∈ (state.invalidate subject).stores, stored.1 ≠ subject) ∧
      ∀ flight ∈ (state.invalidate subject).flights, flight.1 ≠ subject := by
  constructor
  · intro stored member
    exact (mem_stores_of_invalidate member).2
  · cases flight : state.flight? subject with
    | none =>
      rw [invalidate_of_none flight]
      exact flight?_eq_none_iff.mp flight
    | some id =>
      rw [invalidate_of_some flight]
      exact fun flight member => (mem_release.mp member).2

/-- Whoever has their account invalidated does nothing to those of others. -/
theorem onlyFor_invalidate (orderly : Orderly state) (subject : SubjectId) :
    OnlyFor subject state (state.invalidate subject) := by
  have stores : ∀ stored : SubjectId × Entry Snapshot, stored.1 ≠ subject →
      (stored ∈ (state.invalidate subject).stores ↔ stored ∈ state.stores) := by
    intro stored other
    rw [stores_invalidate]
    exact ExpiringMap.mem_erase.trans ⟨And.left, fun member => ⟨member, other⟩⟩
  cases flight : state.flight? subject with
  | none =>
    rw [invalidate_of_none flight] at stores ⊢
    exact ⟨stores, fun _ _ => Iff.rfl, fun _ _ => Iff.rfl⟩
  | some id =>
    rw [invalidate_of_some flight] at stores ⊢
    refine ⟨stores, fun flight other => ?_, fun refresh other => ?_⟩
    · exact mem_release.trans ⟨And.left, fun member => ⟨member, other⟩⟩
    · -- The refresh that is cancelled is one for the account.
      have owns := owns_of_flight orderly flight
      refine mem_modify.trans ⟨?_, fun member => ⟨refresh, member, ?_⟩⟩
      · rintro ⟨old, present, rfl⟩
        by_cases acts : old.id = id
        · rw [if_pos acts] at other
          exact absurd (owns.owner old present acts) other
        · rw [if_neg acts]
          exact present
      · exact if_neg fun acts => other (owns.owner refresh member acts)

end Aggregation

/-! ### What dashboards are made of -/

namespace Aggregation

open Move

variable {start state : Aggregation} {moves : List Move} {subject : SubjectId} {id : Nat}

/-- A dashboard is made of what catalogs say about an account, and of nothing else. -/
def MadeFor (known : Scripted → Prop) (recentLimit : Nat) (subject : SubjectId)
    (snapshot : Snapshot) : Prop :=
  ∃ counting listing telling activity startedAt, known counting ∧ known listing ∧ known telling ∧
    recentActivity? recentLimit (.utc startedAt) (telling.listings.plan subject).value =
      some activity ∧
    snapshot = .assemble (counting.statistics.plan subject).value
      (recentListings recentLimit (listing.listings.plan subject).value) activity (.utc startedAt)

/-- From when a refresh was started on, its number belongs to the account. -/
theorem owns_of_starts (orderly : Orderly start) (trace : Trace step? start moves state) :
    moves.Pairwise fun earlier later =>
      ∀ subject id, Starts earlier subject id → later.before.Owns subject id := by
  refine (trace.pairwise (fun step state => ∀ subject id, Starts step subject id →
    state.Owns subject id) (fun move member subject id starts => ?_)
    (fun earlier move member owns subject id starts => ?_)).1
  · obtain ⟨kept, changed⟩ := orderly.of_move trace member
    exact owns_of_flight (kept.change changed) starts.2
  · obtain ⟨kept, changed⟩ := orderly.of_move trace member
    exact (owns subject id starts).change kept changed

/-- Whoever is answered works for the account for which the refresh was started. -/
theorem owns_of_answered {α : Type} {earlier : List Move} {starter beginner : Move}
    {asks : Move → Prop} {tells : Action → α → Prop} {value : α} (orderly : Orderly start)
    (trace : Trace step? start moves state) (within : earlier.Sublist moves)
    (starts : Starts starter subject id)
    (answered : Answered earlier starter beginner asks tells value) :
    ∃ answer ∈ moves, tells answer.action value ∧ answer.before.Owns subject id := by
  obtain ⟨caller, answer, -, told, ordered⟩ := answered
  have all := ordered.trans within
  have related := (owns_of_starts orderly trace).sublist all
  have after : answer ∈ [beginner, caller, answer] := by simp
  exact ⟨answer, all.subset (List.mem_cons_of_mem _ after), told,
    (List.pairwise_cons.mp related).1 answer after subject id starts⟩

/-- When all that fetches were told is what catalogs say about the accounts of their refreshes,
every dashboard that is remembered is made of what they say about its account. -/
theorem madeFor_of_stored {known : Scripted → Prop} (orderly : Orderly start)
    (empty : start.refreshes = []) (nothing : start.stores = [])
    (trace : Trace step? start moves state)
    (fair : ∀ move ∈ moves, ∃ catalog, known catalog ∧ move.action.Fair catalog move.before)
    {entry : Entry Snapshot} (stored : (subject, entry) ∈ state.stores) :
    MadeFor known start.recentLimit subject entry.value := by
  obtain ⟨origin, -⟩ := origin_of_stored orderly empty nothing trace stored
  have within : origin.earlier.Sublist moves := by
    conv => rhs; rw [origin.split]
    exact List.sublist_append_left _ _
  have answered {α : Type} {asks : Move → Prop} {tells : Action → α → Prop} {value : α}
      (told : Answered origin.earlier origin.starter origin.beginner asks tells value) :
      ∃ answer ∈ moves, tells answer.action value ∧ answer.before.Owns subject origin.id :=
    owns_of_answered orderly trace within origin.starts told
  obtain ⟨first, presentFirst, tellsFirst, ownsFirst⟩ := answered origin.statisticsTold
  obtain ⟨second, presentSecond, ⟨listings, tellsSecond, newest⟩, ownsSecond⟩ :=
    answered origin.listingsTold
  obtain ⟨third, presentThird, ⟨records, tellsThird, worked⟩, ownsThird⟩ :=
    answered origin.activityTold
  obtain ⟨counting, knownFirst, fairFirst⟩ := fair first presentFirst
  obtain ⟨listing, knownSecond, fairSecond⟩ := fair second presentSecond
  obtain ⟨telling, knownThird, fairThird⟩ := fair third presentThird
  have statistics := ownsFirst.eq_statistics (trace.taken presentFirst) tellsFirst fairFirst
  have listed := ownsSecond.eq_listings (trace.taken presentSecond) (.inl tellsSecond) fairSecond
  have told := ownsThird.eq_listings (trace.taken presentThird) (.inr tellsThird) fairThird
  refine ⟨counting, listing, telling, origin.activity, origin.beginner.before.now, knownFirst,
    knownSecond, knownThird, ?_, ?_⟩
  · rw [← told]
    exact worked
  · rw [← statistics, ← listed, ← newest]
    exact origin.assembled

end Aggregation

end UserDashboard.Dashboard
