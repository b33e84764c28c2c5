/-
This file says what a step of the aggregation can do.

A step leaves refreshes and flights alone, declines or schedules a refresh, invalidates an account,
lets a refresh begin, lets one of its fetches move, or ends a refresh. A refresh ends in one of four
ways: it writes its dashboard, it was superseded, it is given up because a fetch did not end well or
the deadline passed, or it breaks off because the clock cannot tell until when its dashboard would
be remembered. Each of these changes is given with all that has to hold for it and with the state it
leads to, so that what is kept by every step is shown by going through them and not through the
operations.
-/

import UserDashboard.Dashboard.Aggregation
import UserDashboard.Proofs.Cache.ExpiringMap
import UserDashboard.Proofs.Trace

namespace UserDashboard.Dashboard

open Cache Catalog Time

/-- A step of the aggregation that was taken. -/
abbrev Move := Step Aggregation Aggregation.Action (List Event)

/-- The refresh that does something in an action, if one does. -/
def Aggregation.Action.actor? : Aggregation.Action → Option Nat
  | .begin id | .call id _ | .abandon id _ | .endStatistics id _ | .endListings id _
  | .endActivity id _ | .conclude id | .expire id => some id
  | .snapshot _ | .cached _ | .schedule _ | .invalidate _ | .sweep | .wait _ => none

/-- The account for which an action wants a refresh to be scheduled. -/
def Aggregation.Action.wants? : Aggregation.Action → Option SubjectId
  | .snapshot subject | .schedule subject => some subject
  | _ => none

/-- Whether a refresh has not ended. -/
def Refresh.isRunning (refresh : Refresh) : Bool :=
  match refresh.stage with
  | .scheduled | .fetching _ => true
  | .lingering _ => false

/-! ### What a refresh comes to -/

theorem Fetch.ending?_eq_some_iff {α : Type} {fetch : Fetch α} {ending : Ending α} :
    fetch.ending? = some ending ↔ fetch = .ended ending := by
  cases fetch <;> simp [Fetch.ending?]

theorem Ending.settle_eq_ok_iff {α : Type} {kind : FetchKind} {report : String}
    {ending : Ending α} {value : α} :
    ending.settle kind report = .ok value ↔ ending = .outcome (.fresh value) := by
  unfold Ending.settle
  split <;> simp_all

/-- A refresh comes to a dashboard exactly when all its fetches were answered in time, and the
dashboard is made of the three answers. -/
theorem Run.result?_eq_ok_iff {run : Run} {reports : FetchKind → String} {snapshot : Snapshot} :
    run.result? reports = some (.ok snapshot) ↔
      ∃ statistics listings activity,
        run.statistics = .ended (.outcome (.fresh statistics)) ∧
        run.listings = .ended (.outcome (.fresh listings)) ∧
        run.activity = .ended (.outcome (.fresh activity)) ∧
        snapshot = Snapshot.assemble statistics listings activity (.utc run.startedAt) := by
  constructor
  · intro assembled
    unfold Run.result? at assembled
    split at assembled
    · rename_i statistics listings activity first second third
      rw [Fetch.ending?_eq_some_iff] at first second third
      have settled := Option.some.inj assembled
      cases one : statistics.settle .statistics (reports .statistics) with
      | error error => simp [one, bind, Except.bind] at settled
      | ok counted =>
        cases two : listings.settle .listings (reports .listings) with
        | error error => simp [one, two, bind, Except.bind] at settled
        | ok listed =>
          cases three : activity.settle .activity (reports .activity) with
          | error error => simp [one, two, three, bind, Except.bind] at settled
          | ok told =>
            simp only [one, two, three, bind, Except.bind, Except.ok.injEq] at settled
            rw [Ending.settle_eq_ok_iff] at one two three
            exact ⟨counted, listed, told, by rw [first, one], by rw [second, two],
              by rw [third, three], settled.symm⟩
    · cases assembled
  · rintro ⟨statistics, listings, activity, first, second, third, rfl⟩
    simp [Run.result?, first, second, third, Fetch.ending?, Ending.settle, bind, Except.bind]

/-- A refresh comes to something exactly when all its fetches have ended. -/
theorem Run.isSome_result? {run : Run} {reports : FetchKind → String} :
    (run.result? reports).isSome = run.allEnded := by
  unfold result? allEnded Fetch.hasEnded
  cases run.statistics.ending? <;> cases run.listings.ending? <;>
    cases run.activity.ending? <;> rfl

/-- When a refresh fails by itself it is because of how one of its fetches ended. -/
theorem Run.settled_of_result? {run : Run} {reports : FetchKind → String} {error : DashboardError}
    (failed : run.result? reports = some (.error error)) :
    (∃ ending, run.statistics = .ended ending ∧
      ending.settle .statistics (reports .statistics) = .error error) ∨
    (∃ ending, run.listings = .ended ending ∧
      ending.settle .listings (reports .listings) = .error error) ∨
    ∃ ending, run.activity = .ended ending ∧
      ending.settle .activity (reports .activity) = .error error := by
  unfold Run.result? at failed
  split at failed
  · rename_i statistics listings activity first second third
    rw [Fetch.ending?_eq_some_iff] at first second third
    have settled := Option.some.inj failed
    cases one : statistics.settle .statistics (reports .statistics) with
    | error other =>
      obtain rfl : other = error := by
        simpa only [one, bind, Except.bind, Except.error.injEq] using settled
      exact Or.inl ⟨statistics, first, one⟩
    | ok counted =>
      cases two : listings.settle .listings (reports .listings) with
      | error other =>
        obtain rfl : other = error := by
          simpa only [one, two, bind, Except.bind, Except.error.injEq] using settled
        exact Or.inr (Or.inl ⟨listings, second, two⟩)
      | ok listed =>
        cases three : activity.settle .activity (reports .activity) with
        | error other =>
          obtain rfl : other = error := by
            simpa only [one, two, three, bind, Except.bind, Except.error.injEq] using settled
          exact Or.inr (Or.inr ⟨activity, third, three⟩)
        | ok told => simp [one, two, three, bind, Except.bind] at settled
  · cases failed

theorem Run.loading_eq_false {run : Run} {reports : FetchKind → String} {snapshot : Snapshot}
    (assembled : run.result? reports = some (.ok snapshot)) : snapshot.loading = false := by
  obtain ⟨statistics, listings, activity, -, -, -, rfl⟩ := Run.result?_eq_ok_iff.mp assembled
  rfl

namespace Aggregation

variable {state after : Aggregation} {action : Action} {events : List Event}

/-! ### Parts of the state -/

theorem mem_flights_of_flight? {subject : SubjectId} {id : Nat}
    (found : state.flight? subject = some id) : (subject, id) ∈ state.flights := by
  simp only [flight?, Option.map_eq_some_iff] at found
  obtain ⟨⟨other, number⟩, member, rfl⟩ := found
  have same : other = subject := by simpa using List.find?_some member
  rw [← same]
  exact List.mem_of_find?_eq_some member

theorem flight?_eq_none_iff {subject : SubjectId} :
    state.flight? subject = none ↔ ∀ flight ∈ state.flights, flight.1 ≠ subject := by
  simp [flight?]

theorem mem_refreshes_of_refresh? {id : Nat} {refresh : Refresh}
    (found : state.refresh? id = some refresh) : refresh ∈ state.refreshes ∧ refresh.id = id :=
  ⟨List.mem_of_find?_eq_some found, by simpa using List.find?_some found⟩

theorem mem_tidy {refresh : Refresh} :
    refresh ∈ state.tidy.refreshes ↔ refresh ∈ state.refreshes ∧ refresh.isDone = false := by
  simp [tidy]

theorem mem_modify {id : Nat} {change : Refresh → Refresh} {refresh : Refresh} :
    refresh ∈ (state.modify id change).refreshes ↔
      ∃ old ∈ state.refreshes, (if old.id = id then change old else old) = refresh := by
  simp [modify]

theorem mem_release {subject : SubjectId} {flight : SubjectId × Nat} :
    flight ∈ (state.release subject).flights ↔ flight ∈ state.flights ∧ flight.1 ≠ subject := by
  simp [release]

/-- The entry of an account's dashboard, live or not. -/
def stored? (state : Aggregation) (subject : SubjectId) : Option (Entry Snapshot) :=
  state.snapshots.entries.entry? subject

/-- All dashboards stored, live or not, each with its account. -/
def stores (state : Aggregation) : List (SubjectId × Entry Snapshot) :=
  state.snapshots.entries.entries

def ttl (state : Aggregation) : Span :=
  state.snapshots.entries.ttl

/-- Giving up a refresh ends at most a flight. -/
theorem releaseOwn_eq (state : Aggregation) (refresh : Refresh) :
    ∃ flights, flights.Sublist state.flights ∧
      state.releaseOwn refresh = { state with flights } := by
  unfold releaseOwn
  split
  · exact ⟨_, List.filter_sublist, rfl⟩
  · exact ⟨_, List.Sublist.refl _, rfl⟩

/-- Whoever wants a refresh is none. -/
theorem actor?_of_wants? {subject : SubjectId} (wanted : action.wants? = some subject) :
    action.actor? = none := by
  cases action <;> first | rfl | cases wanted

/-! ### What a fetch can do -/

/-- What an action does to the fetches of the refresh that acts. -/
inductive Fetching (state : Aggregation) (refresh : Refresh) (run : Run) :
    Action → (Run → Run) → Prop where
  /-- A fetch calls the catalog. -/
  | calls {kind : FetchKind} (unstarted : run.isUnstarted kind) :
      Fetching state refresh run (.call refresh.id kind) (·.call kind)
  /-- A fetch ends because its refresh was cancelled. -/
  | abandons {kind : FetchKind} (cancelled : refresh.cancelled)
      (pending : run.isUnstarted kind ∨ run.isWaiting kind) :
      Fetching state refresh run (.abandon refresh.id kind) (·.abandon kind)
  /-- The fetch of the statistics goes on. -/
  | endsStatistics {result : CallResult Statistics} (waiting : run.isWaiting .statistics) :
      Fetching state refresh run (.endStatistics refresh.id result)
        ({ · with statistics := .ended (Ending.ofCall .zero some result) })
  /-- The fetch of the newest listings goes on. -/
  | endsListings {result : CallResult (List Listing)} (waiting : run.isWaiting .listings) :
      Fetching state refresh run (.endListings refresh.id result)
        ({ · with listings := .ended (Ending.ofCall []
          (fun listings => some (recentListings state.recentLimit listings)) result) })
  /-- The fetch of the activity goes on. -/
  | endsActivity {result : CallResult (List Listing)} (waiting : run.isWaiting .activity) :
      Fetching state refresh run (.endActivity refresh.id result)
        ({ · with activity := .ended (Ending.ofCall []
          (recentActivity? state.recentLimit (.utc run.startedAt)) result) })

/-! ### What a step can do -/

/-- The state after the refresh of a number has ended, and was cancelled with that or not. -/
def retire (state : Aggregation) (id : Nat) (run : Run) (cancel : Bool) : Aggregation :=
  (state.modify id fun refresh =>
    { refresh with cancelled := refresh.cancelled || cancel, stage := .lingering run }).tidy

/-- All that has to hold for a refresh to write an entry for its account. -/
structure Commits (state : Aggregation) (refresh : Refresh) (run : Run) (entry : Entry Snapshot) :
    Prop where
  /-- It is one of the refreshes. -/
  found : state.refresh? refresh.id = some refresh
  /-- It has begun and has not ended. -/
  fetching : refresh.stage = .fetching run
  /-- All its fetches were answered, and the dashboard is made of the answers. -/
  assembled : run.result? (state.reports refresh.id) = some (.ok entry.value)
  /-- It is the refresh in flight for its account. -/
  flying : state.flight? refresh.subject = some refresh.id
  /-- It was not cancelled. -/
  current : refresh.cancelled = false
  /-- The entry is of this moment. -/
  dated : entry.createdAt = state.now
  /-- It lasts as long as dashboards are remembered. -/
  told : later? state.now state.ttl = some entry.expiresAt

/-- The state after a refresh has written an entry for its account and ended. -/
def written (state : Aggregation) (refresh : Refresh) (run : Run) (entry : Entry Snapshot) :
    Aggregation :=
  ({ state with snapshots := ⟨state.snapshots.entries.store refresh.subject entry⟩ }.release
    refresh.subject).retire refresh.id run false

/-- Why a refresh is given up in an action, and whether it is cancelled with that. -/
inductive GivesUp (state : Aggregation) (refresh : Refresh) (run : Run) :
    Action → DashboardError → Bool → Prop where
  /-- One of its fetches did not end well. -/
  | failed {error : DashboardError}
      (assembled : run.result? (state.reports refresh.id) = some (.error error)) :
      GivesUp state refresh run (.conclude refresh.id) error false
  /-- Its deadline has passed. -/
  | expired (late : waitsUntil run.startedAt state.deadline ≤ state.now) :
      GivesUp state refresh run (.expire refresh.id) (.aggregationTimeout state.deadline) true

theorem GivesUp.acts {refresh : Refresh} {run : Run} {error : DashboardError} {cancel : Bool}
    (reason : GivesUp state refresh run action error cancel) :
    action = .conclude refresh.id ∨ action = .expire refresh.id := by
  cases reason with
  | failed => exact Or.inl rfl
  | expired => exact Or.inr rfl

theorem GivesUp.actor?_eq {refresh : Refresh} {run : Run} {error : DashboardError} {cancel : Bool}
    (reason : GivesUp state refresh run action error cancel) : action.actor? = some refresh.id := by
  cases reason <;> rfl

/-- What an action does to the aggregation and what it makes known. -/
inductive Change (state : Aggregation) : Action → List Event → Aggregation → Prop where
  /-- Refreshes and flights stay as they are; time may pass and dashboards may be dropped. -/
  | quiet {action : Action} {now : Moment} {snapshots : SnapshotCache}
      (nobody : action.actor? = none) (tolerant : ∀ subject, action ≠ .invalidate subject)
      (later : state.now ≤ now) (ttl : snapshots.entries.ttl = state.ttl)
      (kept : snapshots.entries.entries.Sublist state.stores) :
      Change state action [] { state with now, snapshots }
  /-- No refresh is scheduled because one is in flight. -/
  | declined {action : Action} {subject : SubjectId} {id : Nat} {snapshots : SnapshotCache}
      (wanted : action.wants? = some subject) (flying : state.flight? subject = some id)
      (ttl : snapshots.entries.ttl = state.ttl)
      (kept : snapshots.entries.entries.Sublist state.stores) :
      Change state action [] { state with snapshots, nextId := state.nextId + 1 }
  /-- A refresh is scheduled. -/
  | scheduled {action : Action} {subject : SubjectId} {snapshots : SnapshotCache}
      (wanted : action.wants? = some subject) (free : state.flight? subject = none)
      (ttl : snapshots.entries.ttl = state.ttl)
      (kept : snapshots.entries.entries.Sublist state.stores) :
      Change state action [] { state with
        snapshots
        nextId := state.nextId + 1
        flights := state.flights ++ [(subject, state.nextId)]
        refreshes := state.refreshes ++ [⟨state.nextId, subject, false, .scheduled⟩] }
  /-- An account is invalidated. -/
  | invalidated {subject : SubjectId} :
      Change state (.invalidate subject) [.invalidated subject] (state.invalidate subject)
  /-- A refresh begins. -/
  | begun {refresh : Refresh} (found : state.refresh? refresh.id = some refresh)
      (scheduled : refresh.stage = .scheduled) :
      Change state (.begin refresh.id) []
        (state.modify refresh.id ({ · with stage := .fetching (.start state.now) }))
  /-- A fetch of a refresh moves. -/
  | fetched {action : Action} {after : Aggregation} {refresh : Refresh} {run : Run}
      {change : Run → Run}
      (found : state.refresh? refresh.id = some refresh) (begun : refresh.run? = some run)
      (fetching : Fetching state refresh run action change)
      (led : after = state.modify refresh.id (·.withRun change) ∨
        after = (state.modify refresh.id (·.withRun change)).tidy) :
      Change state action [] after
  /-- A refresh ends and writes its dashboard. -/
  | committed {refresh : Refresh} {run : Run} {entry : Entry Snapshot}
      (commits : Commits state refresh run entry) :
      Change state (.conclude refresh.id)
        [.refreshed refresh.subject (state.elapsedSince run.startedAt)]
        (state.written refresh run entry)
  /-- A refresh ends without being able to write its dashboard, and stays in flight. -/
  | stranded {refresh : Refresh} {run : Run} {snapshot : Snapshot}
      (found : state.refresh? refresh.id = some refresh) (fetching : refresh.stage = .fetching run)
      (assembled : run.result? (state.reports refresh.id) = some (.ok snapshot))
      (flying : state.flight? refresh.subject = some refresh.id)
      (current : refresh.cancelled = false) (untold : later? state.now state.ttl = none) :
      Change state (.conclude refresh.id) [] (state.retire refresh.id run false)
  /-- A refresh ends and must not write its dashboard. -/
  | superseded {refresh : Refresh} {run : Run} {snapshot : Snapshot}
      (found : state.refresh? refresh.id = some refresh) (fetching : refresh.stage = .fetching run)
      (assembled : run.result? (state.reports refresh.id) = some (.ok snapshot))
      (lost : ¬(state.flight? refresh.subject = some refresh.id ∧ refresh.cancelled = false)) :
      Change state (.conclude refresh.id)
        [.refreshFailed refresh.subject DashboardError.cancelled.message]
        (state.retire refresh.id run false)
  /-- A refresh is given up. -/
  | givenUp {action : Action} {refresh : Refresh} {run : Run} {error : DashboardError}
      {cancel : Bool} (found : state.refresh? refresh.id = some refresh)
      (fetching : refresh.stage = .fetching run)
      (reason : GivesUp state refresh run action error cancel) :
      Change state action [.refreshFailed refresh.subject error.message]
        ((state.releaseOwn refresh).retire refresh.id run cancel)

/-! ### Every step is a change -/

/-- An account without a refresh in flight only loses its dashboard. -/
theorem invalidate_of_none {subject : SubjectId} (free : state.flight? subject = none) :
    state.invalidate subject =
      { state with snapshots := (state.snapshots.invalidate subject).2 } := by
  simp only [invalidate, free]

/-- An account with a refresh in flight also loses its flight, and the refresh is cancelled. -/
theorem invalidate_of_some {subject : SubjectId} {id : Nat}
    (flying : state.flight? subject = some id) :
    state.invalidate subject =
      { (state.release subject).modify id ({ · with cancelled := true }) with
        snapshots := (state.snapshots.invalidate subject).2 } := by
  simp only [invalidate, flying]
  rfl

theorem retire_false (state : Aggregation) (id : Nat) (run : Run) :
    state.retire id run false = (state.modify id ({ · with stage := .lingering run })).tidy := by
  simp only [retire, Bool.or_false]

theorem retire_true (state : Aggregation) (id : Nat) (run : Run) :
    state.retire id run true =
      (state.modify id ({ · with cancelled := true, stage := .lingering run })).tidy := by
  simp only [retire, Bool.or_true]

/-- An account with a refresh in flight gets no other one. -/
theorem schedule_of_some {subject : SubjectId} {id : Nat}
    (flying : state.flight? subject = some id) :
    state.schedule subject = (none, { state with nextId := state.nextId + 1 }) := by
  have same : { state with nextId := state.nextId + 1 }.flight? subject = some id := flying
  simp only [schedule, same]

/-- An account without a refresh in flight gets one. -/
theorem schedule_of_none {subject : SubjectId} (free : state.flight? subject = none) :
    state.schedule subject = (some state.nextId, { state with
      nextId := state.nextId + 1
      flights := state.flights ++ [(subject, state.nextId)]
      refreshes := state.refreshes ++ [⟨state.nextId, subject, false, .scheduled⟩] }) := by
  have same : { state with nextId := state.nextId + 1 }.flight? subject = none := free
  simp only [schedule, same]

/-- A look-up changes nothing but the dashboards that are remembered. -/
theorem cached_snd (state : Aggregation) (subject : SubjectId) :
    (state.cached subject).2 =
      { state with snapshots := (state.snapshots.get state.now subject).2 } := rfl

theorem schedule_now (state : Aggregation) (subject : SubjectId) :
    (state.schedule subject).2.now = state.now := by
  cases flight : state.flight? subject with
  | some id => rw [schedule_of_some flight]
  | none => rw [schedule_of_none flight]

theorem snapshot_of_some {subject : SubjectId} {snapshot : Snapshot}
    (hit : (state.cached subject).1 = some snapshot) :
    state.snapshot subject = (snapshot, none, (state.cached subject).2) := by
  have found : state.cached subject = (some snapshot, (state.cached subject).2) :=
    Prod.ext hit rfl
  unfold Aggregation.snapshot
  rw [found]

theorem snapshot_of_none {subject : SubjectId} (miss : (state.cached subject).1 = none) :
    state.snapshot subject = (.placeholder state.now,
      ((state.cached subject).2.schedule subject).1,
      ((state.cached subject).2.schedule subject).2) := by
  have found : state.cached subject = (none, (state.cached subject).2) := Prod.ext miss rfl
  unfold Aggregation.snapshot
  rw [found]
  show (Snapshot.placeholder ((state.cached subject).2.schedule subject).2.now, _, _) = _
  rw [schedule_now]
  rfl

theorem change_of_schedule {subject : SubjectId} {snapshots : SnapshotCache}
    (wanted : action.wants? = some subject) (ttl : snapshots.entries.ttl = state.ttl)
    (kept : snapshots.entries.entries.Sublist state.stores) :
    Change state action [] ({ state with snapshots }.schedule subject).2 := by
  cases flight : state.flight? subject with
  | some id =>
    have flying : { state with snapshots }.flight? subject = some id := flight
    rw [schedule_of_some flying]
    exact .declined wanted flight ttl kept
  | none =>
    have free : { state with snapshots }.flight? subject = none := flight
    rw [schedule_of_none free]
    exact .scheduled wanted flight ttl kept

theorem change_of_conclude {id : Nat} (taken : state.conclude? id = some (after, events)) :
    Change state (.conclude id) events after := by
  unfold conclude? at taken
  cases found : state.refresh? id with
  | none => simp [found] at taken
  | some refresh =>
    obtain ⟨-, rfl⟩ := mem_refreshes_of_refresh? found
    cases fetching : refresh.stage with
    | scheduled => simp [found, fetching] at taken
    | lingering run => simp [found, fetching] at taken
    | fetching run =>
      simp only [found, fetching, Option.map_eq_some_iff] at taken
      obtain ⟨result, assembled, taken⟩ := taken
      cases result with
      | error error =>
        simp only [fail, Prod.mk.injEq] at taken
        obtain ⟨rfl, rfl⟩ := taken
        rw [← retire_false]
        exact .givenUp found fetching (.failed assembled)
      | ok snapshot =>
        simp only [commit] at taken
        split at taken
        · rename_i current
          have stored : state.snapshots.put? state.now refresh.subject snapshot =
              (later? state.now state.ttl).map fun expiry =>
                (true, ⟨state.snapshots.entries.store refresh.subject
                  ⟨snapshot, state.now, expiry⟩⟩) := by
            simp [SnapshotCache.put?, ExpiringMap.insert?, Run.loading_eq_false assembled, ttl,
              Function.comp_def]
          cases told : later? state.now state.ttl with
          | none =>
            simp only [stored, told, Option.map_none, Prod.mk.injEq] at taken
            obtain ⟨rfl, rfl⟩ := taken
            rw [← retire_false]
            exact .stranded found fetching assembled current.1 current.2 told
          | some expiry =>
            simp only [stored, told, Option.map_some, Prod.mk.injEq] at taken
            obtain ⟨rfl, rfl⟩ := taken
            rw [← retire_false]
            have commits : Commits state refresh run ⟨snapshot, state.now, expiry⟩ :=
              ⟨found, fetching, assembled, current.1, current.2, rfl, told⟩
            exact .committed commits
        · rename_i lost
          simp only [Prod.mk.injEq] at taken
          obtain ⟨rfl, rfl⟩ := taken
          rw [← retire_false]
          exact .superseded found fetching assembled lost

theorem change_of_expire {id : Nat} (taken : state.expire? id = some (after, events)) :
    Change state (.expire id) events after := by
  unfold expire? at taken
  cases found : state.refresh? id with
  | none => simp [found] at taken
  | some refresh =>
    obtain ⟨-, rfl⟩ := mem_refreshes_of_refresh? found
    cases fetching : refresh.stage with
    | scheduled => simp [found, fetching] at taken
    | lingering run => simp [found, fetching] at taken
    | fetching run =>
      simp only [found, fetching] at taken
      split at taken
      · rename_i late
        simp only [fail, Option.some.injEq, Prod.mk.injEq] at taken
        obtain ⟨rfl, rfl⟩ := taken
        rw [← retire_true]
        exact .givenUp found fetching (.expired late)
      · cases taken

theorem change_of_begin {id : Nat} (taken : state.begin? id = some after) :
    Change state (.begin id) [] after := by
  unfold begin? at taken
  split at taken
  · rename_i number subject cancelled found
    obtain ⟨-, same⟩ := mem_refreshes_of_refresh? found
    rw [← Option.some.inj taken, ← same]
    rw [← same] at found
    exact .begun found rfl
  · cases taken

/-- The refresh that acts, if it has begun, with its fetches. -/
theorem acting {id : Nat} {run : Run} (found : (state.refresh? id).bind Refresh.run? = some run) :
    ∃ refresh, state.refresh? refresh.id = some refresh ∧ refresh.run? = some run ∧
      refresh.id = id := by
  obtain ⟨refresh, found, begun⟩ := Option.bind_eq_some_iff.mp found
  obtain ⟨-, rfl⟩ := mem_refreshes_of_refresh? found
  exact ⟨refresh, found, begun, rfl⟩

theorem change_of_call {id : Nat} {kind : FetchKind} (taken : state.call? id kind = some after) :
    Change state (.call id kind) [] after := by
  unfold call? at taken
  split at taken
  · rename_i run acts
    obtain ⟨refresh, found, begun, rfl⟩ := acting acts
    split at taken
    · rename_i unstarted
      exact .fetched found begun (.calls unstarted) (Or.inl (Option.some.inj taken).symm)
    · cases taken
  · cases taken

theorem change_of_abandon {id : Nat} {kind : FetchKind}
    (taken : state.abandon? id kind = some after) : Change state (.abandon id kind) [] after := by
  unfold abandon? at taken
  split at taken
  · rename_i refresh found
    obtain ⟨-, rfl⟩ := mem_refreshes_of_refresh? found
    split at taken
    · rename_i run begun
      split at taken
      · rename_i allowed
        exact .fetched found begun (.abandons allowed.1 allowed.2)
          (Or.inr (Option.some.inj taken).symm)
      · cases taken
    · cases taken
  · cases taken

theorem change_of_endStatistics {id : Nat} {result : CallResult Statistics}
    (taken : state.endStatistics? id result = some after) :
    Change state (.endStatistics id result) [] after := by
  unfold endStatistics? at taken
  split at taken
  · rename_i run acts
    obtain ⟨refresh, found, begun, rfl⟩ := acting acts
    split at taken
    · rename_i waiting
      exact .fetched found begun (.endsStatistics waiting) (Or.inr (Option.some.inj taken).symm)
    · cases taken
  · cases taken

theorem change_of_endListings {id : Nat} {result : CallResult (List Listing)}
    (taken : state.endListings? id result = some after) :
    Change state (.endListings id result) [] after := by
  unfold endListings? at taken
  split at taken
  · rename_i run acts
    obtain ⟨refresh, found, begun, rfl⟩ := acting acts
    split at taken
    · rename_i waiting
      exact .fetched found begun (.endsListings waiting) (Or.inr (Option.some.inj taken).symm)
    · cases taken
  · cases taken

theorem change_of_endActivity {id : Nat} {result : CallResult (List Listing)}
    (taken : state.endActivity? id result = some after) :
    Change state (.endActivity id result) [] after := by
  unfold endActivity? at taken
  split at taken
  · rename_i run acts
    obtain ⟨refresh, found, begun, rfl⟩ := acting acts
    split at taken
    · rename_i waiting
      exact .fetched found begun (.endsActivity waiting) (Or.inr (Option.some.inj taken).symm)
    · cases taken
  · cases taken

/-- A look-up is a quiet change, whoever makes it. -/
theorem change_of_cached {subject : SubjectId} (nobody : action.actor? = none)
    (tolerant : ∀ subject, action ≠ .invalidate subject) :
    Change state action [] (state.cached subject).2 := by
  rw [cached_snd]
  exact .quiet nobody tolerant (Int.le_refl _) (ExpiringMap.ttl_get _ _ _)
    (ExpiringMap.get_sublist _ _ _)

theorem change_of_snapshot (subject : SubjectId) :
    Change state (.snapshot subject) [] (state.snapshot subject).2.2 := by
  cases found : (state.cached subject).1 with
  | some snapshot =>
    rw [snapshot_of_some found]
    exact change_of_cached rfl (fun _ => by simp)
  | none =>
    rw [snapshot_of_none found]
    exact change_of_schedule rfl (ExpiringMap.ttl_get _ _ _) (ExpiringMap.get_sublist _ _ _)

/-- Whatever a step does is one of the changes. -/
theorem change_of_step (taken : state.step? action = some (after, events)) :
    Change state action events after := by
  cases action with
  | snapshot subject =>
    obtain ⟨rfl, rfl⟩ := Prod.mk.inj (Option.some.inj taken)
    exact change_of_snapshot subject
  | cached subject =>
    obtain ⟨rfl, rfl⟩ := Prod.mk.inj (Option.some.inj taken)
    exact change_of_cached rfl (fun _ => by simp)
  | schedule subject =>
    obtain ⟨rfl, rfl⟩ := Prod.mk.inj (Option.some.inj taken)
    exact change_of_schedule rfl rfl (List.Sublist.refl _)
  | invalidate subject =>
    obtain ⟨rfl, rfl⟩ := Prod.mk.inj (Option.some.inj taken)
    exact .invalidated
  | sweep =>
    obtain ⟨rfl, rfl⟩ := Prod.mk.inj (Option.some.inj taken)
    exact .quiet rfl (fun _ => by simp) (Int.le_refl _) rfl (ExpiringMap.purge_sublist _ _)
  | wait nanos =>
    obtain ⟨rfl, rfl⟩ := Prod.mk.inj (Option.some.inj taken)
    exact .quiet rfl (fun _ => by simp) (Int.le_add_of_nonneg_right (Int.natCast_nonneg nanos)) rfl
      (List.Sublist.refl _)
  | begin id =>
    obtain ⟨worked, rfl⟩ := of_silent taken
    exact change_of_begin worked
  | call id kind =>
    obtain ⟨worked, rfl⟩ := of_silent taken
    exact change_of_call worked
  | abandon id kind =>
    obtain ⟨worked, rfl⟩ := of_silent taken
    exact change_of_abandon worked
  | endStatistics id result =>
    obtain ⟨worked, rfl⟩ := of_silent taken
    exact change_of_endStatistics worked
  | endListings id result =>
    obtain ⟨worked, rfl⟩ := of_silent taken
    exact change_of_endListings worked
  | endActivity id result =>
    obtain ⟨worked, rfl⟩ := of_silent taken
    exact change_of_endActivity worked
  | conclude id => exact change_of_conclude taken
  | expire id => exact change_of_expire taken

end Aggregation

end UserDashboard.Dashboard
