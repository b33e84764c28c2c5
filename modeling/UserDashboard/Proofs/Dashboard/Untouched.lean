/-
This file proves that what happens to one account leaves the others alone, as long as there is room
for the dashboards of all of them.

What anybody can tell about an account is its dashboard while it is live, its flight, its refreshes,
and the tasks, calls and alarms for them. A step of a refresh of another account touches none of
these: it changes, retires or releases its own refresh, and what it writes drops nothing to make
room. All refreshes share the tidying up, and that finds nothing of this account, because what is
left of a refresh that is over always still has to end. So nothing is touched in a turn of a task of
another account, and nothing by whoever reads, asks for or invalidates another one or sweeps.
-/

import UserDashboard.Proofs.Cache.Room
import UserDashboard.Proofs.Dashboard.Turn

namespace UserDashboard.Dashboard

open Cache Catalog Time

section Lists

variable {α : Type} {kept wanted : α → Bool} {members : List α} {last : α}

theorem filter_snoc_of_pos (keep : kept last) :
    (members ++ [last]).filter kept = members.filter kept ++ [last] := by
  rw [List.filter_append, List.filter_cons_of_pos keep, List.filter_nil]

theorem filter_snoc_of_neg (drop : ¬kept last) :
    (members ++ [last]).filter kept = members.filter kept := by
  rw [List.filter_append, List.filter_cons_of_neg drop, List.filter_nil, List.append_nil]

/-- What is found among the members that are kept, if only those are looked for. -/
theorem find?_filter_of_imp (implied : ∀ member ∈ members, wanted member → kept member) :
    (members.filter kept).find? wanted = members.find? wanted := by
  induction members with
  | nil => rfl
  | cons first rest inductionHypothesis =>
    have later := inductionHypothesis fun member present =>
      implied member (List.mem_cons_of_mem _ present)
    by_cases keep : kept first
    · rw [List.filter_cons_of_pos keep, List.find?_cons, List.find?_cons, later]
    · have passed : ¬wanted first := fun want => keep (implied first List.mem_cons_self want)
      rw [List.filter_cons_of_neg keep, later, List.find?_cons_of_neg passed]

end Lists

namespace Aggregation

variable {state next after : Aggregation} {action : Action} {events : List Event}
  {subject other : SubjectId} {id : Nat} {refresh : Refresh} {accounts : List SubjectId}

/-- The dashboard of an account, if it is live at a moment. -/
def live? (state : Aggregation) (moment : Moment) (subject : SubjectId) : Option Snapshot :=
  state.snapshots.entries.live? moment subject

/-- The refreshes of an account that are there. -/
def refreshesOf (state : Aggregation) (subject : SubjectId) : List Refresh :=
  state.refreshes.filter (·.subject = subject)

/-- Nothing has happened to an account, as far as anybody can tell from now on. -/
structure Untouched (subject : SubjectId) (state after : Aggregation) : Prop where
  now : after.now = state.now
  recentLimit : after.recentLimit = state.recentLimit
  deadline : after.deadline = state.deadline
  ttl : after.ttl = state.ttl
  live : ∀ later, state.now ≤ later → after.live? later subject = state.live? later subject
  flight : after.flight? subject = state.flight? subject
  refreshes : after.refreshesOf subject = state.refreshesOf subject

theorem mem_refreshesOf :
    refresh ∈ state.refreshesOf subject ↔
      refresh ∈ state.refreshes ∧ refresh.subject = subject := by
  simp [refreshesOf]

/-- Those of an account are changed like all. -/
theorem refreshesOf_modify {change : Refresh → Refresh}
    (kept : ∀ refresh, (change refresh).subject = refresh.subject) :
    (state.modify id change).refreshesOf subject = (state.refreshesOf subject).map
      fun refresh => if refresh.id = id then change refresh else refresh := by
  have accounts : ((fun refresh : Refresh => decide (refresh.subject = subject)) ∘
      fun refresh => if refresh.id = id then change refresh else refresh) =
      fun refresh => decide (refresh.subject = subject) := by
    funext refresh
    simp only [Function.comp_apply]
    split
    · rw [kept]
    · rfl
  unfold refreshesOf modify
  rw [List.filter_map, accounts]

/-- Ending a flight ends no other one. -/
theorem flight?_release_of_ne (state : Aggregation) (different : other ≠ subject) :
    (state.release other).flight? subject = state.flight? subject := by
  have others : ∀ flight ∈ state.flights, decide (flight.1 = subject) →
      decide (flight.1 ≠ other) := fun flight _ own =>
    decide_eq_true (of_decide_eq_true own ▸ Ne.symm different)
  unfold flight? release
  rw [find?_filter_of_imp others]

namespace Untouched

theorem refl (subject : SubjectId) (state : Aggregation) : Untouched subject state state :=
  ⟨rfl, rfl, rfl, rfl, fun _ _ => rfl, rfl, rfl⟩

theorem trans (first : Untouched subject state next) (second : Untouched subject next after) :
    Untouched subject state after where
  now := second.now.trans first.now
  recentLimit := second.recentLimit.trans first.recentLimit
  deadline := second.deadline.trans first.deadline
  ttl := second.ttl.trans first.ttl
  live later ordered := (second.live later (first.now ▸ ordered)).trans (first.live later ordered)
  flight := second.flight.trans first.flight
  refreshes := second.refreshes.trans first.refreshes

/-- Changing a refresh of another account. -/
theorem modify {change : Refresh → Refresh}
    (others : ∀ refresh ∈ state.refreshes, refresh.id = id → refresh.subject ≠ subject)
    (kept : ∀ refresh, (change refresh).subject = refresh.subject) :
    Untouched subject state (state.modify id change) := by
  refine ⟨rfl, rfl, rfl, rfl, fun _ _ => rfl, rfl, ?_⟩
  rw [refreshesOf_modify kept]
  refine (List.map_congr_left fun refresh present => if_neg fun acts => ?_).trans (List.map_id _)
  obtain ⟨there, account⟩ := mem_refreshesOf.mp present
  exact others refresh there acts account

/-- Tidying up, when nothing of the account is to be tidied up. -/
theorem tidy (undone : ∀ refresh ∈ state.refreshesOf subject, refresh.isDone = false) :
    Untouched subject state state.tidy := by
  refine ⟨rfl, rfl, rfl, rfl, fun _ _ => rfl, rfl, ?_⟩
  unfold refreshesOf Aggregation.tidy
  rw [List.filter_comm]
  refine List.filter_eq_self.mpr fun refresh present => ?_
  rw [undone refresh present]
  rfl

/-- Ending the flight of another account. -/
theorem release (state : Aggregation) (different : other ≠ subject) :
    Untouched subject state (state.release other) :=
  ⟨rfl, rfl, rfl, rfl, fun _ _ => rfl, flight?_release_of_ne state different, rfl⟩

theorem releaseOwn (state : Aggregation) (different : refresh.subject ≠ subject) :
    Untouched subject state (state.releaseOwn refresh) := by
  unfold Aggregation.releaseOwn
  split
  · exact release state different
  · exact refl subject state

/-- Retiring a refresh of another account. -/
theorem retire (same : next.refreshes = state.refreshes)
    (others : ∀ refresh ∈ state.refreshes, refresh.id = id → refresh.subject ≠ subject)
    (undone : ∀ refresh ∈ state.refreshesOf subject, refresh.isDone = false) (run : Run)
    (cancel : Bool) : Untouched subject next (next.retire id run cancel) := by
  have moved : Untouched subject next (next.modify id fun refresh => { refresh with
      cancelled := refresh.cancelled || cancel, stage := .lingering run }) :=
    modify (same ▸ others) fun _ => rfl
  have kept : next.refreshesOf subject = state.refreshesOf subject := by
    unfold refreshesOf
    rw [same]
  refine moved.trans (tidy ?_)
  rw [moved.refreshes, kept]
  exact undone

/-- Remembering other dashboards, if what is live for the account is the same. -/
theorem remember {snapshots : SnapshotCache} (ttl : snapshots.entries.ttl = state.ttl)
    (live : ∀ later, state.now ≤ later →
      snapshots.entries.live? later subject = state.live? later subject) :
    Untouched subject state { state with snapshots } :=
  ⟨rfl, rfl, rfl, ttl, live, rfl, rfl⟩

end Untouched

/-! ### Steps of other refreshes -/

/-- Everything is as it always is, and there is room for the dashboards of all accounts. -/
structure Housed (accounts : List SubjectId) (state : Aggregation) : Prop where
  orderly : Orderly state
  lingering : state.Lingering
  room : state.snapshots.entries.Within accounts
  asked : ∀ refresh ∈ state.refreshes, refresh.subject ∈ accounts

/-- Nothing that is there is to be tidied up. -/
theorem Lingering.isDone (lingering : state.Lingering) (present : refresh ∈ state.refreshes) :
    refresh.isDone = false := by
  unfold Refresh.isDone
  split
  · rename_i run stage
    exact (lingering refresh present run stage).2
  · rfl

/-- What a refresh makes known is about its account. -/
theorem Change.subject_of_event (changed : Change state action events after)
    (acts : action.actor? = some id) (owns : state.Owns subject id) :
    ∀ event ∈ events, event.subject = subject := by
  have account : ∀ {refresh : Refresh} {event : Event}, action.actor? = some refresh.id →
      state.refresh? refresh.id = some refresh → event.subject = refresh.subject →
      ∀ told ∈ [event], told.subject = subject := by
    intro refresh event actor found about told member
    have number := Option.some.inj (actor.symm.trans acts)
    rw [List.mem_singleton.mp member, about]
    exact owns.owner refresh (mem_refreshes_of_refresh? found).1 number
  cases changed with
  | invalidated => cases acts
  | committed commits => exact account rfl commits.found rfl
  | superseded found => exact account rfl found rfl
  | @givenUp _ refresh _ _ _ found fetching reason =>
    exact account reason.actor?_eq found rfl
  | _ => exact nofun

/-- A step of a refresh touches no other account. -/
theorem Change.untouched (changed : Change state action events after)
    (housed : state.Housed accounts) (acts : action.actor? = some id) (owns : state.Owns other id)
    (different : other ≠ subject) : Untouched subject state after := by
  have undone : ∀ refresh ∈ state.refreshesOf subject, refresh.isDone = false :=
    fun refresh present => housed.lingering.isDone (mem_refreshesOf.mp present).1
  have others : ∀ {refresh : Refresh}, action.actor? = some refresh.id →
      ∀ old ∈ state.refreshes, old.id = refresh.id → old.subject ≠ subject := by
    intro refresh actor old present number
    have same := Option.some.inj (actor.symm.trans acts)
    rw [owns.owner old present (number.trans same)]
    exact different
  cases changed with
  | quiet nobody => cases nobody.symm.trans acts
  | declined wanted | scheduled wanted => cases (actor?_of_wants? wanted).symm.trans acts
  | invalidated => cases acts
  | begun found => exact .modify (others rfl) fun _ => rfl
  | @fetched _ _ refresh run change found begun fetching led =>
    have moved : Untouched subject state (state.modify refresh.id (·.withRun change)) :=
      .modify (others fetching.actor?_eq) fun _ => rfl
    rcases led with rfl | rfl
    · exact moved
    · refine moved.trans (.tidy ?_)
      rw [moved.refreshes]
      exact undone
  | @committed refresh run entry commits =>
    obtain ⟨present, -⟩ := mem_refreshes_of_refresh? commits.found
    have foreign := others rfl refresh present rfl
    have known := housed.asked refresh present
    have stored : Untouched subject state
        { state with snapshots := ⟨state.snapshots.entries.store refresh.subject entry⟩ } :=
      .remember (ExpiringMap.ttl_store _ _ _) fun _ _ =>
        housed.room.live?_store_of_ne known entry (Ne.symm foreign)
    refine stored.trans ((Untouched.release _ foreign).trans ?_)
    refine .retire ?_ (others rfl) undone run false
    rfl
  | stranded => exact .retire rfl (others rfl) undone _ false
  | superseded => exact .retire rfl (others rfl) undone _ false
  | @givenUp _ refresh run error cancel found fetching reason =>
    have foreign := others reason.actor?_eq refresh (mem_refreshes_of_refresh? found).1 rfl
    obtain ⟨flights, -, same⟩ := releaseOwn_eq state refresh
    have released := Untouched.releaseOwn state foreign
    rw [same] at released ⊢
    refine released.trans (.retire ?_ (others reason.actor?_eq) undone run cancel)
    rfl

/-! ### What callers do for others -/

theorem untouched_cached (state : Aggregation) (subject other : SubjectId) :
    Untouched subject state (state.cached other).2 := by
  rw [cached_snd]
  exact .remember (ExpiringMap.ttl_get _ _ _) fun _ ordered =>
    ExpiringMap.live?_get _ ordered other subject

theorem untouched_schedule (state : Aggregation) (different : other ≠ subject) :
    Untouched subject state (state.schedule other).2 := by
  cases flight : state.flight? other with
  | some id =>
    rw [schedule_of_some flight]
    exact ⟨rfl, rfl, rfl, rfl, fun _ _ => rfl, rfl, rfl⟩
  | none =>
    rw [schedule_of_none flight]
    refine ⟨rfl, rfl, rfl, rfl, fun _ _ => rfl, ?_, ?_⟩
    · unfold flight?
      rw [List.find?_append, List.find?_singleton, if_neg (by simpa using different),
        Option.or_none]
    · exact filter_snoc_of_neg (by simpa using different)

theorem untouched_snapshot (state : Aggregation) (different : other ≠ subject) :
    Untouched subject state (state.snapshot other).2.2 := by
  have looked := untouched_cached state subject other
  cases found : (state.cached other).1 with
  | some snapshot =>
    rw [snapshot_of_some found]
    exact looked
  | none =>
    rw [snapshot_of_none found]
    exact looked.trans (untouched_schedule _ different)

theorem untouched_invalidate (orderly : Orderly state) (different : other ≠ subject) :
    Untouched subject state (state.invalidate other) := by
  have forgotten (next : Aggregation) : Untouched subject next
      { next with snapshots := (next.snapshots.invalidate other).2 } :=
    .remember rfl fun _ _ => ExpiringMap.live?_of_entry?
      (ExpiringMap.entry?_erase_of_ne _ (Ne.symm different))
  cases flight : state.flight? other with
  | none =>
    rw [invalidate_of_none flight]
    exact forgotten state
  | some id =>
    rw [invalidate_of_some flight]
    have owns := owns_of_flight orderly flight
    have cancelled : Untouched subject (state.release other)
        ((state.release other).modify id ({ · with cancelled := true })) :=
      .modify (fun refresh present number => owns.owner refresh present number ▸ different)
        fun _ => rfl
    exact (Untouched.release state different).trans (cancelled.trans (forgotten _))

theorem untouched_sweep (regular : state.snapshots.entries.Regular) :
    Untouched subject state state.sweep.2 :=
  .remember rfl fun _ ordered => regular.live?_purge ordered subject

/-! ### Room -/

theorem room_of_schedule (state : Aggregation) (subject : SubjectId) :
    (state.schedule subject).2.snapshots = state.snapshots := by
  cases flight : state.flight? subject with
  | some id => rw [schedule_of_some flight]
  | none => rw [schedule_of_none flight]

/-- Whatever callers do, they only have dashboards forgotten. -/
theorem room_of_caller (room : state.snapshots.entries.Within accounts)
    (taken : state.step? action = some (after, events)) (nobody : action.actor? = none) :
    after.snapshots.entries.Within accounts := by
  have looked (subject : SubjectId) :
      (state.cached subject).2.snapshots.entries.Within accounts := by
    refine room.forget (ExpiringMap.get_sublist _ state.now subject) ?_
    show ((state.snapshots.entries.get state.now subject).2).maxEntries = _
    unfold ExpiringMap.get
    cases state.snapshots.entries.live? state.now subject <;> rfl
  cases action <;> try cases nobody
  all_goals obtain ⟨rfl, rfl⟩ := Prod.mk.inj (Option.some.inj taken)
  case snapshot subject =>
    cases found : (state.cached subject).1 with
    | some snapshot =>
      rw [snapshot_of_some found]
      exact looked subject
    | none =>
      rw [snapshot_of_none found, room_of_schedule]
      exact looked subject
  case cached subject => exact looked subject
  case schedule subject =>
    rw [room_of_schedule]
    exact room
  case invalidate subject =>
    have same : (state.invalidate subject).snapshots.entries =
        state.snapshots.entries.erase subject := by
      cases flight : state.flight? subject with
      | none => rw [invalidate_of_none flight]; rfl
      | some id => rw [invalidate_of_some flight]; rfl
    rw [same]
    exact room.forget (ExpiringMap.erase_sublist _ _) rfl
  case sweep => exact room.forget (ExpiringMap.purge_sublist _ _) rfl
  case wait nanos => exact room

/-- There still is room after a step, when a refresh is only wanted for the accounts. -/
theorem Housed.step (housed : state.Housed accounts)
    (taken : state.step? action = some (after, events))
    (known : ∀ subject, action.wants? = some subject → subject ∈ accounts) :
    after.Housed accounts := by
  have changed := change_of_step taken
  refine ⟨housed.orderly.change changed, housed.lingering.step housed.orderly taken, ?_, ?_⟩
  · cases acts : action.actor? with
    | none => exact room_of_caller housed.room taken acts
    | some id =>
      cases changed with
      | quiet nobody => cases nobody.symm.trans acts
      | declined wanted | scheduled wanted => cases (actor?_of_wants? wanted).symm.trans acts
      | invalidated => cases acts
      | fetched found begun fetching led => rcases led with rfl | rfl <;> exact housed.room
      | committed commits =>
        exact housed.room.store (housed.asked _ (mem_refreshes_of_refresh? commits.found).1) _
      | @givenUp _ refresh =>
        obtain ⟨flights, -, same⟩ := releaseOwn_eq state refresh
        rw [same]
        exact housed.room
      | _ => exact housed.room
  · intro refresh present
    rcases changed.progress housed.orderly present with ⟨old, was, progress⟩ | ⟨_, wanted, -, rfl⟩
    · rw [progress.subject_eq]
      exact housed.asked old was
    · exact known _ wanted

theorem Housed.act (housed : state.Housed accounts) (acts : action.actor? = some id)
    (taken : state.step? action = some (after, events)) : after.Housed accounts :=
  housed.step taken fun _ wanted => nomatch (actor?_of_wants? wanted).symm.trans acts

end Aggregation

end UserDashboard.Dashboard
