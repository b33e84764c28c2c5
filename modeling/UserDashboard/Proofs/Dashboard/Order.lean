/-
This file proves what always holds between the flight table and the refreshes.

Refreshes have numbers of their own that were given out before, and so have flights; an account has
at most one flight. A flight belongs to the account of its refresh, which has not been cancelled,
and a refresh that has neither ended nor been cancelled is in flight for its account. Every change
keeps this, whatever the clock can tell and however callers and refreshes follow each other.
-/

import UserDashboard.Proofs.Dashboard.Change
import UserDashboard.Proofs.Keyed

namespace UserDashboard.Dashboard

/-- What always holds between the flight table and the refreshes. -/
structure Orderly (state : Aggregation) : Prop where
  /-- The numbers of refreshes were given out. -/
  numbered : ∀ refresh ∈ state.refreshes, refresh.id < state.nextId
  /-- No two refreshes have one number. -/
  distinct : (state.refreshes.map Refresh.id).Nodup
  /-- The numbers of flights were given out. -/
  launched : ∀ flight ∈ state.flights, flight.2 < state.nextId
  /-- No account has two flights. -/
  single : (state.flights.map Prod.fst).Nodup
  /-- No two flights have one number. -/
  separate : (state.flights.map Prod.snd).Nodup
  /-- A flight belongs to the account of its refresh, which was not cancelled. -/
  owned : ∀ flight ∈ state.flights, ∀ refresh ∈ state.refreshes, refresh.id = flight.2 →
    refresh.subject = flight.1 ∧ refresh.cancelled = false
  /-- A refresh that neither ended nor was cancelled is in flight. -/
  held : ∀ refresh ∈ state.refreshes, refresh.isRunning → refresh.cancelled = false →
    (refresh.subject, refresh.id) ∈ state.flights

namespace Orderly

open Aggregation Time

variable {state other : Aggregation}

/-! ### Finding flights and refreshes -/

/-- The flight table says which refresh is in flight for an account. -/
theorem flight?_eq_some_iff (orderly : Orderly state) {subject : SubjectId} {id : Nat} :
    state.flight? subject = some id ↔ (subject, id) ∈ state.flights := by
  refine ⟨mem_flights_of_flight?, fun member => ?_⟩
  simp only [flight?]
  rw [find?_of_nodup orderly.single member, Option.map_some]

theorem refresh?_of_mem (orderly : Orderly state) {refresh : Refresh}
    (member : refresh ∈ state.refreshes) : state.refresh? refresh.id = some refresh :=
  find?_of_nodup orderly.distinct member

theorem refresh?_of_id (orderly : Orderly state) {refresh : Refresh} {id : Nat}
    (member : refresh ∈ state.refreshes) (number : refresh.id = id) :
    state.refresh? id = some refresh :=
  number ▸ orderly.refresh?_of_mem member

theorem eq_of_id (orderly : Orderly state) {first second : Refresh}
    (memberFirst : first ∈ state.refreshes) (memberSecond : second ∈ state.refreshes)
    (same : first.id = second.id) : first = second :=
  eq_of_nodup orderly.distinct memberFirst memberSecond same

/-! ### What single operations keep -/

/-- Only flights, refreshes and numbers matter. -/
theorem of_same (orderly : Orderly state) (flights : other.flights = state.flights)
    (refreshes : other.refreshes = state.refreshes) (numbers : state.nextId ≤ other.nextId) :
    Orderly other where
  numbered refresh member :=
    Nat.lt_of_lt_of_le (orderly.numbered refresh (refreshes ▸ member)) numbers
  distinct := refreshes ▸ orderly.distinct
  launched flight member :=
    Nat.lt_of_lt_of_le (orderly.launched flight (flights ▸ member)) numbers
  single := flights ▸ orderly.single
  separate := flights ▸ orderly.separate
  owned flight taken refresh member :=
    orderly.owned flight (flights ▸ taken) refresh (refreshes ▸ member)
  held refresh member running current := by
    rw [flights]
    exact orderly.held refresh (refreshes ▸ member) running current

theorem tidy (orderly : Orderly state) : Orderly state.tidy where
  numbered refresh member := orderly.numbered refresh (mem_tidy.mp member).1
  distinct := orderly.distinct.sublist (List.filter_sublist.map Refresh.id)
  launched := orderly.launched
  single := orderly.single
  separate := orderly.separate
  owned flight taken refresh member := orderly.owned flight taken refresh (mem_tidy.mp member).1
  held refresh member := orderly.held refresh (mem_tidy.mp member).1

/-- Refreshes may change and flights may end. A refresh keeps its number and its account and is
not revived; one whose flight goes on is not cancelled, one whose flight ends stops. -/
theorem evolve (orderly : Orderly state) (change : Refresh → Refresh)
    (refreshes : other.refreshes = state.refreshes.map change)
    (flights : other.flights.Sublist state.flights) (numbers : other.nextId = state.nextId)
    (identity : ∀ refresh, (change refresh).id = refresh.id ∧
      (change refresh).subject = refresh.subject)
    (revives : ∀ refresh ∈ state.refreshes, (change refresh).isRunning →
      (change refresh).cancelled = false → refresh.isRunning ∧ refresh.cancelled = false)
    (spared : ∀ flight ∈ other.flights, ∀ refresh ∈ state.refreshes, refresh.id = flight.2 →
      refresh.cancelled = false → (change refresh).cancelled = false)
    (stopped : ∀ refresh ∈ state.refreshes, (refresh.subject, refresh.id) ∈ state.flights →
      (refresh.subject, refresh.id) ∉ other.flights → (change refresh).isRunning →
      (change refresh).cancelled = true) : Orderly other where
  numbered refresh member := by
    rw [refreshes] at member
    obtain ⟨old, present, rfl⟩ := List.mem_map.mp member
    rw [(identity old).1, numbers]
    exact orderly.numbered old present
  distinct := by
    have same : other.refreshes.map Refresh.id = state.refreshes.map Refresh.id := by
      rw [refreshes, List.map_map]
      exact List.map_congr_left fun refresh _ => (identity refresh).1
    rw [same]
    exact orderly.distinct
  launched flight member := by
    rw [numbers]
    exact orderly.launched flight (flights.subset member)
  single := orderly.single.sublist (flights.map Prod.fst)
  separate := orderly.separate.sublist (flights.map Prod.snd)
  owned flight taken refresh member number := by
    rw [refreshes] at member
    obtain ⟨old, present, rfl⟩ := List.mem_map.mp member
    rw [(identity old).1] at number
    obtain ⟨account, current⟩ := orderly.owned flight (flights.subset taken) old present number
    rw [(identity old).2]
    exact ⟨account, spared flight taken old present number current⟩
  held refresh member running current := by
    rw [refreshes] at member
    obtain ⟨old, present, rfl⟩ := List.mem_map.mp member
    obtain ⟨ran, uncancelled⟩ := revives old present running current
    have flew := orderly.held old present ran uncancelled
    rw [(identity old).1, (identity old).2]
    by_cases goesOn : (old.subject, old.id) ∈ other.flights
    · exact goesOn
    · rw [stopped old present flew goesOn running] at current
      cases current

/-- A refresh that is in flight at all is in flight for its own account. -/
theorem flight?_of_number (orderly : Orderly state) {flight : SubjectId × Nat} {refresh : Refresh}
    (taken : flight ∈ state.flights) (present : refresh ∈ state.refreshes)
    (number : refresh.id = flight.2) : state.flight? refresh.subject = some refresh.id := by
  obtain ⟨account, -⟩ := orderly.owned flight taken refresh present number
  rw [orderly.flight?_eq_some_iff, account, number]
  exact taken

/-- Ending the flight of an account ends no other one. -/
theorem number_of_released (orderly : Orderly state) {subject : SubjectId} {id : Nat}
    (flying : state.flight? subject = some id) {flight : SubjectId × Nat}
    (taken : flight ∈ state.flights) (ended : flight ∉ (state.release subject).flights) :
    flight.2 = id := by
  have account : flight.1 = subject :=
    Decidable.byContradiction fun different => ended (mem_release.mpr ⟨taken, different⟩)
  have found : state.flight? flight.1 = some flight.2 := orderly.flight?_eq_some_iff.mpr taken
  rw [account, flying] at found
  exact (Option.some.inj found).symm

/-- Nobody has the number of a flight that has ended. -/
theorem number_ne_of_released (orderly : Orderly state) {subject : SubjectId} {id : Nat}
    (flying : state.flight? subject = some id) {flight : SubjectId × Nat}
    (taken : flight ∈ (state.release subject).flights) : flight.2 ≠ id := by
  intro same
  obtain ⟨present, different⟩ := mem_release.mp taken
  have flew : (subject, id) ∈ state.flights := mem_flights_of_flight? flying
  have one := find?_of_nodup orderly.separate present
  rw [same, show id = (subject, id).2 from rfl, find?_of_nodup orderly.separate flew] at one
  exact different (congrArg Prod.fst (Option.some.inj one)).symm

/-- Nobody has the number of a refresh that was given up. -/
theorem number_ne_of_releaseOwn (orderly : Orderly state) {refresh : Refresh}
    (present : refresh ∈ state.refreshes) {flight : SubjectId × Nat}
    (taken : flight ∈ (state.releaseOwn refresh).flights) : flight.2 ≠ refresh.id := by
  unfold releaseOwn at taken
  split at taken
  · rename_i flying
    exact orderly.number_ne_of_released flying taken
  · rename_i grounded
    exact fun same => grounded (orderly.flight?_of_number taken present same.symm)

/-- A refresh may end if at most its own flight ends with it, and must not be cancelled while its
flight goes on. -/
theorem retire (orderly : Orderly state) {id : Nat} {run : Run} {cancel : Bool}
    (refreshes : other.refreshes = state.refreshes)
    (flights : other.flights.Sublist state.flights) (numbers : other.nextId = state.nextId)
    (ended : ∀ flight ∈ state.flights, flight ∉ other.flights → flight.2 = id)
    (spared : cancel = true → ∀ flight ∈ other.flights, flight.2 ≠ id) :
    Orderly (other.retire id run cancel) := by
  refine tidy (orderly.evolve (fun refresh => if refresh.id = id then
    { refresh with cancelled := refresh.cancelled || cancel, stage := .lingering run }
    else refresh) ?_ flights numbers ?_ ?_ ?_ ?_)
  · simp only [Aggregation.modify, refreshes]
  · intro refresh
    split <;> exact ⟨rfl, rfl⟩
  · intro refresh present
    split
    · intro running
      cases running
    · exact And.intro
  · intro flight taken refresh present number current
    split
    · rename_i acts
      cases cancel with
      | false => simp [current]
      | true => exact absurd (number.symm.trans acts) (spared rfl flight taken)
    · exact current
  · intro refresh present flew lost
    rw [if_pos (ended _ flew lost)]
    intro running
    cases running

/-- A refresh may be given up, with or without a flight to end. -/
theorem retireOwn (orderly : Orderly state) {refresh : Refresh} {run : Run} {cancel : Bool}
    (present : refresh ∈ state.refreshes) :
    Orderly ((state.releaseOwn refresh).retire refresh.id run cancel) := by
  have spared : cancel = true → ∀ flight ∈ (state.releaseOwn refresh).flights,
      flight.2 ≠ refresh.id :=
    fun _ flight taken => orderly.number_ne_of_releaseOwn present taken
  by_cases flying : state.flight? refresh.subject = some refresh.id
  · rw [releaseOwn, if_pos flying] at spared ⊢
    exact orderly.retire rfl List.filter_sublist rfl
      (fun flight => orderly.number_of_released flying) spared
  · rw [releaseOwn, if_neg flying] at spared ⊢
    exact orderly.retire rfl (List.Sublist.refl _) rfl
      (fun flight taken lost => absurd taken lost) spared

/-- One refresh may be changed while the flights stay, if it keeps its number and its account, is
cancelled no more than before, and is not revived. -/
theorem modify (orderly : Orderly state) {refresh : Refresh} {change : Refresh → Refresh}
    (found : state.refresh? refresh.id = some refresh)
    (identity : ∀ refresh, (change refresh).id = refresh.id ∧
      (change refresh).subject = refresh.subject ∧
      (change refresh).cancelled = refresh.cancelled)
    (revives : (change refresh).isRunning → refresh.isRunning) :
    Orderly (state.modify refresh.id change) := by
  refine orderly.evolve (fun other => if other.id = refresh.id then change other else other) rfl
    (List.Sublist.refl _) rfl ?_ ?_ ?_ (fun other present flew lost => absurd flew lost)
  · intro other
    split
    · exact ⟨(identity other).1, (identity other).2.1⟩
    · exact ⟨rfl, rfl⟩
  · intro other present
    split
    · rename_i same
      rw [orderly.eq_of_id present (mem_refreshes_of_refresh? found).1 same,
        (identity refresh).2.2]
      exact fun running current => ⟨revives running, current⟩
    · exact And.intro
  · intro flight taken other present number current
    split
    · rw [(identity other).2.2]
      exact current
    · exact current

/-- An account without a flight may get one, for a refresh that has not begun. -/
theorem schedule (orderly : Orderly state) {subject : SubjectId} {snapshots : SnapshotCache}
    (free : state.flight? subject = none) :
    Orderly { state with
      snapshots
      nextId := state.nextId + 1
      flights := state.flights ++ [(subject, state.nextId)]
      refreshes := state.refreshes ++ [⟨state.nextId, subject, false, .scheduled⟩] } where
  numbered refresh member := by
    rcases List.mem_append.mp member with old | new
    · exact Nat.lt_succ_of_lt (orderly.numbered refresh old)
    · rw [List.mem_singleton.mp new]
      exact Nat.lt_succ_self _
  distinct := nodup_snoc orderly.distinct fun refresh member =>
    Nat.ne_of_lt (orderly.numbered refresh member)
  launched flight member := by
    rcases List.mem_append.mp member with old | new
    · exact Nat.lt_succ_of_lt (orderly.launched flight old)
    · rw [List.mem_singleton.mp new]
      exact Nat.lt_succ_self _
  single := nodup_snoc orderly.single (flight?_eq_none_iff.mp free)
  separate := nodup_snoc orderly.separate fun flight member =>
    Nat.ne_of_lt (orderly.launched flight member)
  owned flight taken refresh member number := by
    rcases List.mem_append.mp taken with old | new <;>
      rcases List.mem_append.mp member with present | added
    · exact orderly.owned flight old refresh present number
    · rw [List.mem_singleton.mp added] at number
      exact absurd number.symm (Nat.ne_of_lt (orderly.launched flight old))
    · rw [List.mem_singleton.mp new] at number
      exact absurd number (Nat.ne_of_lt (orderly.numbered refresh present))
    · rw [List.mem_singleton.mp new, List.mem_singleton.mp added]
      exact ⟨rfl, rfl⟩
  held refresh member running current := by
    rcases List.mem_append.mp member with old | new
    · exact List.mem_append_left _ (orderly.held refresh old running current)
    · rw [List.mem_singleton.mp new]
      exact List.mem_append_right _ List.mem_cons_self

theorem invalidate (orderly : Orderly state) (subject : SubjectId) :
    Orderly (state.invalidate subject) := by
  cases flight : state.flight? subject with
  | none =>
    rw [invalidate_of_none flight]
    exact orderly.of_same rfl rfl (Nat.le_refl _)
  | some id =>
    rw [invalidate_of_some flight]
    refine orderly.evolve
      (fun refresh => if refresh.id = id then { refresh with cancelled := true } else refresh) rfl
      List.filter_sublist rfl ?_ ?_ ?_ ?_
    · intro refresh
      split <;> exact ⟨rfl, rfl⟩
    · intro refresh present
      split
      · intro running current
        cases current
      · exact And.intro
    · intro one taken refresh present number current
      rw [if_neg fun same => orderly.number_ne_of_released flight taken (number ▸ same)]
      exact current
    · intro refresh present flew lost running
      rw [if_pos (orderly.number_of_released flight flew lost)]

/-! ### Every change -/

theorem isRunning_withRun (refresh : Refresh) (change : Run → Run) :
    (refresh.withRun change).isRunning = refresh.isRunning := by
  obtain ⟨id, subject, cancelled, stage⟩ := refresh
  cases stage <;> rfl

theorem withRun (orderly : Orderly state) {refresh : Refresh} {change : Run → Run}
    (found : state.refresh? refresh.id = some refresh) :
    Orderly (state.modify refresh.id (·.withRun change)) :=
  orderly.modify found (fun _ => ⟨rfl, rfl, rfl⟩)
    (fun running => (isRunning_withRun refresh change).symm.trans running)

variable {after : Aggregation} {action : Action} {events : List Event}

/-- Every change keeps what always holds. -/
theorem change (orderly : Orderly state) (changed : Change state action events after) :
    Orderly after := by
  cases changed with
  | quiet => exact orderly.of_same rfl rfl (Nat.le_refl _)
  | declined => exact orderly.of_same rfl rfl (Nat.le_succ _)
  | scheduled wanted free => exact orderly.schedule free
  | invalidated => exact orderly.invalidate _
  | begun found scheduled =>
    exact orderly.modify found (fun _ => ⟨rfl, rfl, rfl⟩)
      (fun _ => by simp only [Refresh.isRunning, scheduled])
  | fetched found begun fetching led =>
    rcases led with rfl | rfl
    · exact orderly.withRun found
    · exact (orderly.withRun found).tidy
  | committed commits =>
    exact orderly.retire rfl List.filter_sublist rfl
      (fun flight => orderly.number_of_released commits.flying) (fun cancel => by cases cancel)
  | stranded =>
    exact orderly.retire rfl (List.Sublist.refl _) rfl
      (fun flight taken lost => absurd taken lost) (fun cancel => by cases cancel)
  | superseded =>
    exact orderly.retire rfl (List.Sublist.refl _) rfl
      (fun flight taken lost => absurd taken lost) (fun cancel => by cases cancel)
  | givenUp found => exact orderly.retireOwn (mem_refreshes_of_refresh? found).1

/-- Without refreshes and flights there is nothing to hold. -/
theorem new (now : Moment) (recentLimit : Nat) (deadline : Span)
    (reports : Nat → FetchKind → String) (snapshots : SnapshotCache) :
    Orderly (Aggregation.new now recentLimit deadline reports snapshots) where
  numbered refresh member := by cases member
  distinct := List.nodup_nil
  launched flight member := by cases member
  single := List.nodup_nil
  separate := List.nodup_nil
  owned flight taken := by cases taken
  held refresh member := by cases member

variable {start : Aggregation} {moves : List Move}

/-- It always holds. -/
theorem of_trace (orderly : Orderly start) (trace : Trace Aggregation.step? start moves state) :
    Orderly state :=
  trace.invariant orderly fun taken kept => kept.change (change_of_step taken)

/-- It holds before every step that is taken, and the step is a change. -/
theorem of_move (orderly : Orderly start) (trace : Trace Aggregation.step? start moves state)
    {move : Move} (member : move ∈ moves) :
    Orderly move.before ∧ Change move.before move.action move.output move.after :=
  ⟨trace.invariant_before orderly (fun taken kept => kept.change (change_of_step taken)) member,
    change_of_step (trace.taken member)⟩

end Orderly

end UserDashboard.Dashboard
