/-
This file proves that nothing is written for an account by a refresh from before its invalidation.

Only the refresh in flight for an account writes its dashboard, and it is no longer in flight after
that, nor after the account was invalidated. A number that is no longer in flight never is again,
since flights are only started under new numbers. So whatever is remembered was written by a refresh
that was started after the account was last invalidated, the numbers of the refreshes that write for
one account grow, and no refresh touches the flight of another one.
-/

import UserDashboard.Proofs.Dashboard.Progress

namespace UserDashboard.Dashboard

open Cache Catalog Time

namespace Move

/-- A step starts a refresh for an account: it puts the number into the flight table. -/
def Starts (move : Move) (subject : SubjectId) (id : Nat) : Prop :=
  move.before.flight? subject = none ∧ move.after.flight? subject = some id

/-- A step is the one in which a refresh writes the dashboard of an account. -/
def Writes (move : Move) (subject : SubjectId) (id : Nat) (entry : Entry Snapshot) : Prop :=
  move.action = .conclude id ∧ (∃ elapsed, .refreshed subject elapsed ∈ move.output) ∧
    move.after.stored? subject = some entry

/-- The last of some steps are those after a refresh was started for an account, and the account was
not invalidated in any of them. -/
def StartedBefore (later moves : List Move) (subject : SubjectId) (id : Nat) : Prop :=
  (∃ earlier starter, Starts starter subject id ∧ moves = earlier ++ starter :: later) ∧
    ∀ move ∈ later, move.action ≠ .invalidate subject

variable {move : Move} {later moves : List Move} {subject : SubjectId} {id : Nat}

theorem startedBefore_of_starts (starts : Starts move subject id) (moves : List Move) :
    StartedBefore [] (moves ++ [move]) subject id :=
  ⟨⟨moves, move, starts, rfl⟩, fun _ member => by cases member⟩

theorem StartedBefore.snoc (started : StartedBefore later moves subject id)
    (spared : move.action ≠ .invalidate subject) :
    StartedBefore (later ++ [move]) (moves ++ [move]) subject id := by
  obtain ⟨⟨earlier, starter, starts, rfl⟩, since⟩ := started
  refine ⟨⟨earlier, starter, starts, ?_⟩, ?_⟩
  · rw [List.append_assoc, List.cons_append]
  · intro one member
    rcases List.mem_append.mp member with old | last
    · exact since one old
    · rw [List.mem_singleton.mp last]
      exact spared

end Move

namespace Aggregation

open Move

variable {start state after : Aggregation} {action : Action} {events : List Event}
  {moves : List Move} {subject : SubjectId} {id : Nat}

/-! ### Invalidation -/

/-- An account that was invalidated has no flight, and all flights that are left were there. -/
theorem mem_flights_of_invalidate {flight : SubjectId × Nat}
    (taken : flight ∈ (state.invalidate subject).flights) :
    flight ∈ state.flights ∧ flight.1 ≠ subject := by
  cases found : state.flight? subject with
  | none =>
    rw [invalidate_of_none found] at taken
    exact ⟨taken, flight?_eq_none_iff.mp found flight taken⟩
  | some id =>
    rw [invalidate_of_some found] at taken
    exact mem_release.mp taken

theorem Change.eq_invalidate (changed : Change state (.invalidate subject) events after) :
    after = state.invalidate subject := by
  cases changed with
  | quiet nobody tolerant => exact absurd rfl (tolerant subject)
  | declined wanted => cases wanted
  | scheduled wanted => cases wanted
  | invalidated => rfl
  | fetched found begun fetching => cases fetching
  | givenUp found fetching reason => cases reason

/-- A refresh of an account was scheduled and is not over, or is in flight for it. -/
def Underway (state : Aggregation) (subject : SubjectId) (id : Nat) : Prop :=
  state.flight? subject = some id ∨
    ∃ refresh ∈ state.refreshes, refresh.id = id ∧ refresh.subject = subject

/-! ### Numbers that are no longer in flight -/

/-- The number of a refresh of an account was given out and is not in flight, and what is in flight
for the account was started later. -/
def Past (state : Aggregation) (subject : SubjectId) (id : Nat) : Prop :=
  id < state.nextId ∧
    ∀ flight ∈ state.flights, flight.2 ≠ id ∧ (flight.1 = subject → id < flight.2)

theorem Past.change (past : Past state subject id)
    (changed : Change state action events after) : Past after subject id := by
  refine ⟨Nat.lt_of_lt_of_le past.1 changed.onward.numbers, ?_⟩
  intro flight taken
  rcases changed.flights taken with old | ⟨-, -, new⟩
  · exact past.2 flight old
  · rw [new]
    exact ⟨Nat.ne_of_gt past.1, fun _ => past.1⟩

/-- What was under way for an account is past once the account was invalidated. -/
theorem past_of_invalidate (orderly : Orderly state) (underway : Underway state subject id) :
    Past (state.invalidate subject) subject id := by
  have given : id < state.nextId := by
    rcases underway with flying | ⟨refresh, present, rfl, -⟩
    · exact orderly.launched _ (mem_flights_of_flight? flying)
    · exact orderly.numbered refresh present
  have changed : Change state (.invalidate subject) _ _ := .invalidated
  refine ⟨Nat.lt_of_lt_of_le given changed.onward.numbers, ?_⟩
  intro flight taken
  obtain ⟨old, different⟩ := mem_flights_of_invalidate taken
  refine ⟨?_, fun same => absurd same different⟩
  rcases underway with flying | ⟨refresh, present, rfl, rfl⟩
  · exact orderly.number_ne_of_released flying (mem_release.mpr ⟨old, different⟩)
  · exact fun same => different (orderly.owned flight old refresh present same.symm).1.symm

/-! ### Writing -/

/-- A refresh that makes known that it wrote was in flight. -/
theorem commits_of_refreshed {elapsed : Nat} (changed : Change state action events after)
    (told : .refreshed subject elapsed ∈ events) :
    ∃ refresh run entry, Commits state refresh run entry ∧ refresh.subject = subject ∧
      action = .conclude refresh.id ∧ after = state.written refresh run entry := by
  cases changed with
  | quiet | declined | scheduled | begun | fetched | stranded => cases told
  | invalidated => simp at told
  | @committed refresh run entry commits =>
    have account := (Event.refreshed.inj (List.mem_singleton.mp told)).1
    exact ⟨refresh, run, entry, commits, account.symm, rfl, rfl⟩
  | superseded => simp at told
  | givenUp => simp at told

/-- What a refresh has written is the entry of its account. -/
theorem stored?_written (state : Aggregation) (refresh : Refresh) (run : Run)
    (entry : Entry Snapshot) :
    (state.written refresh run entry).stored? refresh.subject = some entry :=
  ExpiringMap.store_found _ _ _

theorem commits_of_writes {move : Move} {entry : Entry Snapshot}
    (changed : Change move.before move.action move.output move.after)
    (writes : Writes move subject id entry) :
    ∃ refresh run, Commits move.before refresh run entry ∧ refresh.id = id ∧
      refresh.subject = subject ∧ move.after = move.before.written refresh run entry := by
  obtain ⟨acts, ⟨elapsed, told⟩, stored⟩ := writes
  obtain ⟨refresh, run, written, commits, account, concludes, led⟩ :=
    commits_of_refreshed changed told
  have number : refresh.id = id := (Action.conclude.inj (acts.symm.trans concludes)).symm
  rw [led, ← account, stored?_written] at stored
  obtain rfl := Option.some.inj stored
  exact ⟨refresh, run, commits, number, account, led⟩

/-- A refresh that wrote for an account is past. -/
theorem past_of_written (orderly : Orderly state) {refresh : Refresh} {run : Run}
    {entry : Entry Snapshot} (commits : Commits state refresh run entry) :
    Past (state.written refresh run entry) refresh.subject refresh.id := by
  refine ⟨orderly.numbered refresh (mem_refreshes_of_refresh? commits.found).1, ?_⟩
  intro flight taken
  exact ⟨orderly.number_ne_of_released commits.flying taken,
    fun same => absurd same (mem_release.mp taken).2⟩

/-- Whatever a refresh does, it changes no dashboard and says so, or it writes the one of its
account. -/
theorem Change.snapshots_eq_or_commits (changed : Change state action events after)
    (acts : action.actor? = some id) :
    (after.snapshots = state.snapshots ∧ ∀ subject elapsed, .refreshed subject elapsed ∉ events) ∨
      ∃ refresh run entry, Commits state refresh run entry ∧ refresh.id = id ∧
        .refreshed refresh.subject (state.elapsedSince run.startedAt) ∈ events := by
  cases changed with
  | quiet nobody => exact absurd (nobody.symm.trans acts) nofun
  | declined wanted => exact absurd ((actor?_of_wants? wanted).symm.trans acts) nofun
  | scheduled wanted => exact absurd ((actor?_of_wants? wanted).symm.trans acts) nofun
  | invalidated => cases acts
  | begun => exact Or.inl ⟨rfl, fun _ _ => nofun⟩
  | fetched found begun fetching led =>
    rcases led with rfl | rfl <;> exact Or.inl ⟨rfl, fun _ _ => nofun⟩
  | committed commits =>
    exact Or.inr ⟨_, _, _, commits, Option.some.inj acts, List.mem_cons_self⟩
  | stranded => exact Or.inl ⟨rfl, fun _ _ => nofun⟩
  | superseded => exact Or.inl ⟨rfl, fun _ _ => by simp⟩
  | @givenUp _ refresh =>
    obtain ⟨flights, -, same⟩ := releaseOwn_eq state refresh
    rw [same]
    exact Or.inl ⟨rfl, fun _ _ => by simp⟩

/-- A refresh that is not in flight writes nothing, whatever it does. -/
theorem Change.snapshots_eq (changed : Change state action events after)
    (acts : action.actor? = some id) (grounded : ∀ flight ∈ state.flights, flight.2 ≠ id) :
    after.snapshots = state.snapshots ∧ ∀ subject elapsed, .refreshed subject elapsed ∉ events := by
  rcases changed.snapshots_eq_or_commits acts with same | ⟨refresh, run, entry, commits, number, -⟩
  · exact same
  · exact absurd number (grounded _ (mem_flights_of_flight? commits.flying))

/-- A refresh does not touch the flight of another one. -/
theorem Change.flight?_eq (changed : Change state action events after) (orderly : Orderly state)
    (flying : state.flight? subject = some id) {other : Nat} (acts : action.actor? = some other)
    (different : other ≠ id) : after.flight? subject = some id := by
  have flew : (subject, id) ∈ state.flights := mem_flights_of_flight? flying
  have stays : ∀ released, state.flight? released = some other →
      (subject, id) ∈ (state.release released).flights := by
    intro released ended
    refine mem_release.mpr ⟨flew, ?_⟩
    rintro rfl
    rw [flying] at ended
    exact different (Option.some.inj ended).symm
  have given : ∀ refresh : Refresh, refresh.id = other →
      (subject, id) ∈ (state.releaseOwn refresh).flights := by
    rintro refresh rfl
    unfold releaseOwn
    split
    · rename_i ended
      exact stays _ ended
    · exact flew
  refine (orderly.change changed).flight?_eq_some_iff.mpr ?_
  cases changed with
  | quiet nobody => exact absurd (nobody.symm.trans acts) nofun
  | declined wanted => exact absurd ((actor?_of_wants? wanted).symm.trans acts) nofun
  | scheduled wanted => exact absurd ((actor?_of_wants? wanted).symm.trans acts) nofun
  | invalidated => cases acts
  | begun => exact flew
  | fetched found begun fetching led => rcases led with rfl | rfl <;> exact flew
  | @committed refresh run entry commits =>
    have same : refresh.id = other := Option.some.inj acts
    exact stays _ (same ▸ commits.flying)
  | stranded => exact flew
  | superseded => exact flew
  | @givenUp _ refresh run error cancel found fetching reason =>
    exact given refresh (Option.some.inj (reason.actor?_eq.symm.trans acts))

/-! ### The whole run -/

/-- What is in flight was started after its account was last invalidated. -/
theorem startedBefore_of_flight (orderly : Orderly start) (empty : start.flights = [])
    (trace : Trace step? start moves state) (flying : state.flight? subject = some id) :
    ∃ later, StartedBefore later moves subject id := by
  induction trace with
  | nil =>
    have taken := mem_flights_of_flight? flying
    rw [empty] at taken
    cases taken
  | @snoc moves before after action events trace taken inductionHypothesis =>
    have changed := change_of_step taken
    have kept : Orderly before := orderly.of_trace trace
    have flew : (subject, id) ∈ after.flights := mem_flights_of_flight? flying
    rcases changed.flights flew with old | ⟨-, free, -⟩
    · obtain ⟨later, started⟩ := inductionHypothesis (kept.flight?_eq_some_iff.mpr old)
      refine ⟨_, started.snoc ?_⟩
      rintro rfl
      rw [changed.eq_invalidate] at flew
      exact (mem_flights_of_invalidate flew).2 rfl
    · exact ⟨[], startedBefore_of_starts ⟨free, flying⟩ moves⟩

/-- What is remembered for an account was written by a refresh that was started after the account
was last invalidated. -/
theorem startedBefore_of_stored (orderly : Orderly start) (empty : start.flights = [])
    (nothing : start.stores = []) (trace : Trace step? start moves state) {entry : Entry Snapshot}
    (stored : (subject, entry) ∈ state.stores) :
    ∃ later id, StartedBefore later moves subject id ∧
      ∃ writer ∈ later, Writes writer subject id entry := by
  induction trace with
  | nil =>
    rw [nothing] at stored
    cases stored
  | @snoc moves before after action events trace taken inductionHypothesis =>
    have changed := change_of_step taken
    rcases changed.stores stored with old | ⟨refresh, run, written, commits, same, acts, told, led⟩
    · obtain ⟨later, id, started, writer, member, writes⟩ := inductionHypothesis old
      refine ⟨_, id, started.snoc ?_, writer, List.mem_append_left _ member, writes⟩
      rintro rfl
      rw [changed.eq_invalidate] at stored
      exact (mem_stores_of_invalidate stored).2 rfl
    · obtain ⟨rfl, rfl⟩ := Prod.mk.inj same
      obtain ⟨later, started⟩ := startedBefore_of_flight orderly empty trace commits.flying
      refine ⟨_, refresh.id, started.snoc ?_, _, List.mem_append_right _ List.mem_cons_self, ?_⟩
      · rw [acts]
        exact nofun
      · refine ⟨acts, ⟨_, told ▸ List.mem_cons_self⟩, ?_⟩
        rw [led]
        exact stored?_written before refresh run entry

/-- What was under way for an account when it was invalidated never writes again. -/
theorem no_write_after_invalidate (orderly : Orderly start)
    (trace : Trace step? start moves state) :
    moves.Pairwise fun earlier later => ∀ subject id, earlier.action = .invalidate subject →
      Underway earlier.before subject id → later.action.actor? = some id →
      later.after.snapshots = later.before.snapshots ∧
        ∀ other entry, ¬Writes later other id entry := by
  have ordered := (trace.pairwise
    (fun move state => ∀ subject id, move.action = .invalidate subject →
      Underway move.before subject id → Past state subject id)
    (fun move member subject id acts underway => by
      obtain ⟨kept, changed⟩ := orderly.of_move trace member
      rw [acts] at changed
      rw [changed.eq_invalidate]
      exact past_of_invalidate kept underway)
    (fun earlier move member past subject id acts underway =>
      (past subject id acts underway).change (orderly.of_move trace member).2)).1
  refine ordered.imp_of_mem ?_
  intro earlier later _ member past subject id acts underway acting
  have grounded : ∀ flight ∈ later.before.flights, flight.2 ≠ id :=
    fun flight taken => ((past subject id acts underway).2 flight taken).1
  obtain ⟨same, silent⟩ := (orderly.of_move trace member).2.snapshots_eq acting grounded
  exact ⟨same, fun other entry ⟨_, ⟨elapsed, told⟩, _⟩ => silent other elapsed told⟩

/-- The numbers of the refreshes that write for one account grow. -/
theorem writes_increase (orderly : Orderly start) (trace : Trace step? start moves state) :
    moves.Pairwise fun earlier later => ∀ subject first second entry other,
      Writes earlier subject first entry → Writes later subject second other → first < second := by
  have ordered := (trace.pairwise
    (fun move state => ∀ subject id entry, Writes move subject id entry → Past state subject id)
    (fun move member subject id entry writes => by
      obtain ⟨kept, changed⟩ := orderly.of_move trace member
      obtain ⟨refresh, run, commits, rfl, rfl, led⟩ := commits_of_writes changed writes
      rw [led]
      exact past_of_written kept commits)
    (fun earlier move member past subject id entry writes =>
      (past subject id entry writes).change (orderly.of_move trace member).2)).1
  refine ordered.imp_of_mem ?_
  intro earlier later _ member past subject first second entry other wrote writes
  have changed := (orderly.of_move trace member).2
  obtain ⟨refresh, run, commits, rfl, rfl, -⟩ := commits_of_writes changed writes
  have flew := mem_flights_of_flight? commits.flying
  exact ((past _ first entry wrote).2 _ flew).2 rfl

/-- Nothing is written after an invalidation by a refresh from before it. Whatever is remembered for
an account was written by a refresh that was started after the account was last invalidated. What
was under way for an account when it was invalidated never writes again, whatever it does. The
numbers of the refreshes that write for one account grow, and no refresh ends or replaces the flight
of another one. -/
theorem writes_follow_invalidation {now : Moment} {recentLimit maxEntries : Nat}
    {deadline ttl : Span} {reports : Nat → FetchKind → String}
    (trace : Trace step? (new now recentLimit deadline reports (.new ttl maxEntries)) moves state) :
    (∀ subject entry, (subject, entry) ∈ state.stores →
      ∃ later id, StartedBefore later moves subject id ∧
        ∃ writer ∈ later, Writes writer subject id entry) ∧
    (moves.Pairwise fun earlier later => ∀ subject id, earlier.action = .invalidate subject →
      Underway earlier.before subject id → later.action.actor? = some id →
      later.after.snapshots = later.before.snapshots ∧
        ∀ other entry, ¬Writes later other id entry) ∧
    (moves.Pairwise fun earlier later => ∀ subject first second entry other,
      Writes earlier subject first entry → Writes later subject second other → first < second) ∧
    (∀ move ∈ moves, ∀ subject id other, move.before.flight? subject = some id →
      move.action.actor? = some other → other ≠ id → move.after.flight? subject = some id) := by
  have orderly : Orderly (new now recentLimit deadline reports (.new ttl maxEntries)) :=
    .new _ _ _ _ _
  refine ⟨?_, no_write_after_invalidate orderly trace, writes_increase orderly trace, ?_⟩
  · intro subject entry stored
    exact startedBefore_of_stored orderly rfl rfl trace stored
  · intro move member subject id other flying acts different
    obtain ⟨kept, changed⟩ := orderly.of_move trace member
    exact changed.flight?_eq kept flying acts different

/-- When an account is invalidated after all fetches of its refresh were answered, what is
remembered in the end is what the refresh that was started after that has written. -/
theorem writes_follow_invalidation_of_restart :
    ∃ moves state, Trace step? (new 0 2 ⟨8000000000, by decide⟩ (fun _ _ => "")
        (.new ⟨300000000000, by decide⟩ 10)) moves state ∧
      ∃ entry, (⟨7⟩, entry) ∈ state.stores ∧ ∃ later id, StartedBefore later moves ⟨7⟩ id ∧
        ∃ writer ∈ later, Writes writer ⟨7⟩ id entry := by
  obtain ⟨moves, state, trace, checked⟩ := Trace.exists_of_run? step?
    (new 0 2 ⟨8000000000, by decide⟩ (fun _ _ => "") (.new ⟨300000000000, by decide⟩ 10))
    [.snapshot ⟨7⟩, .begin 1, .call 1 .statistics, .call 1 .listings, .call 1 .activity,
      .endStatistics 1 (.answered .zero), .endListings 1 (.answered []),
      .endActivity 1 (.answered []), .invalidate ⟨7⟩, .snapshot ⟨7⟩, .conclude 1, .begin 2,
      .call 2 .statistics, .call 2 .listings, .call 2 .activity,
      .endStatistics 2 (.answered .zero), .endListings 2 (.answered []),
      .endActivity 2 (.answered []), .conclude 2]
    (fun _ state => (state.stored? ⟨7⟩).isSome) (by decide +kernel)
  obtain ⟨entry, found⟩ := Option.isSome_iff_exists.mp checked
  have stored : (⟨7⟩, entry) ∈ state.stores := ExpiringMap.mem_entries_of_found found
  obtain ⟨written, -⟩ := writes_follow_invalidation trace
  exact ⟨moves, state, trace, entry, stored, written ⟨7⟩ entry stored⟩

end Aggregation

end UserDashboard.Dashboard
