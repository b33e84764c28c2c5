/-
This file proves that an account has one refresh in flight at most, and that none is lost.

Every flight is that of a refresh that still goes on, as long as the clock can tell until when a
dashboard would be remembered: a refresh ends its flight whenever it ends, and one that was
superseded has no flight left to end. So the flight table says for every account which refresh goes
on without having been cancelled, if there is one, and there are never two. Reading, looking up and
asking for a refresh only ever add one for an account that has none.
-/

import UserDashboard.Proofs.Dashboard.Calls

namespace UserDashboard.Dashboard

open Catalog Time

/-- Whether a refresh is one of an account, goes on, and was not cancelled. -/
def Refresh.isFlying (refresh : Refresh) (subject : SubjectId) : Bool :=
  refresh.subject = subject ∧ refresh.isRunning ∧ refresh.cancelled = false

/-- Whether a caller reads a dashboard, looks it up, or asks for a refresh. -/
def Aggregation.Action.reads : Aggregation.Action → Bool
  | .snapshot _ | .cached _ | .schedule _ => true
  | _ => false

namespace Aggregation

variable {start state after : Aggregation} {action : Action} {events : List Event}
  {moves : List Move}

/-- The numbers of the refreshes of an account that go on and were not cancelled. -/
def flying (state : Aggregation) (subject : SubjectId) : List Nat :=
  (state.refreshes.filter (·.isFlying subject)).map Refresh.id

/-! ### Flights of refreshes that go on -/

/-- The refresh of a number goes on. -/
def GoesOn (state : Aggregation) (id : Nat) : Prop :=
  ∃ refresh ∈ state.refreshes, refresh.id = id ∧ refresh.isRunning

theorem GoesOn.tidy {id : Nat} (goesOn : state.GoesOn id) : state.tidy.GoesOn id := by
  obtain ⟨refresh, present, number, running⟩ := goesOn
  refine ⟨refresh, mem_tidy.mpr ⟨present, ?_⟩, number, running⟩
  obtain ⟨_, _, _, stage⟩ := refresh
  cases stage with
  | scheduled => rfl
  | fetching run => rfl
  | lingering run => cases running

theorem GoesOn.modify {id : Nat} (goesOn : state.GoesOn id) {acting : Nat}
    {change : Refresh → Refresh} (identity : ∀ refresh, (change refresh).id = refresh.id)
    (keeps : id = acting → ∀ refresh, refresh.isRunning → (change refresh).isRunning) :
    (state.modify acting change).GoesOn id := by
  obtain ⟨refresh, present, rfl, running⟩ := goesOn
  refine ⟨_, mem_modify.mpr ⟨refresh, present, rfl⟩, ?_⟩
  by_cases same : refresh.id = acting
  · rw [if_pos same]
    exact ⟨identity refresh, keeps same refresh running⟩
  · rw [if_neg same]
    exact ⟨rfl, running⟩

theorem GoesOn.retire {id : Nat} (goesOn : state.GoesOn id) {other : Nat} (different : id ≠ other)
    (run : Run) (cancel : Bool) : (state.retire other run cancel).GoesOn id := by
  refine GoesOn.tidy ?_
  exact goesOn.modify (fun _ => rfl) (fun same => absurd same different)

/-- Every flight is that of a refresh that goes on. -/
def Manned (state : Aggregation) : Prop :=
  ∀ flight ∈ state.flights, state.GoesOn flight.2

/-- A refresh in flight that could write its dashboard ends without, because the clock cannot tell
until when the dashboard would be remembered. -/
structure Strands (state : Aggregation) (action : Action) (id : Nat) : Prop where
  acts : action = .conclude id
  ready : ∃ refresh run snapshot, state.refresh? id = some refresh ∧ refresh.id = id ∧
    refresh.stage = .fetching run ∧ run.result? (state.reports id) = some (.ok snapshot) ∧
    state.flight? refresh.subject = some id ∧ refresh.cancelled = false
  untold : later? state.now state.ttl = none

/-- A flight that goes on is that of a refresh that goes on, unless its refresh is stranded. -/
theorem Change.goesOn_or_strands (changed : Change state action events after)
    (orderly : Orderly state) {flight : SubjectId × Nat} (taken : flight ∈ after.flights)
    (manned : flight ∈ state.flights → state.GoesOn flight.2) :
    after.GoesOn flight.2 ∨ Strands state action flight.2 := by
  cases changed with
  | quiet => exact Or.inl (manned taken)
  | declined => exact Or.inl (manned taken)
  | scheduled =>
    left
    rcases List.mem_append.mp taken with old | added
    · obtain ⟨refresh, present, goesOn⟩ := manned old
      exact ⟨refresh, List.mem_append_left _ present, goesOn⟩
    · rw [List.mem_singleton.mp added]
      exact ⟨_, List.mem_append_right _ List.mem_cons_self, rfl, rfl⟩
  | @invalidated subject =>
    left
    cases found : state.flight? subject with
    | none =>
      rw [invalidate_of_none found] at taken ⊢
      exact manned taken
    | some id =>
      rw [invalidate_of_some found] at taken ⊢
      exact (manned (mem_release.mp taken).1).modify (fun _ => rfl) (fun _ _ running => running)
  | begun => exact Or.inl ((manned taken).modify (fun _ => rfl) (fun _ _ _ => rfl))
  | @fetched _ _ refresh run change found begun fetching led =>
    left
    have moved : (state.modify refresh.id (·.withRun change)).GoesOn flight.2 := by
      refine GoesOn.modify (manned ?_) (fun _ => rfl)
        (fun _ other running => (Orderly.isRunning_withRun other change).trans running)
      rcases led with rfl | rfl <;> exact taken
    rcases led with rfl | rfl
    · exact moved
    · exact moved.tidy
  | committed commits =>
    have flew := manned (mem_release.mp taken).1
    exact Or.inl (GoesOn.retire flew (orderly.number_ne_of_released commits.flying taken) _ _)
  | @stranded refresh run snapshot found fetching assembled flying current untold =>
    by_cases same : flight.2 = refresh.id
    · rw [same]
      exact Or.inr ⟨rfl, ⟨refresh, run, snapshot, found, rfl, fetching, assembled, flying, current⟩,
        untold⟩
    · exact Or.inl ((manned taken).retire same _ _)
  | @superseded refresh run snapshot found fetching assembled lost =>
    have present := (mem_refreshes_of_refresh? found).1
    refine Or.inl ((manned taken).retire (fun same => lost ?_) _ _)
    exact ⟨orderly.flight?_of_number taken present same.symm,
      (orderly.owned flight taken refresh present same.symm).2⟩
  | @givenUp _ refresh run _ cancel found =>
    have different : flight.2 ≠ refresh.id :=
      orderly.number_ne_of_releaseOwn (mem_refreshes_of_refresh? found).1 taken
    obtain ⟨flights, kept, same⟩ := releaseOwn_eq state refresh
    rw [same] at taken ⊢
    have flew : { state with flights }.GoesOn flight.2 := manned (kept.subset taken)
    exact Or.inl (flew.retire different run cancel)

/-- Every change keeps flights to refreshes that go on if the clock can tell until when a dashboard
would be remembered. -/
theorem Manned.change (manned : Manned state) (orderly : Orderly state)
    (changed : Change state action events after) (told : (later? state.now state.ttl).isSome) :
    Manned after := by
  intro flight taken
  rcases changed.goesOn_or_strands orderly taken (manned flight) with goesOn | strands
  · exact goesOn
  · rw [strands.untold] at told
    cases told

/-- Every flight of a state that was come to is that of a refresh that goes on. -/
theorem manned_of_trace (orderly : Orderly start) (manned : Manned start)
    (trace : Trace step? start moves state) (told : (later? state.now state.ttl).isSome) :
    Manned state := by
  induction trace with
  | nil => exact manned
  | @snoc moves before after action events trace taken inductionHypothesis =>
    have changed := change_of_step taken
    have earlier : (later? before.now before.ttl).isSome := by
      rw [changed.onward.ttl] at told
      exact later?_isSome_of_le changed.onward.time told
    exact (inductionHypothesis earlier).change (orderly.of_trace trace) changed earlier

/-! ### One refresh for each account -/

theorem eq_singleton_of_nodup {α : Type} {members : List α} {member : α} (distinct : members.Nodup)
    (present : member ∈ members) (only : ∀ other ∈ members, other = member) :
    members = [member] := by
  cases members with
  | nil => cases present
  | cons first rest =>
    rw [List.nodup_cons] at distinct
    obtain ⟨apart, -⟩ := distinct
    have head : first = member := only first List.mem_cons_self
    cases rest with
    | nil => rw [head]
    | cons second rest =>
      have next : second = member := only second (List.mem_cons_of_mem _ List.mem_cons_self)
      rw [head, next] at apart
      exact absurd List.mem_cons_self apart

theorem mem_flying {subject : SubjectId} {id : Nat} :
    id ∈ state.flying subject ↔
      ∃ refresh ∈ state.refreshes, refresh.isFlying subject ∧ refresh.id = id := by
  simp only [flying, List.mem_map, List.mem_filter, and_assoc]

/-- A refresh that goes on and was not cancelled is the one in flight for its account. -/
theorem flight?_of_mem_flying (orderly : Orderly state) {subject : SubjectId} {id : Nat}
    (flies : id ∈ state.flying subject) : state.flight? subject = some id := by
  obtain ⟨refresh, present, active, rfl⟩ := mem_flying.mp flies
  simp only [Refresh.isFlying, decide_eq_true_eq] at active
  obtain ⟨rfl, running, current⟩ := active
  exact orderly.flight?_eq_some_iff.mpr (orderly.held refresh present running current)

/-- The refresh in flight for an account goes on and was not cancelled. -/
theorem mem_flying_of_flight? (orderly : Orderly state) (manned : Manned state)
    {subject : SubjectId} {id : Nat} (flight : state.flight? subject = some id) :
    id ∈ state.flying subject := by
  have taken : (subject, id) ∈ state.flights := mem_flights_of_flight? flight
  obtain ⟨refresh, present, number, running⟩ := manned _ taken
  obtain ⟨account, current⟩ := orderly.owned _ taken refresh present number
  refine mem_flying.mpr ⟨refresh, present, ?_, number⟩
  simp only [Refresh.isFlying, decide_eq_true_eq]
  exact ⟨account, running, current⟩

/-- The flight table tells the refreshes that go on and were not cancelled: one for an account that
is in the table, the one of its number, and none for an account that is not. -/
theorem flying_eq (orderly : Orderly state) (manned : Manned state) (subject : SubjectId) :
    state.flying subject = (state.flight? subject).toList := by
  have distinct : (state.flying subject).Nodup :=
    orderly.distinct.sublist (List.filter_sublist.map Refresh.id)
  cases flight : state.flight? subject with
  | none =>
    refine List.eq_nil_iff_forall_not_mem.mpr fun id flies => ?_
    rw [flight?_of_mem_flying orderly flies] at flight
    cases flight
  | some id =>
    refine eq_singleton_of_nodup distinct (mem_flying_of_flight? orderly manned flight) ?_
    intro other flies
    rw [flight?_of_mem_flying orderly flies] at flight
    exact Option.some.inj flight

/-! ### Callers -/

/-- A caller adds at most a refresh of an account that has none in flight. -/
theorem Change.of_reads (changed : Change state action events after) (reads : action.reads) :
    after.flights = state.flights ∧ after.refreshes = state.refreshes ∨
      ∃ subject, state.flight? subject = none ∧
        after.flights = state.flights ++ [(subject, state.nextId)] ∧
        after.refreshes = state.refreshes ++ [⟨state.nextId, subject, false, .scheduled⟩] := by
  cases changed with
  | quiet => exact Or.inl ⟨rfl, rfl⟩
  | declined => exact Or.inl ⟨rfl, rfl⟩
  | scheduled wanted free => exact Or.inr ⟨_, free, rfl, rfl⟩
  | invalidated => cases reads
  | begun => cases reads
  | fetched found begun fetching => cases fetching <;> cases reads
  | committed => cases reads
  | stranded => cases reads
  | superseded => cases reads
  | givenUp found fetching reason => cases reason <;> cases reads

/-- However often callers read, look up and ask, the refreshes that there are stay as they are, and
an account with one that goes on gets no other. -/
theorem reads_keep {calls : List Move} {later : Aggregation} (orderly : Orderly state)
    (trace : Trace step? state calls later) (reads : ∀ call ∈ calls, call.action.reads) :
    state.refreshes <+: later.refreshes ∧
      ∀ subject id, state.flying subject = [id] → later.flying subject = [id] := by
  induction trace with
  | nil => exact ⟨List.prefix_refl _, fun subject id flew => flew⟩
  | @snoc calls before after action events trace taken inductionHypothesis =>
    obtain ⟨kept, flies⟩ := inductionHypothesis fun call member =>
      reads call (List.mem_append_left _ member)
    have last : action.reads :=
      reads _ (List.mem_append_right _ List.mem_cons_self)
    rcases (change_of_step taken).of_reads last with ⟨-, same⟩ | ⟨other, free, -, added⟩
    · refine ⟨same ▸ kept, fun subject id flew => ?_⟩
      rw [flying, same]
      exact flies subject id flew
    · refine ⟨added ▸ kept.trans (List.prefix_append _ _), fun subject id flew => ?_⟩
      have flight : before.flight? subject = some id :=
        flight?_of_mem_flying (orderly.of_trace trace)
          (by rw [flies subject id flew]; exact List.mem_cons_self)
      have different : other ≠ subject := by
        rintro rfl
        rw [free] at flight
        cases flight
      have grounded :
          Refresh.isFlying ⟨before.nextId, other, false, .scheduled⟩ subject = false := by
        simp [Refresh.isFlying, different]
      rw [flying, added, List.filter_append, List.filter_cons, grounded]
      simpa [flying] using flies subject id flew

/-- After scheduling, the account has a refresh in flight: the one it had, or a new one. -/
theorem flight?_schedule (orderly : Orderly state) (subject : SubjectId) :
    (state.schedule subject).2.flight? subject =
      some ((state.flight? subject).getD state.nextId) := by
  cases flight : state.flight? subject with
  | some id =>
    rw [schedule_of_some flight]
    exact flight
  | none =>
    rw [schedule_of_none flight]
    exact (orderly.schedule flight).flight?_eq_some_iff.mpr
      (List.mem_append_right _ List.mem_cons_self)

/-- Whoever finds no dashboard leaves one refresh of the account that goes on: the one that did, or
a new one. -/
theorem flying_snapshot (orderly : Orderly state) (manned : Manned state)
    (told : (later? state.now state.ttl).isSome) {subject : SubjectId}
    (miss : (state.cached subject).1 = none) :
    ∃ id, (state.snapshot subject).2.2.flying subject = [id] ∧
      (state.flying subject = [id] ∨ state.flying subject = [] ∧ id = state.nextId) := by
  have changed : Change state (.snapshot subject) [] (state.snapshot subject).2.2 :=
    change_of_snapshot subject
  have looked : Orderly (state.cached subject).2 :=
    orderly.of_same rfl rfl (Nat.le_refl _)
  refine ⟨(state.flight? subject).getD state.nextId, ?_, ?_⟩
  · rw [flying_eq (orderly.change changed) (manned.change orderly changed told),
      snapshot_of_none miss, flight?_schedule looked]
    rfl
  · rw [flying_eq orderly manned]
    cases state.flight? subject with
    | some id => exact Or.inl rfl
    | none => exact Or.inr ⟨rfl, rfl⟩

/-! ### The whole run -/

/-- An account has one refresh in flight at most, and none is lost. In every state that the
dashboards can come to, while the clock can tell until when a dashboard would be remembered, the
flight table has an account exactly when one of its refreshes goes on and was not cancelled, there
is one such refresh only, and the table has its number. Whoever finds no dashboard leaves one such
refresh, the one that there was or else a new one. However often callers read, look up and ask, the
refreshes that there are stay as they are and are not joined by others of their accounts. No refresh
asks for statistics more than once and for listings more than twice. -/
theorem single_flight {now : Moment} {recentLimit maxEntries : Nat} {deadline ttl : Span}
    {reports : Nat → FetchKind → String}
    (trace : Trace step? (new now recentLimit deadline reports (.new ttl maxEntries)) moves state)
    (told : (later? state.now ttl).isSome) :
    (∀ subject, state.flying subject = (state.flight? subject).toList) ∧
    (∀ subject, (state.cached subject).1 = none →
      ∃ id, (state.snapshot subject).2.2.flying subject = [id] ∧
        (state.flying subject = [id] ∨ state.flying subject = [] ∧ id = state.nextId)) ∧
    (∀ calls later, Trace step? state calls later → (∀ call ∈ calls, call.action.reads) →
      state.refreshes <+: later.refreshes ∧
        ∀ subject id, state.flying subject = [id] → later.flying subject = [id]) ∧
    (∀ id, moves.countP (·.action.asks id .statistics) ≤ 1 ∧
      moves.countP (·.action.asks id .listings) ≤ 2) := by
  have first : Orderly (new now recentLimit deadline reports (.new ttl maxEntries)) :=
    .new _ _ _ _ _
  have orderly : Orderly state := first.of_trace trace
  have remembered : state.ttl = ttl := (onward_of_trace trace).ttl
  have manned : Manned state := by
    refine manned_of_trace first (fun flight taken => ?_) trace (by rw [remembered]; exact told)
    cases taken
  refine ⟨flying_eq orderly manned, ?_, ?_, ?_⟩
  · intro subject miss
    exact flying_snapshot orderly manned (by rw [remembered]; exact told) miss
  · intro calls later reading reads
    exact reads_keep orderly reading reads
  · intro id
    exact ⟨asks_statistics_countP_le first trace id, asks_listings_countP_le first trace id⟩

/-- An account that is invalidated while its refresh waits for the catalog, and then read again, has
the second refresh in flight, and another account its own. -/
theorem single_flight_of_restart :
    ∃ moves state, Trace step? (new 0 2 ⟨8000000000, by decide⟩ (fun _ _ => "")
        (.new ⟨300000000000, by decide⟩ 10)) moves state ∧
      (later? state.now ⟨300000000000, by decide⟩).isSome ∧
      state.flying ⟨7⟩ = [3] ∧ state.flying ⟨8⟩ = [2] ∧
      moves.countP (·.action.asks 1 .statistics) ≤ 1 := by
  obtain ⟨moves, state, trace, checked⟩ := Trace.exists_of_run? step?
    (new 0 2 ⟨8000000000, by decide⟩ (fun _ _ => "") (.new ⟨300000000000, by decide⟩ 10))
    [.snapshot ⟨7⟩, .begin 1, .call 1 .statistics, .schedule ⟨8⟩, .invalidate ⟨7⟩, .snapshot ⟨7⟩]
    (fun _ state => (later? state.now ⟨300000000000, by decide⟩).isSome ∧
      state.flight? ⟨7⟩ = some 3 ∧ state.flight? ⟨8⟩ = some 2) (by decide +kernel)
  obtain ⟨told, first, second⟩ := of_decide_eq_true checked
  obtain ⟨table, -, -, calls⟩ := single_flight trace told
  refine ⟨moves, state, trace, told, ?_, ?_, (calls 1).1⟩
  · rw [table, first]
    rfl
  · rw [table, second]
    rfl

end Aggregation

end UserDashboard.Dashboard
