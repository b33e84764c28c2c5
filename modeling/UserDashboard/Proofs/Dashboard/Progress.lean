/-
This file says what a step does to each part of the state.

A refresh that is there after a step was there before, with its number and its account, or was just
scheduled. It stays as it is unless it acts, but for being cancelled; when it acts it begins, one of
its fetches moves, or it ends. A flight is only ever added for an account without one and under a
new number, and a dashboard is only ever added by a refresh in flight that ends well. Time goes on.
-/

import UserDashboard.Proofs.Dashboard.Order

namespace UserDashboard.Dashboard

open Cache Catalog Time

namespace Aggregation

variable {state after : Aggregation} {action : Action} {events : List Event}

/-! ### Refreshes -/

/-- What a step does to a refresh. -/
inductive Progress (state : Aggregation) (action : Action) (old : Refresh) : Refresh → Prop where
  /-- It does not act, but may be cancelled when its account is invalidated. -/
  | rests {cancelled : Bool} (others : action.actor? ≠ some old.id)
      (kept : old.cancelled → cancelled)
      (cause : cancelled → old.cancelled ∨ action = .invalidate old.subject) :
      Progress state action old { old with cancelled }
  /-- It begins. -/
  | begins (acts : action = .begin old.id) (scheduled : old.stage = .scheduled) :
      Progress state action old { old with stage := .fetching (.start state.now) }
  /-- One of its fetches moves. -/
  | moves {run : Run} {change : Run → Run} (begun : old.run? = some run)
      (fetching : Fetching state old run action change) :
      Progress state action old (old.withRun change)
  /-- It ends, and may be cancelled with that. -/
  | ends {run : Run} {cancelled : Bool} (acts : action = .conclude old.id ∨ action = .expire old.id)
      (fetching : old.stage = .fetching run) (kept : old.cancelled → cancelled) :
      Progress state action old { old with cancelled, stage := .lingering run }

namespace Progress

variable {old new : Refresh}

/-- Whoever does not act may stay as it is. -/
theorem rest (others : action.actor? ≠ some old.id) : Progress state action old old :=
  show Progress state action old { old with cancelled := old.cancelled } from
    .rests others id Or.inl

theorem id_eq (progress : Progress state action old new) : new.id = old.id := by
  cases progress <;> rfl

theorem subject_eq (progress : Progress state action old new) : new.subject = old.subject := by
  cases progress <;> rfl

/-- Nobody is revived. -/
theorem cancelled (progress : Progress state action old new) (was : old.cancelled) :
    new.cancelled := by
  cases progress with
  | rests others kept => exact kept was
  | begins => exact was
  | moves => exact was
  | ends acts fetching kept => exact kept was

end Progress

theorem run?_withRun {refresh : Refresh} {run : Run} (change : Run → Run)
    (begun : refresh.run? = some run) : (refresh.withRun change).run? = some (change run) := by
  obtain ⟨number, subject, cancelled, stage⟩ := refresh
  cases stage with
  | scheduled => cases begun
  | fetching other =>
    rw [← Option.some.inj begun]
    rfl
  | lingering other =>
    rw [← Option.some.inj begun]
    rfl

/-- When one refresh is changed, the others stay. -/
theorem mem_modify_of_found (orderly : Orderly state) {refresh new : Refresh}
    {change : Refresh → Refresh} (found : state.refresh? refresh.id = some refresh)
    (member : new ∈ (state.modify refresh.id change).refreshes) :
    new = change refresh ∨ new ∈ state.refreshes ∧ new.id ≠ refresh.id := by
  obtain ⟨old, present, rfl⟩ := mem_modify.mp member
  by_cases same : old.id = refresh.id
  · rw [if_pos same, orderly.eq_of_id present (mem_refreshes_of_refresh? found).1 same]
    exact Or.inl rfl
  · rw [if_neg same]
    exact Or.inr ⟨present, same⟩

/-- Where a refresh comes from that is there after one was changed by a step of its own. -/
theorem progress_of_modify (orderly : Orderly state) {refresh new : Refresh}
    {change : Refresh → Refresh} {changed : Refresh}
    (found : state.refresh? refresh.id = some refresh)
    (acts : action.actor? = some refresh.id) (made : change refresh = changed)
    (progress : Progress state action refresh changed)
    (member : new ∈ (state.modify refresh.id change).refreshes) :
    ∃ old ∈ state.refreshes, Progress state action old new := by
  rcases mem_modify_of_found orderly found member with rfl | ⟨present, different⟩
  · exact ⟨refresh, (mem_refreshes_of_refresh? found).1, made ▸ progress⟩
  · refine ⟨new, present, Progress.rest ?_⟩
    rw [acts]
    exact fun same => different (Option.some.inj same).symm

theorem Fetching.actor?_eq {refresh : Refresh} {run : Run} {change : Run → Run}
    (fetching : Fetching state refresh run action change) : action.actor? = some refresh.id := by
  cases fetching <;> rfl

/-- Where a refresh comes from that is there after one has ended. -/
theorem progress_of_retire (orderly : Orderly state) {other : Aggregation} {refresh new : Refresh}
    {run : Run} {cancel : Bool} (refreshes : other.refreshes = state.refreshes)
    (found : state.refresh? refresh.id = some refresh) (fetching : refresh.stage = .fetching run)
    (acts : action = .conclude refresh.id ∨ action = .expire refresh.id)
    (member : new ∈ (other.retire refresh.id run cancel).refreshes) :
    ∃ old ∈ state.refreshes, Progress state action old new := by
  have actor : action.actor? = some refresh.id := by
    rcases acts with rfl | rfl <;> rfl
  have ending : Progress state action refresh { refresh with
      cancelled := refresh.cancelled || cancel, stage := .lingering run } :=
    .ends acts fetching fun was => by rw [was, Bool.true_or]
  have present : new ∈ (state.modify refresh.id fun refresh => { refresh with
      cancelled := refresh.cancelled || cancel, stage := .lingering run }).refreshes := by
    have kept := (mem_tidy.mp member).1
    simp only [modify, refreshes] at kept
    exact kept
  exact progress_of_modify orderly found actor rfl ending present

/-- A refresh that is there after a step was there before or was scheduled. -/
theorem Change.progress (changed : Change state action events after) (orderly : Orderly state)
    {new : Refresh} (member : new ∈ after.refreshes) :
    (∃ old ∈ state.refreshes, Progress state action old new) ∨
      ∃ subject, action.wants? = some subject ∧ state.flight? subject = none ∧
        new = ⟨state.nextId, subject, false, .scheduled⟩ := by
  cases changed with
  | quiet nobody =>
    exact Or.inl ⟨new, member, .rest (by rw [nobody]; exact nofun)⟩
  | declined wanted =>
    exact Or.inl ⟨new, member, .rest (by rw [actor?_of_wants? wanted]; exact nofun)⟩
  | scheduled wanted free =>
    rcases List.mem_append.mp member with old | added
    · exact Or.inl ⟨new, old, .rest (by rw [actor?_of_wants? wanted]; exact nofun)⟩
    · exact Or.inr ⟨_, wanted, free, List.mem_singleton.mp added⟩
  | @invalidated subject =>
    left
    cases flight : state.flight? subject with
    | none =>
      rw [invalidate_of_none flight] at member
      exact ⟨new, member, .rest nofun⟩
    | some id =>
      rw [invalidate_of_some flight] at member
      obtain ⟨old, present, rfl⟩ := mem_modify.mp member
      refine ⟨old, present, ?_⟩
      split
      · rename_i same
        have taken := mem_flights_of_flight? flight
        have account := (orderly.owned _ taken old present same).1
        exact .rests nofun (fun _ => rfl) (fun _ => Or.inr (congrArg _ account.symm))
      · exact .rest nofun
  | begun found scheduled =>
    exact Or.inl (progress_of_modify orderly found rfl rfl (.begins rfl scheduled) member)
  | fetched found begun fetching led =>
    left
    have moved : Progress state action _ _ := .moves begun fetching
    rcases led with rfl | rfl
    · exact progress_of_modify orderly found fetching.actor?_eq rfl moved member
    · exact progress_of_modify orderly found fetching.actor?_eq rfl moved (mem_tidy.mp member).1
  | committed commits =>
    exact Or.inl (progress_of_retire orderly rfl commits.found commits.fetching (Or.inl rfl) member)
  | stranded found fetching =>
    exact Or.inl (progress_of_retire orderly rfl found fetching (Or.inl rfl) member)
  | superseded found fetching =>
    exact Or.inl (progress_of_retire orderly rfl found fetching (Or.inl rfl) member)
  | @givenUp _ refresh run _ _ found fetching reason =>
    obtain ⟨flights, -, same⟩ := releaseOwn_eq state refresh
    rw [same] at member
    exact Or.inl (progress_of_retire orderly rfl found fetching reason.acts member)

/-! ### Flights -/

/-- A flight that is there after a step was there before or belongs to the refresh scheduled. -/
theorem Change.flights (changed : Change state action events after) {flight : SubjectId × Nat}
    (member : flight ∈ after.flights) :
    flight ∈ state.flights ∨
      action.wants? = some flight.1 ∧ state.flight? flight.1 = none ∧ flight.2 = state.nextId := by
  cases changed with
  | quiet => exact Or.inl member
  | declined => exact Or.inl member
  | scheduled wanted free =>
    rcases List.mem_append.mp member with old | added
    · exact Or.inl old
    · rw [List.mem_singleton.mp added]
      exact Or.inr ⟨wanted, free, rfl⟩
  | @invalidated subject =>
    cases flight : state.flight? subject with
    | none =>
      rw [invalidate_of_none flight] at member
      exact Or.inl member
    | some id =>
      rw [invalidate_of_some flight] at member
      exact Or.inl (List.filter_sublist.subset member)
  | begun => exact Or.inl member
  | fetched found begun fetching led =>
    rcases led with rfl | rfl <;> exact Or.inl member
  | committed => exact Or.inl (List.filter_sublist.subset member)
  | stranded => exact Or.inl member
  | superseded => exact Or.inl member
  | @givenUp _ refresh =>
    obtain ⟨flights, kept, same⟩ := releaseOwn_eq state refresh
    rw [same] at member
    exact Or.inl (kept.subset member)

/-! ### Numbers and time -/

/-- Numbers are not given out again, time does not go back, and what was set up stays. -/
structure Onward (state after : Aggregation) : Prop where
  numbers : state.nextId ≤ after.nextId
  time : state.now ≤ after.now
  ttl : after.ttl = state.ttl
  limit : after.recentLimit = state.recentLimit

theorem Onward.refl (state : Aggregation) : Onward state state :=
  ⟨Nat.le_refl _, Int.le_refl _, rfl, rfl⟩

theorem Onward.trans {first second third : Aggregation} (before : Onward first second)
    (later : Onward second third) : Onward first third where
  numbers := Nat.le_trans before.numbers later.numbers
  time := Int.le_trans before.time later.time
  ttl := later.ttl.trans before.ttl
  limit := later.limit.trans before.limit

theorem Change.onward (changed : Change state action events after) : Onward state after := by
  have here : Onward state state := Onward.refl state
  cases changed with
  | quiet nobody tolerant later ttl => exact ⟨Nat.le_refl _, later, ttl, rfl⟩
  | declined wanted flying ttl => exact ⟨Nat.le_succ _, Int.le_refl _, ttl, rfl⟩
  | scheduled wanted free ttl => exact ⟨Nat.le_succ _, Int.le_refl _, ttl, rfl⟩
  | @invalidated subject =>
    cases flight : state.flight? subject with
    | none =>
      rw [invalidate_of_none flight]
      exact ⟨here.numbers, here.time, rfl, rfl⟩
    | some id =>
      rw [invalidate_of_some flight]
      exact ⟨here.numbers, here.time, rfl, rfl⟩
  | begun => exact ⟨here.numbers, here.time, rfl, rfl⟩
  | fetched found begun fetching led =>
    rcases led with rfl | rfl <;> exact ⟨here.numbers, here.time, rfl, rfl⟩
  | committed => exact ⟨here.numbers, here.time, ExpiringMap.ttl_store _ _ _, rfl⟩
  | stranded => exact ⟨here.numbers, here.time, rfl, rfl⟩
  | superseded => exact ⟨here.numbers, here.time, rfl, rfl⟩
  | @givenUp _ refresh =>
    obtain ⟨flights, -, same⟩ := releaseOwn_eq state refresh
    rw [same]
    exact ⟨here.numbers, here.time, rfl, rfl⟩

/-- Steps do not lead back. -/
theorem onward_of_trace {start : Aggregation} {moves : List Move}
    (trace : Trace step? start moves state) : Onward start state :=
  trace.invariant (Onward.refl start) fun taken before =>
    before.trans (change_of_step taken).onward

/-! ### Dashboards -/

/-- What is remembered after an account was invalidated is of other accounts. -/
theorem mem_stores_of_invalidate {subject : SubjectId} {stored : SubjectId × Entry Snapshot}
    (member : stored ∈ (state.invalidate subject).stores) :
    stored ∈ state.stores ∧ stored.1 ≠ subject := by
  have same : (state.invalidate subject).snapshots = (state.snapshots.invalidate subject).2 := by
    cases flight : state.flight? subject with
    | none => rw [invalidate_of_none flight]
    | some id => rw [invalidate_of_some flight]
  simp only [Aggregation.stores, same] at member
  exact ExpiringMap.mem_erase.mp member

/-- A dashboard that is remembered after a step was so before, or a refresh in flight wrote it. -/
theorem Change.stores (changed : Change state action events after)
    {stored : SubjectId × Entry Snapshot} (member : stored ∈ after.stores) :
    stored ∈ state.stores ∨ ∃ refresh run entry, Commits state refresh run entry ∧
      stored = (refresh.subject, entry) ∧ action = .conclude refresh.id ∧
      events = [.refreshed refresh.subject (state.elapsedSince run.startedAt)] ∧
      after = state.written refresh run entry := by
  cases changed with
  | quiet nobody tolerant later ttl kept => exact Or.inl (kept.subset member)
  | declined wanted flying ttl kept => exact Or.inl (kept.subset member)
  | scheduled wanted free ttl kept => exact Or.inl (kept.subset member)
  | invalidated => exact Or.inl (mem_stores_of_invalidate member).1
  | begun => exact Or.inl member
  | fetched found begun fetching led => rcases led with rfl | rfl <;> exact Or.inl member
  | @committed refresh run entry commits =>
    rcases ExpiringMap.mem_store member with new | old
    · exact Or.inr ⟨refresh, run, entry, commits, new, rfl, rfl, rfl⟩
    · exact Or.inl old
  | stranded => exact Or.inl member
  | superseded => exact Or.inl member
  | @givenUp _ refresh =>
    obtain ⟨flights, -, same⟩ := releaseOwn_eq state refresh
    rw [same] at member
    exact Or.inl member

end Aggregation

end UserDashboard.Dashboard
