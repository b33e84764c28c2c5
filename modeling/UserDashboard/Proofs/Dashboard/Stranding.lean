/-
This file tells the flights of refreshes that go on from those that are left behind.

A refresh that could write its dashboard breaks off when the clock cannot tell until when the
dashboard would be remembered. Nobody ends its flight then, and the account stays in the flight
table until it is invalidated. There is no other way to lose a refresh: in every state that the
dashboards can come to, a flight is that of a refresh that goes on exactly when its refresh was not
left behind like this.
-/

import UserDashboard.Proofs.Dashboard.Flight

namespace UserDashboard.Dashboard

open Time

namespace Aggregation

variable {start state after : Aggregation} {action : Action} {events : List Event}
  {moves : List Move} {id : Nat}

theorem Progress.isRunning {old new : Refresh} (progress : Progress state action old new)
    (running : new.isRunning) : old.isRunning := by
  cases progress with
  | rests => exact running
  | begins acts scheduled => simp only [Refresh.isRunning, scheduled]
  | moves begun fetching => exact (Orderly.isRunning_withRun old _).symm.trans running
  | ends => cases running

/-- Nobody is revived. -/
theorem GoesOn.of_change (goesOn : after.GoesOn id) (orderly : Orderly state)
    (changed : Change state action events after) (given : id < state.nextId) : state.GoesOn id := by
  obtain ⟨refresh, present, rfl, running⟩ := goesOn
  rcases changed.progress orderly present with ⟨old, was, progress⟩ | ⟨subject, -, -, rfl⟩
  · exact ⟨old, was, progress.id_eq.symm, progress.isRunning running⟩
  · exact absurd given (Nat.lt_irrefl _)

/-- A refresh that has ended does not go on. -/
theorem not_goesOn_retire (orderly : Orderly state) {refresh : Refresh} {run : Run} {cancel : Bool}
    (found : state.refresh? refresh.id = some refresh) :
    ¬(state.retire refresh.id run cancel).GoesOn refresh.id := by
  rintro ⟨other, present, number, running⟩
  rcases mem_modify_of_found orderly found (mem_tidy.mp present).1 with rfl | ⟨-, different⟩
  · cases running
  · exact different number

/-- A refresh that is left behind makes nothing known, does not go on, and stays in flight. -/
theorem Strands.left_behind (strands : Strands state action id) (orderly : Orderly state)
    (changed : Change state action events after) :
    events = [] ∧ ¬after.GoesOn id ∧ after.flights = state.flights := by
  obtain ⟨rfl, ready, untold⟩ := strands
  obtain ⟨refresh, run, snapshot, found, rfl, fetching, assembled, flying, current⟩ := ready
  have same : ∀ {other : Refresh} {others : Run}, refresh.id = other.id →
      state.refresh? other.id = some other → other.stage = .fetching others →
      other = refresh ∧ others = run := by
    intro other others number foundOther fetchingOther
    rw [← number, found] at foundOther
    obtain rfl := Option.some.inj foundOther
    exact ⟨rfl, Stage.fetching.inj (fetchingOther.symm.trans fetching)⟩
  generalize acts : Action.conclude refresh.id = action at changed
  cases changed with
  | quiet nobody => rw [← acts] at nobody; cases nobody
  | declined wanted => rw [← acts] at wanted; cases wanted
  | scheduled wanted => rw [← acts] at wanted; cases wanted
  | invalidated | begun => cases acts
  | fetched _ _ fetched => rw [← acts] at fetched; cases fetched
  | committed commits => exact nomatch untold.symm.trans commits.told
  | stranded foundOther fetchingOther =>
    obtain ⟨rfl, rfl⟩ := same (Action.conclude.inj acts) foundOther fetchingOther
    exact ⟨rfl, not_goesOn_retire orderly found, rfl⟩
  | superseded foundOther fetchingOther _ lost =>
    obtain ⟨rfl, rfl⟩ := same (Action.conclude.inj acts) foundOther fetchingOther
    exact absurd ⟨flying, current⟩ lost
  | givenUp foundOther fetchingOther reason =>
    cases reason with
    | failed came =>
      obtain ⟨rfl, rfl⟩ := same (Action.conclude.inj acts) foundOther fetchingOther
      exact nomatch assembled.symm.trans came
    | expired => cases acts

theorem Strands.given (strands : Strands state action id) (orderly : Orderly state) :
    id < state.nextId := by
  obtain ⟨refresh, -, -, found, rfl, -⟩ := strands.ready
  exact orderly.numbered refresh (mem_refreshes_of_refresh? found).1

/-- In some step of a run a refresh was left behind. -/
def Stranded (moves : List Move) (id : Nat) : Prop :=
  ∃ move ∈ moves, Strands move.before move.action id

/-- A refresh that was left behind does not go on. -/
theorem not_goesOn_of_stranded (orderly : Orderly start) (trace : Trace step? start moves state)
    (stranded : Stranded moves id) : id < state.nextId ∧ ¬state.GoesOn id := by
  obtain ⟨move, member, strands⟩ := stranded
  refine (trace.pairwise (fun move state => ∀ id, Strands move.before move.action id →
    id < state.nextId ∧ ¬state.GoesOn id) ?_ ?_).2 move member id strands
  · intro move member id strands
    obtain ⟨kept, changed⟩ := orderly.of_move trace member
    exact ⟨Nat.lt_of_lt_of_le (strands.given kept) changed.onward.numbers,
      (strands.left_behind kept changed).2.1⟩
  · intro earlier move member follows id strands
    obtain ⟨given, ended⟩ := follows id strands
    obtain ⟨kept, changed⟩ := orderly.of_move trace member
    exact ⟨Nat.lt_of_lt_of_le given changed.onward.numbers,
      fun goesOn => ended (goesOn.of_change kept changed given)⟩

/-- The flights of refreshes that go on are those of refreshes that were not left behind. -/
theorem goesOn_iff_not_stranded (orderly : Orderly start) (manned : Manned start)
    (trace : Trace step? start moves state) {flight : SubjectId × Nat}
    (taken : flight ∈ state.flights) : state.GoesOn flight.2 ↔ ¬Stranded moves flight.2 := by
  refine ⟨fun goesOn stranded => (not_goesOn_of_stranded orderly trace stranded).2 goesOn, ?_⟩
  induction trace generalizing flight with
  | nil => exact fun _ => manned flight taken
  | @snoc moves before after action events trace last inductionHypothesis =>
    intro spared
    have early : flight ∈ before.flights → before.GoesOn flight.2 := fun old =>
      inductionHypothesis old fun ⟨move, member, strands⟩ =>
        spared ⟨move, List.mem_append_left _ member, strands⟩
    rcases (change_of_step last).goesOn_or_strands (orderly.of_trace trace) taken early with
      goesOn | strands
    · exact goesOn
    · exact absurd ⟨_, List.mem_append_right _ List.mem_cons_self, strands⟩ spared

end Aggregation

end UserDashboard.Dashboard
