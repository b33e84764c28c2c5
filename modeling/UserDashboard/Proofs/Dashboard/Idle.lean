/-
This file says when a runner does not ask its catalog.

Callers never do, nor does the clock. Only fetches call the catalog, and there are none without a
refresh: with no refreshes the tasks that are still woken do nothing in their turns. So it comes to
the same then whatever the catalog would have said.
-/

import UserDashboard.Proofs.Dashboard.Unison

namespace UserDashboard.Dashboard

open Aggregation Catalog Time

theorem Aggregation.step?_of_idle {state : Aggregation} {action : Action} {id : Nat}
    (idle : state.refreshes = []) (acts : action.actor? = some id) : state.step? action = none := by
  have absent : ∀ id, state.refresh? id = none := fun id => by
    rw [refresh?, idle, List.find?_nil]
  cases action <;> cases acts
  all_goals
    simp only [step?, begin?, call?, abandon?, endStatistics?, endListings?, endActivity?,
      conclude?, expire?, absent, Option.bind_none, Option.map_none]

namespace Runner

variable {runner : Runner} {id : Nat} {action : Aggregation.Action} {task : Task}

/-! ### What the catalog does not matter to -/

theorem wake_instruct (runner : Runner) (catalog : Scripted) (task : Task) :
    { runner with catalog }.wake task = { runner.wake task with catalog } := by
  unfold wake
  by_cases waiting : task ∈ runner.ready
  · rw [if_pos waiting, if_pos waiting]
  · rw [if_neg waiting, if_neg waiting]

theorem wakeAll_instruct (runner : Runner) (catalog : Scripted) (tasks : List Task) :
    tasks.foldl wake { runner with catalog } = { tasks.foldl wake runner with catalog } := by
  induction tasks generalizing runner with
  | nil => rfl
  | cons task rest inductionHypothesis =>
    rw [List.foldl_cons, List.foldl_cons, wake_instruct, inductionHypothesis]

theorem wakeWaiting_instruct (runner : Runner) (catalog : Scripted) (id : Nat)
    (subject : SubjectId) :
    { runner with catalog }.wakeWaiting id subject =
      { runner.wakeWaiting id subject with catalog } := by
  rw [wakeWaiting_eq, wakeWaiting_eq]
  exact wakeAll_instruct runner catalog (runner.waiting id subject)

theorem ring_instruct (runner : Runner) (catalog : Scripted) :
    { runner with catalog }.ring = { runner.ring with catalog } := by
  rw [ring_eq, ring_eq]
  exact wakeAll_instruct
    { runner with alarms := runner.alarms.filter fun alarm => runner.now < alarm.1 } catalog
    ((runner.alarms.filter fun alarm => alarm.1 ≤ runner.now).map Prod.snd)

theorem snapshot_instruct (runner : Runner) (catalog : Scripted) (subject : SubjectId) :
    ({ runner with catalog }.snapshot subject).2 =
      { (runner.snapshot subject).2 with catalog } := by
  rw [snapshot_snd, snapshot_snd]
  cases (runner.state.snapshot subject).2.1 with
  | none => rfl
  | some id => exact wake_instruct (runner.act (.snapshot subject)) catalog (.refresh id subject)

theorem schedule_instruct (runner : Runner) (catalog : Scripted) (subject : SubjectId) :
    ({ runner with catalog }.schedule subject).2 =
      { (runner.schedule subject).2 with catalog } := by
  rw [schedule_snd, schedule_snd]
  cases (runner.state.schedule subject).1 with
  | none => rfl
  | some id => exact wake_instruct (runner.act (.schedule subject)) catalog (.refresh id subject)

theorem invalidate_instruct (runner : Runner) (catalog : Scripted) (subject : SubjectId) :
    { runner with catalog }.invalidate subject = { runner.invalidate subject with catalog } := by
  unfold Runner.invalidate
  dsimp only
  cases runner.state.flight? subject with
  | none => rfl
  | some id => exact wakeWaiting_instruct (runner.act (.invalidate subject)) catalog id subject

/-! ### Runners without refreshes -/

/-- There are no refreshes, and no calls were made for them. -/
structure Idle (runner : Runner) : Prop where
  refreshes : runner.state.refreshes = []
  calls : runner.calls = []

theorem InHand.idle (inHand : runner.InHand) (refreshes : runner.state.refreshes = []) :
    runner.Idle := by
  refine ⟨refreshes, List.eq_nil_iff_forall_not_mem.mpr fun call made => ?_⟩
  obtain ⟨refresh, present, -⟩ := inHand.calling call made
  rw [refreshes] at present
  cases present

namespace Idle

theorem act? (idle : runner.Idle) (acts : action.actor? = some id) : runner.act? action = none := by
  rw [Runner.act?, step?_of_idle idle.refreshes acts]
  rfl

/-- Nobody has anything to do. -/
theorem turn (idle : runner.Idle) (task : Task) : runner.turn task = runner := by
  cases task with
  | refresh id subject =>
    have begins : runner.act? (.begin id) = none := idle.act? rfl
    have concludes : runner.act? (.conclude id) = none := idle.act? rfl
    have expires : runner.act? (.expire id) = none := idle.act? rfl
    show runner.turnOfRefresh id subject = runner
    simp only [turnOfRefresh, expire, begins, concludes, expires]
  | fetch id subject kind =>
    have abandons : runner.act? (.abandon id kind) = none := idle.act? rfl
    have called : runner.act? (.call id kind) = none := idle.act? rfl
    show runner.turnOfFetch id subject kind = runner
    simp only [turnOfFetch, goOn, abandons, called, idle.calls, List.find?_nil, Option.isNone_none,
      if_true]

theorem turns (idle : runner.Idle) (bound : Nat) :
    Runner.turns bound runner = { runner with ready := runner.ready.drop bound } := by
  induction bound generalizing runner with
  | zero => rfl
  | succ bound inductionHypothesis =>
    cases waiting : runner.ready with
    | nil =>
      rw [turns_of_nil waiting, List.drop_nil, ← waiting]
    | cons task rest =>
      have popped : { runner with ready := rest }.Idle := ⟨idle.refreshes, idle.calls⟩
      rw [turns_of_cons waiting, popped.turn, inductionHypothesis popped]
      rfl

/-- All that happens is that nobody is woken any more. -/
theorem settle (idle : runner.Idle) : runner.settle = { runner with ready := [] } := by
  have enough : runner.ready.length ≤
      runner.ready.length + 12 * runner.state.refreshes.length := Nat.le_add_right _ _
  rw [Runner.settle, idle.turns, List.drop_eq_nil_of_le enough]

theorem settle_instruct (idle : runner.Idle) (catalog : Scripted) :
    { runner with catalog }.settle = { runner.settle with catalog } := by
  have instructed : { runner with catalog }.Idle := ⟨idle.refreshes, idle.calls⟩
  rw [idle.settle, instructed.settle]

theorem ring (idle : runner.Idle) (moment : Moment) : (runner.waitUntil moment).ring.Idle := by
  obtain ⟨tasks, later, wakes, -⟩ := (runner.waitUntil moment).wakes_ring
  exact ⟨wakes.state ▸ idle.refreshes, wakes.calls.trans idle.calls⟩

theorem stop (idle : runner.Idle) (moment : Moment) : (runner.stop moment).Idle := by
  rw [Runner.stop, (idle.ring moment).settle]
  exact ⟨(idle.ring moment).refreshes, (idle.ring moment).calls⟩

theorem stop_instruct (idle : runner.Idle) (catalog : Scripted) (moment : Moment) :
    { runner with catalog }.stop moment = { runner.stop moment with catalog } := by
  have rung : ({ runner with catalog }.waitUntil moment).ring =
      { (runner.waitUntil moment).ring with catalog } :=
    ring_instruct (runner.waitUntil moment) catalog
  rw [Runner.stop, rung, (idle.ring moment).settle_instruct]
  rfl

theorem runUntil_instruct (idle : runner.Idle) (catalog : Scripted) (target : Moment)
    (bound : Nat) :
    Runner.runUntil target bound { runner with catalog } =
      { Runner.runUntil target bound runner with catalog } := by
  induction bound generalizing runner with
  | zero => exact idle.stop_instruct catalog target
  | succ bound inductionHypothesis =>
    unfold Runner.runUntil
    dsimp only
    cases nextAlarm? runner.alarms with
    | none => rfl
    | some moment =>
      dsimp only
      split
      · have stopped := idle.stop_instruct catalog moment
        rw [Runner.stop] at stopped
        rw [stopped]
        exact inductionHypothesis (idle.stop moment)
      · rfl

/-- The catalog does not matter while time passes. -/
theorem reach_instruct (idle : runner.Idle) (catalog : Scripted) (moment : Moment) :
    { runner with catalog }.reach moment = { runner.reach moment with catalog } := by
  have settled : { runner with ready := [] }.Idle := ⟨idle.refreshes, idle.calls⟩
  unfold Runner.reach
  dsimp only
  rw [idle.settle_instruct, idle.settle]
  exact settled.runUntil_instruct catalog _ _

theorem sleep_instruct (idle : runner.Idle) (catalog : Scripted) (nanos : Nat) :
    { runner with catalog }.sleep nanos = { runner.sleep nanos with catalog } :=
  idle.reach_instruct catalog (runner.now + waking nanos)

end Idle

end Runner

end UserDashboard.Dashboard
