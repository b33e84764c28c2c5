/-
This file takes the turns of tasks apart.

In its turn a task takes steps of its refresh, wakes tasks of it and sets alarms for them, makes and
forgets calls for it, and settles what was left to chance for its account, one thing after another.
So whatever these things keep is kept by turns.

Once every refresh has begun and all its fetches have called, nobody sets an alarm any more.
-/

import UserDashboard.Proofs.Dashboard.Settling

namespace UserDashboard.Dashboard

open Aggregation Catalog Time

namespace Runner

variable {start runner after : Runner} {action : Aggregation.Action} {id : Nat}
  {subject : SubjectId} {task : Task}

/-- What a task of a refresh can do in its turn, one thing after another. -/
inductive Does (id : Nat) (subject : SubjectId) (start : Runner) : Runner → Prop where
  /-- It has done nothing yet. -/
  | nothing : Does id subject start start
  /-- Its refresh takes a step. -/
  | acts {runner after : Runner} {action : Aggregation.Action}
      (before : Does id subject start runner) (actor : action.actor? = some id)
      (acted : runner.act? action = some after) : Does id subject start after
  /-- It wakes a task of its refresh. -/
  | wakes {runner : Runner} {task : Task} (before : Does id subject start runner)
      (number : task.id = id) (account : task.subject = subject) :
      Does id subject start (runner.wake task)
  /-- It sets an alarm for such a task. -/
  | sets {runner : Runner} {moment : Moment} {task : Task} (before : Does id subject start runner)
      (number : task.id = id) (account : task.subject = subject) :
      Does id subject start (runner.setAlarm moment task)
  /-- It no longer waits for a call. -/
  | forgets {runner : Runner} {kind : FetchKind} (before : Does id subject start runner) :
      Does id subject start (runner.forget id subject kind)
  /-- It waits for a call. -/
  | asks {runner : Runner} {call : Call} (before : Does id subject start runner)
      (number : call.id = id) (account : call.subject = subject) :
      Does id subject start { runner with calls := runner.calls ++ [call] }
  /-- Its call is counted. -/
  | counts {runner : Runner} {kind : FetchKind} (before : Does id subject start runner) :
      Does id subject start { runner with catalog := count runner.catalog kind }
  /-- It settles what was left to chance. -/
  | draws {runner : Runner} (before : Does id subject start runner) :
      Does id subject start (runner.draw subject)

namespace Does

theorem wakesAll {tasks : List Task} (before : Does id subject start runner)
    (own : ∀ task ∈ tasks, task.id = id ∧ task.subject = subject) :
    Does id subject start (tasks.foldl wake runner) := by
  induction tasks generalizing runner with
  | nil => exact before
  | cons task rest inductionHypothesis =>
    obtain ⟨number, account⟩ := own task List.mem_cons_self
    exact inductionHypothesis (before.wakes number account)
      fun other later => own other (List.mem_cons_of_mem _ later)

theorem wakeWaiting (before : Does id subject start runner) :
    Does id subject start (runner.wakeWaiting id subject) := by
  rw [wakeWaiting_eq]
  exact before.wakesAll fun task waits => mem_waiting waits

theorem expire (before : Does id subject start runner) :
    Does id subject start (runner.expire id subject) := by
  unfold Runner.expire
  split
  · rename_i expired acted
    exact (before.acts rfl acted).wakeWaiting
  · exact before

theorem turnOfRefresh (before : Does id subject start runner) :
    Does id subject start (runner.turnOfRefresh id subject) := by
  unfold Runner.turnOfRefresh
  split
  · rename_i begun acted
    have woken := wakesAll (before.acts rfl acted) fun task member => mem_fetches member
    exact expire (sets woken rfl rfl)
  · split
    · rename_i concluded acted
      exact before.acts rfl acted
    · exact before.expire

theorem finish {call : Call} (before : Does id subject start runner) (number : call.id = id)
    (account : call.subject = subject) : Does id subject start (runner.finish call) := by
  subst number account
  unfold Runner.finish
  split
  · rename_i action ends
    refine wakes (forgets ?_) rfl rfl
    unfold Runner.act
    cases acted : runner.act? action with
    | none => exact before
    | some ended => exact before.acts (actor?_of_ends (endingAction?_ends ends)) acted
  · exact before

theorem goOn {kind : FetchKind} (before : Does id subject start runner)
    (made : ∀ call ∈ runner.calls, call.id = id → call.subject = subject) :
    Does id subject start (runner.goOn id subject kind) := by
  unfold Runner.goOn
  split
  · rename_i called acted
    have counted : Does id subject start { called with catalog := count called.catalog kind } :=
      counts (before.acts rfl acted)
    exact finish (sets (asks counted rfl rfl) rfl rfl) rfl rfl
  · split
    · rename_i call found
      obtain ⟨own, -⟩ : call.id = id ∧ call.kind = kind := by simpa using List.find?_some found
      exact before.finish own (made call (List.mem_of_find?_eq_some found) own)
    · exact before

theorem giveUp {kind : FetchKind} (before : Does id subject start runner) :
    Does id subject start (runner.giveUp id subject kind) := by
  unfold Runner.giveUp
  split
  · rename_i abandoned acted
    exact wakes (forgets (before.acts rfl acted)) rfl rfl
  · exact before

theorem turnOfFetch {kind : FetchKind} (before : Does id subject start runner)
    (made : ∀ call ∈ runner.calls, call.id = id → call.subject = subject) :
    Does id subject start (runner.turnOfFetch id subject kind) := by
  unfold Runner.turnOfFetch
  split
  · exact before.goOn made
  · split
    · exact (goOn before.draws made).giveUp
    · exact before.draws.giveUp

/-- Whatever the steps of a refresh keep is kept in a turn of one of its tasks. -/
theorem state {P : Aggregation → Prop}
    (kept : ∀ {state after action events}, action.actor? = some id →
      state.step? action = some (after, events) → P state → P after)
    (does : Does id subject start runner) (holds : P start.state) : P runner.state := by
  induction does with
  | nothing => exact holds
  | acts before actor acted inductionHypothesis =>
    obtain ⟨events, taken, -⟩ := of_act? acted
    exact kept actor taken inductionHypothesis
  | @wakes runner task before number account inductionHypothesis =>
    rw [(wakes_wake runner task).state]
    exact inductionHypothesis
  | sets _ _ _ inductionHypothesis | asks _ _ _ inductionHypothesis => exact inductionHypothesis
  | forgets _ inductionHypothesis | counts _ inductionHypothesis | draws _ inductionHypothesis =>
    exact inductionHypothesis

end Does

/-- Calls of one refresh were made for one account. -/
theorem InHand.subject_of_call (inHand : runner.InHand) (owns : runner.state.Owns subject id) :
    ∀ call ∈ runner.calls, call.id = id → call.subject = subject := by
  intro call made number
  obtain ⟨asking, present, same, -⟩ := inHand.calling call made
  rw [← (inHand.attributed.calls call made).owner asking present same]
  exact owns.owner asking present (same.trans number)

theorem does_turn (task : Task)
    (made : ∀ call ∈ runner.calls, call.id = task.id → call.subject = task.subject) :
    Does task.id task.subject runner (runner.turn task) := by
  cases task with
  | refresh id subject => exact Does.nothing.turnOfRefresh
  | fetch id subject kind => exact Does.nothing.turnOfFetch made

/-- Whatever the steps of refreshes keep is kept while tasks take their turns. -/
theorem InHand.state_turn {P : Aggregation → Prop} {rest : List Task} (inHand : runner.InHand)
    (waiting : runner.ready = task :: rest)
    (kept : ∀ {state after action events id}, action.actor? = some id →
      state.step? action = some (after, events) → Orderly state → P state → P after)
    (holds : P runner.state) : P ({ runner with ready := rest }.turn task).state := by
  have owns := inHand.attributed.ready task (waiting ▸ List.mem_cons_self)
  have made : ∀ call ∈ { runner with ready := rest }.calls,
      call.id = task.id → call.subject = task.subject := inHand.subject_of_call owns
  refine ((does_turn task made).state (P := fun state => Orderly state ∧ P state) ?_
    ⟨inHand.attributed.orderly, holds⟩).2
  intro state after action events actor taken both
  exact ⟨both.1.change (change_of_step taken), kept actor taken both.1 both.2⟩

theorem InHand.state_turns {P : Aggregation → Prop} (inHand : runner.InHand)
    (kept : ∀ {state after action events id}, action.actor? = some id →
      state.step? action = some (after, events) → Orderly state → P state → P after)
    (holds : P runner.state) (bound : Nat) : P (Runner.turns bound runner).state := by
  induction bound generalizing runner with
  | zero => exact holds
  | succ bound inductionHypothesis =>
    unfold Runner.turns
    split
    · exact holds
    · rename_i task rest waiting
      exact inductionHypothesis (inHand.turn waiting).1 (inHand.state_turn waiting kept holds)

/-- Time does not pass while tasks take their turns. -/
theorem InHand.now_settle (inHand : runner.InHand) : runner.settle.now = runner.now :=
  inHand.state_turns (P := fun state => state.now = runner.now)
    (fun actor taken _ still => ((change_of_step taken).still actor).trans still) rfl _

end Runner

/-! ### When no more alarms are set -/

namespace Aggregation

variable {state after : Aggregation} {action : Action} {events : List Event} {id : Nat}
  {refresh : Refresh}

/-- Every refresh has begun, and all its fetches have called. -/
def Calm (state : Aggregation) : Prop :=
  ∀ refresh ∈ state.refreshes, ∃ run, refresh.run? = some run ∧
    ∀ kind, run.isUnstarted kind = false

/-- Nobody begins or calls any more. -/
theorem Calm.step? (calm : state.Calm)
    (starts : action = .begin id ∨ ∃ kind, action = .call id kind) : state.step? action = none := by
  cases taken : state.step? action with
  | none => rfl
  | some result =>
    obtain ⟨after, events⟩ := result
    have changed := change_of_step taken
    rcases starts with rfl | ⟨kind, rfl⟩
    · cases changed with
      | quiet nobody => cases nobody
      | declined wanted | scheduled wanted => cases wanted
      | @begun refresh found scheduled =>
        obtain ⟨run, begun, -⟩ := calm refresh (mem_refreshes_of_refresh? found).1
        rw [Refresh.run?, scheduled] at begun
        cases begun
      | fetched _ _ fetching => cases fetching
      | givenUp _ _ reason => cases reason
    · cases changed with
      | quiet nobody => cases nobody
      | declined wanted | scheduled wanted => cases wanted
      | @fetched _ _ refresh run _ found begun fetching =>
        obtain ⟨last, same, called⟩ := calm refresh (mem_refreshes_of_refresh? found).1
        obtain rfl := Option.some.inj (begun.symm.trans same)
        cases fetching with
        | calls unstarted => cases (called kind).symm.trans unstarted
      | givenUp _ _ reason => cases reason

theorem Fetching.isUnstarted {run : Run} {change : Run → Run} {kind : FetchKind}
    (fetching : Fetching state refresh run action change) (called : run.isUnstarted kind = false) :
    (change run).isUnstarted kind = false := by
  refine Bool.eq_false_iff.mpr fun unstarted => ?_
  rcases fetching.ends_or_calls with ended | ⟨other, rfl⟩
  · obtain ⟨⟨number, other⟩, ends⟩ := Option.isSome_iff_exists.mp ended
    have was := ((fetching.pending_of_ends kind ends).1 unstarted).2
    cases called.symm.trans was
  · cases called.symm.trans (Run.of_isUnstarted_call unstarted).2

theorem Calm.change (calm : state.Calm) (orderly : Orderly state)
    (changed : Change state action events after) (acts : action.actor? = some id) : after.Calm := by
  intro refresh present
  rcases changed.progress orderly present with ⟨old, was, progress⟩ | ⟨_, wanted, -⟩
  · obtain ⟨run, begun, called⟩ := calm old was
    cases progress with
    | rests => exact ⟨run, begun, called⟩
    | begins _ scheduled =>
      rw [Refresh.run?, scheduled] at begun
      cases begun
    | moves had fetching =>
      obtain rfl := Option.some.inj (begun.symm.trans had)
      exact ⟨_, run?_withRun _ had, fun kind => fetching.isUnstarted (called kind)⟩
    | @ends last _ _ fetching =>
      rw [Refresh.run?, fetching] at begun
      obtain rfl := Option.some.inj begun
      exact ⟨last, rfl, called⟩
  · cases (actor?_of_wants? wanted).symm.trans acts

end Aggregation

namespace Runner

variable {runner after : Runner} {task : Task} {id : Nat} {subject : SubjectId}

/-- When nobody can go on, every refresh has begun and all its fetches have called. -/
theorem InHand.calm (inHand : runner.InHand) (settled : runner.ready = []) :
    runner.state.Calm := by
  have nobody : ∀ task, task ∉ runner.ready := by
    rw [settled]
    exact fun task => List.not_mem_nil
  intro refresh present
  have attends := inHand.attended refresh present
  have begun : ∃ run, refresh.run? = some run := by
    cases stage : refresh.stage with
    | scheduled => exact absurd (attends.due refresh present rfl (Or.inl stage)) (nobody _)
    | fetching run | lingering run => exact ⟨run, by rw [Refresh.run?, stage]⟩
  obtain ⟨run, begun⟩ := begun
  refine ⟨run, begun, fun kind => Bool.eq_false_iff.mpr fun unstarted => ?_⟩
  exact nobody _ (attends.fetchDue refresh present rfl kind List.not_mem_nil
    ⟨run, begun, Or.inl unstarted⟩)

theorem act?_of_calm {action : Aggregation.Action} (calm : runner.state.Calm)
    (starts : action = .begin id ∨ ∃ kind, action = .call id kind) : runner.act? action = none := by
  rw [act?, calm.step? starts]
  rfl

theorem alarms_act? {action : Aggregation.Action} (acted : runner.act? action = some after) :
    after.alarms = runner.alarms := by
  obtain ⟨-, -, -, alarms, -⟩ := of_act? acted
  exact alarms

theorem alarms_expire (runner : Runner) (id : Nat) (subject : SubjectId) :
    (runner.expire id subject).alarms = runner.alarms := by
  unfold expire
  split
  · rename_i expired acted
    obtain ⟨tasks, wakes, -⟩ := expired.wakes_wakeWaiting id subject
    exact wakes.alarms.trans (alarms_act? acted)
  · rfl

/-- A fetch that ends only loses its alarm. -/
theorem alarms_forget (runner : Runner) (id : Nat) (subject : SubjectId) (kind : FetchKind) :
    ((runner.forget id subject kind).wake task).alarms.Sublist runner.alarms := by
  rw [(wakes_wake _ _).alarms]
  exact List.filter_sublist

theorem alarms_finish (runner : Runner) (call : Call) :
    (runner.finish call).alarms.Sublist runner.alarms := by
  unfold finish
  split
  · rename_i action ends
    have same : (runner.act action).alarms = runner.alarms := by
      unfold act
      cases acted : runner.act? action with
      | none => rfl
      | some ended => exact alarms_act? acted
    exact same ▸ alarms_forget _ _ _ _
  · exact List.Sublist.refl _

theorem alarms_giveUp (runner : Runner) (id : Nat) (subject : SubjectId) (kind : FetchKind) :
    (runner.giveUp id subject kind).alarms.Sublist runner.alarms := by
  unfold giveUp
  split
  · rename_i abandoned acted
    exact alarms_act? acted ▸ alarms_forget _ _ _ _
  · exact List.Sublist.refl _

theorem alarms_goOn (calm : runner.state.Calm) (id : Nat) (subject : SubjectId)
    (kind : FetchKind) : (runner.goOn id subject kind).alarms.Sublist runner.alarms := by
  unfold goOn
  simp only [act?_of_calm calm (Or.inr ⟨kind, rfl⟩)]
  split
  · exact runner.alarms_finish _
  · exact List.Sublist.refl _

/-- A turn sets no alarm when all have begun and called. -/
theorem alarms_turn (calm : runner.state.Calm) (task : Task) :
    (runner.turn task).alarms.Sublist runner.alarms := by
  cases task with
  | refresh id subject =>
    show (runner.turnOfRefresh id subject).alarms.Sublist runner.alarms
    unfold turnOfRefresh
    rw [act?_of_calm calm (Or.inl rfl)]
    cases acted : runner.act? (.conclude id) with
    | none => rw [runner.alarms_expire id subject]
    | some concluded => rw [alarms_act? acted]
  | fetch id subject kind =>
    have drawn : (runner.draw subject).state.Calm := calm
    show (runner.turnOfFetch id subject kind).alarms.Sublist runner.alarms
    unfold turnOfFetch
    split
    · exact alarms_goOn calm id subject kind
    · split
      · exact (alarms_giveUp _ _ _ _).trans (alarms_goOn drawn id subject kind)
      · exact alarms_giveUp (runner.draw subject) _ _ _

end Runner

end UserDashboard.Dashboard
