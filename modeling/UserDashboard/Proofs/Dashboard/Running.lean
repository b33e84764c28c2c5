/-
This file proves that a runner only takes steps of the aggregation, and asks and tells every refresh
about its own account.

A task that is woken works for the account of its refresh. The number of a refresh is never given
out again, so this stays true however long the task has to wait for its turn, and even when the
refresh is over by then. So the catalog is asked about the account of the refresh, and what a fetch
is told is what the catalog then says about that account. Nothing a runner does changes what the
catalog says.
-/

import UserDashboard.Dashboard.Runner
import UserDashboard.Proofs.Dashboard.Attribution

namespace UserDashboard.Dashboard

open Catalog Time

open Aggregation

/-- The number of the refresh that a task belongs to. -/
def Task.id : Task → Nat
  | .refresh id _ | .fetch id _ _ => id

/-- The account that a task works for. -/
def Task.subject : Task → SubjectId
  | .refresh _ subject | .fetch _ subject _ => subject

namespace Runner

variable {start runner after : Runner} {action : Aggregation.Action} {subject : SubjectId}
  {id : Nat}

/-! ### Who is woken -/

/-- The fetches of a refresh that wait for their calls. -/
def waiting (runner : Runner) (id : Nat) (subject : SubjectId) : List Task :=
  match (runner.state.refresh? id).bind Refresh.run? with
  | none => []
  | some run =>
    ([.statistics, .listings, .activity].filter run.isWaiting).map (Task.fetch id subject)

theorem mem_waiting {task : Task} (waits : task ∈ runner.waiting id subject) :
    task.id = id ∧ task.subject = subject := by
  unfold waiting at waits
  split at waits
  · cases waits
  · obtain ⟨kind, -, rfl⟩ := List.mem_map.mp waits
    exact ⟨rfl, rfl⟩

theorem mem_fetches {task : Task} (member : task ∈ fetches id subject) :
    task.id = id ∧ task.subject = subject := by
  simp only [fetches, List.mem_cons, List.not_mem_nil, or_false] at member
  rcases member with rfl | rfl | rfl <;> exact ⟨rfl, rfl⟩

theorem wakeWaiting_eq (runner : Runner) (id : Nat) (subject : SubjectId) :
    runner.wakeWaiting id subject = (runner.waiting id subject).foldl wake runner := by
  unfold wakeWaiting waiting
  cases (runner.state.refresh? id).bind Refresh.run? with
  | none => rfl
  | some run => exact List.foldl_map.symm

/-- The alarms whose moment has come wake their tasks in their order. -/
theorem ring_eq (runner : Runner) :
    runner.ring = ((runner.alarms.filter fun alarm => alarm.1 ≤ runner.now).map Prod.snd).foldl wake
      { runner with alarms := runner.alarms.filter fun alarm => runner.now < alarm.1 } := by
  have later : (not ∘ fun alarm : Moment × Task => decide (alarm.1 ≤ runner.now)) =
      fun alarm => decide (runner.now < alarm.1) := by
    funext alarm
    rw [Function.comp_apply, ← decide_not]
    exact decide_eq_decide.mpr Int.not_le
  unfold ring
  rw [List.partition_eq_filter_filter, later, List.foldl_map]

/-! ### Steps -/

/-- Every task that waits and every call that was made is one for the account of its refresh. -/
structure Attributed (runner : Runner) : Prop where
  orderly : Orderly runner.state
  ready : ∀ task ∈ runner.ready, runner.state.Owns task.subject task.id
  alarms : ∀ alarm ∈ runner.alarms, runner.state.Owns alarm.2.subject alarm.2.id
  calls : ∀ call ∈ runner.calls, runner.state.Owns call.subject call.id

/-- A runner comes from another one by fair steps, and its catalog says the same. -/
structure Leads (before after : Runner) : Prop where
  moves : ∃ moves, Trace step? before.state moves after.state ∧
    ∀ move ∈ moves, move.action.Fair before.catalog move.before
  statistics : after.catalog.statistics.plan = before.catalog.statistics.plan
  listings : after.catalog.listings.plan = before.catalog.listings.plan
  owns : ∀ subject id, before.state.Owns subject id → after.state.Owns subject id
  attributed : after.Attributed

theorem fair_of_same {catalog other : Scripted} {state : Aggregation}
    (statistics : other.statistics.plan = catalog.statistics.plan)
    (listings : other.listings.plan = catalog.listings.plan) (fair : action.Fair other state) :
    action.Fair catalog state := by
  unfold Action.Fair at fair ⊢
  rw [statistics, listings] at fair
  exact fair

/-- An answer is what the catalog says. -/
theorem eq_of_answered {α : Type} {wait : Wait} {now : Moment} {plan : Plan α} {course : Course}
    {answer : α} (found : wait.poll? now (plan.ending course) = some (.answered answer)) :
    answer = plan.value := by
  unfold Wait.poll? at found
  split at found
  · cases course with
    | answer => exact (CallResult.answered.inj (Option.some.inj found)).symm
    | fail | hang | crash => cases found
  · split at found <;> cases found

/-- A fetch is told what the catalog says about the account that it asked about. -/
theorem fair_endingAction? {call : Call} (owns : runner.state.Owns call.subject call.id)
    (ends : runner.endingAction? call = some action) :
    action.Fair runner.catalog runner.state := by
  have same : ∀ refresh, runner.state.refresh? call.id = some refresh →
      refresh.subject = call.subject := fun refresh found =>
    have ⟨present, number⟩ := mem_refreshes_of_refresh? found
    owns.owner refresh present number
  unfold Runner.endingAction? at ends
  cases kind : call.kind <;> rw [kind] at ends
  all_goals
    obtain ⟨result, polled, rfl⟩ := Option.map_eq_some_iff.mp ends
    intro answer refresh answered found
    rw [same refresh found]
    exact eq_of_answered (answered ▸ polled)

theorem snapshot_snd (runner : Runner) (subject : SubjectId) :
    (runner.snapshot subject).2 =
      match (runner.state.snapshot subject).2.1 with
      | some id => (runner.act (.snapshot subject)).wake (.refresh id subject)
      | none => runner.act (.snapshot subject) := rfl

namespace Leads

theorem refl (attributed : runner.Attributed) : Leads runner runner :=
  ⟨⟨[], .nil, fun move member => by cases member⟩, rfl, rfl, fun _ _ => id, attributed⟩

theorem trans (leads : Leads start runner) (later : Leads runner after) : Leads start after := by
  obtain ⟨moves, trace, fair⟩ := leads.moves
  obtain ⟨others, rest, fairLater⟩ := later.moves
  refine ⟨⟨moves ++ others, trace.append rest, fun move member => ?_⟩,
    later.statistics.trans leads.statistics, later.listings.trans leads.listings,
    fun subject id owns => later.owns subject id (leads.owns subject id owns), later.attributed⟩
  rcases List.mem_append.mp member with early | late
  · exact fair move early
  · exact fair_of_same leads.statistics leads.listings (fairLater move late)

theorem onward (leads : Leads start runner) : Onward start.state runner.state := by
  obtain ⟨moves, trace, -⟩ := leads.moves
  exact onward_of_trace trace

/-! ### Steps and arrangements -/

theorem act? (leads : Leads start runner) (acted : runner.act? action = some after)
    (fair : action.Fair runner.catalog runner.state) : Leads start after := by
  obtain ⟨⟨state, events⟩, taken, rfl⟩ := Option.map_eq_some_iff.mp acted
  have changed := change_of_step taken
  have attributed := leads.attributed
  have owns : ∀ subject id, runner.state.Owns subject id → state.Owns subject id :=
    fun subject id owns => owns.change attributed.orderly changed
  refine leads.trans ⟨⟨_, .snoc .nil taken, fun move member => ?_⟩, rfl, rfl, owns,
    attributed.orderly.change changed, fun task waiting => owns _ _ (attributed.ready task waiting),
    fun alarm set => owns _ _ (attributed.alarms alarm set),
    fun call made => owns _ _ (attributed.calls call made)⟩
  rw [List.mem_singleton.mp member]
  exact fair

theorem act (leads : Leads start runner) (fair : action.Fair runner.catalog runner.state) :
    Leads start (runner.act action) := by
  unfold Runner.act
  cases acted : runner.act? action with
  | none => exact leads
  | some after => exact leads.act? acted fair

/-- Who is to go on when may be arranged anew, and calls may be counted. -/
theorem arrange (leads : Leads start runner) (same : after.state = runner.state)
    (statistics : after.catalog.statistics.plan = runner.catalog.statistics.plan)
    (listings : after.catalog.listings.plan = runner.catalog.listings.plan)
    (ready : ∀ task ∈ after.ready, runner.state.Owns task.subject task.id)
    (alarms : ∀ alarm ∈ after.alarms, runner.state.Owns alarm.2.subject alarm.2.id)
    (calls : ∀ call ∈ after.calls, runner.state.Owns call.subject call.id) :
    Leads start after := by
  refine leads.trans ⟨⟨[], ?_, fun move member => by cases member⟩, statistics, listings, ?_, ?_⟩
  · rw [same]
    exact .nil
  · rw [same]
    exact fun _ _ => id
  · constructor
    · rw [same]
      exact leads.attributed.orderly
    all_goals
      rw [same]
      assumption

theorem wake (leads : Leads start runner) {task : Task}
    (owns : start.state.Owns task.subject task.id) : Leads start (runner.wake task) := by
  unfold Runner.wake
  split
  · exact leads
  · refine leads.arrange rfl rfl rfl (fun other waiting => ?_) leads.attributed.alarms
      leads.attributed.calls
    rcases List.mem_append.mp waiting with old | new
    · exact leads.attributed.ready other old
    · rw [List.mem_singleton.mp new]
      exact leads.owns _ _ owns

theorem wakeAll {tasks : List Task} (leads : Leads start runner)
    (owns : ∀ task ∈ tasks, start.state.Owns task.subject task.id) :
    Leads start (tasks.foldl Runner.wake runner) := by
  induction tasks generalizing runner with
  | nil => exact leads
  | cons task rest inductionHypothesis =>
    exact inductionHypothesis (leads.wake (owns task List.mem_cons_self))
      fun other later => owns other (List.mem_cons_of_mem _ later)

theorem setAlarm (leads : Leads start runner) (task : Task)
    (owns : start.state.Owns task.subject task.id) (moment : Moment) :
    Leads start (runner.setAlarm moment task) := by
  refine leads.arrange rfl rfl rfl leads.attributed.ready (fun alarm set => ?_)
    leads.attributed.calls
  rcases List.mem_append.mp set with old | new
  · exact leads.attributed.alarms alarm old
  · rw [List.mem_singleton.mp new]
    exact leads.owns _ _ owns

/-- The call of a fetch is no longer waited for. -/
theorem forget (leads : Leads start runner) (id : Nat) (subject : SubjectId) (kind : FetchKind) :
    Leads start (runner.forget id subject kind) :=
  leads.arrange rfl rfl rfl leads.attributed.ready
    (fun alarm set => leads.attributed.alarms alarm (List.mem_filter.mp set).1)
    fun call made => leads.attributed.calls call (List.mem_filter.mp made).1

/-- What is left to chance is nobody's. -/
theorem draw (leads : Leads start runner) (subject : SubjectId) :
    Leads start (runner.draw subject) :=
  leads.arrange rfl rfl rfl leads.attributed.ready leads.attributed.alarms leads.attributed.calls

/-- A call was made for the account of its refresh. -/
theorem ask (leads : Leads start runner) {call : Call}
    (owns : start.state.Owns call.subject call.id) :
    Leads start { runner with calls := runner.calls ++ [call] } := by
  refine leads.arrange rfl rfl rfl leads.attributed.ready leads.attributed.alarms
    fun other made => ?_
  rcases List.mem_append.mp made with old | new
  · exact leads.attributed.calls other old
  · rw [List.mem_singleton.mp new]
    exact leads.owns _ _ owns

/-- Counting a call does not change what the catalog answers. -/
theorem count (leads : Leads start runner) (kind : FetchKind) :
    Leads start { runner with catalog := Runner.count runner.catalog kind } := by
  refine leads.arrange rfl ?_ ?_ leads.attributed.ready leads.attributed.alarms
    leads.attributed.calls <;> cases kind <;> rfl

/-! ### Turns -/

theorem wakeWaiting (leads : Leads start runner) (owns : start.state.Owns subject id) :
    Leads start (runner.wakeWaiting id subject) := by
  rw [wakeWaiting_eq]
  refine leads.wakeAll fun task waits => ?_
  obtain ⟨number, account⟩ := mem_waiting waits
  rw [number, account]
  exact owns

theorem expire (leads : Leads start runner) (owns : start.state.Owns subject id) :
    Leads start (runner.expire id subject) := by
  unfold Runner.expire
  split
  · rename_i expired acted
    exact (leads.act? acted trivial).wakeWaiting owns
  · exact leads

theorem turnOfRefresh (leads : Leads start runner) (owns : start.state.Owns subject id) :
    Leads start (runner.turnOfRefresh id subject) := by
  unfold Runner.turnOfRefresh
  split
  · rename_i begun acted
    have woken : Leads start ((fetches id subject).foldl Runner.wake begun) := by
      refine (leads.act? acted trivial).wakeAll fun task member => ?_
      obtain ⟨number, account⟩ := mem_fetches member
      rw [number, account]
      exact owns
    exact (woken.setAlarm (.refresh id subject) owns _).expire owns
  · split
    · rename_i concluded acted
      exact leads.act? acted trivial
    · exact leads.expire owns

theorem finish {call : Call} (leads : Leads start runner)
    (owns : start.state.Owns call.subject call.id) : Leads start (runner.finish call) := by
  unfold Runner.finish
  split
  · rename_i action ends
    have ended := leads.act (fair_endingAction? (leads.owns _ _ owns) ends)
    exact (ended.forget _ _ _).wake owns
  · exact leads

theorem goOn {kind : FetchKind} (leads : Leads start runner)
    (owns : start.state.Owns subject id) : Leads start (runner.goOn id subject kind) := by
  unfold Runner.goOn
  split
  · rename_i called acted
    have counted := (leads.act? acted trivial).count kind
    exact ((counted.ask owns).setAlarm (.fetch id subject kind) owns _).finish owns
  · split
    · rename_i call found
      have made := leads.attributed.calls call (List.mem_of_find?_eq_some found)
      exact leads.trans ((refl leads.attributed).finish made)
    · exact leads

theorem giveUp {kind : FetchKind} (leads : Leads start runner)
    (owns : start.state.Owns subject id) : Leads start (runner.giveUp id subject kind) := by
  unfold Runner.giveUp
  split
  · rename_i abandoned acted
    exact ((leads.act? acted trivial).forget _ _ _).wake owns
  · exact leads

theorem turnOfFetch {kind : FetchKind} (leads : Leads start runner)
    (owns : start.state.Owns subject id) : Leads start (runner.turnOfFetch id subject kind) := by
  unfold Runner.turnOfFetch
  split
  · exact leads.goOn owns
  · split
    · exact ((leads.draw subject).goOn owns).giveUp owns
    · exact (leads.draw subject).giveUp owns

theorem turn {task : Task} (leads : Leads start runner)
    (owns : start.state.Owns task.subject task.id) : Leads start (runner.turn task) := by
  cases task with
  | refresh id subject => exact leads.turnOfRefresh owns
  | fetch id subject kind => exact leads.turnOfFetch owns

/-- The first of those that can go on is taken out. -/
theorem pop (attributed : runner.Attributed) {task : Task} {rest : List Task}
    (waiting : runner.ready = task :: rest) : Leads runner { runner with ready := rest } :=
  (refl attributed).arrange rfl rfl rfl
    (fun other later => attributed.ready other (waiting ▸ List.mem_cons_of_mem _ later))
    attributed.alarms attributed.calls

theorem turns (leads : Leads start runner) (bound : Nat) :
    Leads start (Runner.turns bound runner) := by
  induction bound generalizing runner with
  | zero => exact leads
  | succ bound inductionHypothesis =>
    unfold Runner.turns
    split
    · exact leads
    · rename_i task rest waiting
      have owns := leads.attributed.ready task (waiting ▸ List.mem_cons_self)
      exact inductionHypothesis (leads.trans ((pop leads.attributed waiting).turn owns))

theorem settle (leads : Leads start runner) : Leads start runner.settle :=
  leads.turns _

/-! ### Time -/

theorem waitUntil (leads : Leads start runner) (moment : Moment) :
    Leads start (runner.waitUntil moment) :=
  leads.act trivial

theorem ring (leads : Leads start runner) : Leads start runner.ring := by
  have attributed := leads.attributed
  have later : Leads runner { runner with
      alarms := runner.alarms.filter fun alarm => runner.now < alarm.1 } :=
    (refl attributed).arrange rfl rfl rfl attributed.ready
      (fun alarm set => attributed.alarms alarm (List.mem_filter.mp set).1) attributed.calls
  rw [ring_eq]
  refine leads.trans (later.wakeAll fun task woken => ?_)
  obtain ⟨alarm, due, rfl⟩ := List.mem_map.mp woken
  exact attributed.alarms alarm (List.mem_filter.mp due).1

theorem runUntil (leads : Leads start runner) (target : Moment) (bound : Nat) :
    Leads start (Runner.runUntil target bound runner) := by
  induction bound generalizing runner with
  | zero => exact (leads.waitUntil target).ring.settle
  | succ bound inductionHypothesis =>
    unfold Runner.runUntil
    split
    · split
      · exact inductionHypothesis (leads.waitUntil _).ring.settle
      · exact leads.waitUntil target
    · exact leads.waitUntil target

theorem reach (leads : Leads start runner) (moment : Moment) :
    Leads start (runner.reach moment) :=
  leads.settle.runUntil _ _

theorem sleep (leads : Leads start runner) (nanos : Nat) : Leads start (runner.sleep nanos) :=
  leads.reach _

/-! ### Operations of callers -/

theorem snapshot (leads : Leads start runner) (subject : SubjectId) :
    Leads start (runner.snapshot subject).2 := by
  have read : Leads start (runner.act (.snapshot subject)) := leads.act trivial
  rw [snapshot_snd]
  split
  · rename_i id scheduled
    have flying := flight?_of_snapshot scheduled
    have owns : (runner.act (.snapshot subject)).state.Owns subject id :=
      owns_of_flight read.attributed.orderly flying
    exact read.trans ((refl read.attributed).wake owns)
  · exact read

theorem cached (leads : Leads start runner) (subject : SubjectId) :
    Leads start (runner.cached subject).2 := by
  show Leads start (runner.act (.cached subject))
  exact leads.act trivial

theorem invalidate (leads : Leads start runner) (subject : SubjectId) :
    Leads start (runner.invalidate subject) := by
  have forgotten : Leads runner (runner.act (.invalidate subject)) :=
    (refl leads.attributed).act trivial
  unfold Runner.invalidate
  simp only
  split
  · rename_i id flying
    exact leads.trans (forgotten.wakeWaiting (owns_of_flight leads.attributed.orderly flying))
  · exact leads.trans forgotten

theorem sweep (leads : Leads start runner) : Leads start runner.sweep.2 := by
  show Leads start (runner.act .sweep)
  exact leads.act trivial

theorem fetchListings (leads : Leads start runner) (subject : SubjectId) (timeout : Span) :
    Leads start (runner.fetchListings subject timeout).2 := by
  have counted := leads.count .listings
  unfold Runner.fetchListings
  simp only
  split
  · exact counted
  · exact counted.reach _

end Leads

theorem attributed_new (state : Aggregation) (orderly : Orderly state) (catalog : Scripted)
    (timeout : Span) (callFirst : SubjectId → Nat → Bool) :
    (new state catalog timeout callFirst).Attributed :=
  ⟨orderly, fun task waiting => (by cases waiting), fun alarm set => (by cases set),
    fun call made => (by cases made)⟩

/-! ### What callers do -/

/-- Whoever is woken has done nothing yet. -/
theorem wake_same (runner : Runner) (task : Task) :
    (runner.wake task).state = runner.state ∧ (runner.wake task).catalog = runner.catalog := by
  unfold wake
  split <;> exact ⟨rfl, rfl⟩

theorem wakeAll_same (runner : Runner) (tasks : List Task) :
    (tasks.foldl wake runner).state = runner.state ∧
      (tasks.foldl wake runner).catalog = runner.catalog := by
  induction tasks generalizing runner with
  | nil => exact ⟨rfl, rfl⟩
  | cons task rest inductionHypothesis =>
    obtain ⟨state, catalog⟩ := runner.wake_same task
    rw [List.foldl_cons, ← state, ← catalog]
    exact inductionHypothesis _

theorem wakeWaiting_same (runner : Runner) (id : Nat) (subject : SubjectId) :
    (runner.wakeWaiting id subject).state = runner.state ∧
      (runner.wakeWaiting id subject).catalog = runner.catalog := by
  rw [wakeWaiting_eq]
  exact wakeAll_same _ _

/-- Whoever reads a dashboard takes one step of the aggregation and asks nobody. -/
theorem snapshot_same (runner : Runner) (subject : SubjectId) :
    (runner.snapshot subject).2.state = (runner.state.snapshot subject).2.2 ∧
      (runner.snapshot subject).2.catalog = runner.catalog := by
  rw [snapshot_snd]
  split
  · exact wake_same _ _
  · exact ⟨rfl, rfl⟩

/-- Whoever invalidates an account takes one step of the aggregation and asks nobody. -/
theorem invalidate_same (runner : Runner) (subject : SubjectId) :
    (runner.invalidate subject).state = runner.state.invalidate subject ∧
      (runner.invalidate subject).catalog = runner.catalog := by
  unfold invalidate
  simp only
  split
  · exact wakeWaiting_same _ _ _
  · exact ⟨rfl, rfl⟩

/-- Whoever asks for the listings of an account is told what the catalog said about it when the
call was made, however long that took. -/
theorem fetchListings_fst (attributed : runner.Attributed) (subject : SubjectId) (timeout : Span) :
    (runner.fetchListings subject timeout).1 =
      ((runner.catalog.listings.plan subject).fetch runner.now timeout).2.bind
        (·.outcome? [] some) := by
  have same := ((Leads.refl attributed).fetchListings subject timeout).listings
  unfold fetchListings at same ⊢
  simp only at same ⊢
  rw [same]
  rfl

end Runner

end UserDashboard.Dashboard
