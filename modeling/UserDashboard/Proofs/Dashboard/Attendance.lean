/-
This file proves that nobody who has something to do is left asleep.

A refresh that is to begin or to end can go on, and so can each of its fetches that is to call the
catalog or to end because of a cancellation. While the deadline of a refresh is to come there is an
alarm for it. Only a task that takes its turn is taken from those that can go on, and after its turn
there is nothing left for it to do, or it was woken again. What it does is done to its own refresh.
-/

import UserDashboard.Proofs.Dashboard.Lingering
import UserDashboard.Proofs.Dashboard.Running

namespace UserDashboard.Dashboard

open Catalog Time

namespace Aggregation

variable {state after : Aggregation} {action : Action} {events : List Event} {id : Nat}

/-- How long a refresh waits for its fetches does not change. -/
theorem Change.deadline (changed : Change state action events after) :
    after.deadline = state.deadline := by
  cases changed with
  | @invalidated subject =>
    cases flight : state.flight? subject with
    | none => rw [invalidate_of_none flight]
    | some other =>
      rw [invalidate_of_some flight]
      rfl
  | fetched found begun fetching led => rcases led with rfl | rfl <;> rfl
  | @givenUp _ refresh =>
    obtain ⟨flights, -, same⟩ := releaseOwn_eq state refresh
    rw [same]
    rfl
  | _ => rfl

/-- Refreshes and their fetches take no time. -/
theorem Change.still (changed : Change state action events after)
    (acts : action.actor? = some id) : after.now = state.now := by
  cases changed with
  | quiet nobody => cases nobody.symm.trans acts
  | @invalidated => cases acts
  | fetched found begun fetching led => rcases led with rfl | rfl <;> rfl
  | @givenUp _ refresh =>
    obtain ⟨flights, -, same⟩ := releaseOwn_eq state refresh
    rw [same]
    rfl
  | _ => rfl

/-- Whoever acts leaves other refreshes as they are. -/
theorem Change.others (changed : Change state action events after) (orderly : Orderly state)
    (acts : action.actor? = some id) {refresh : Refresh} (present : refresh ∈ after.refreshes)
    (different : refresh.id ≠ id) : refresh ∈ state.refreshes := by
  rcases changed.progress orderly present with ⟨old, was, progress⟩ | ⟨_, wanted, -⟩
  · cases progress with
    | @rests cancelled others kept cause =>
      have same : cancelled = old.cancelled :=
        Bool.eq_iff_iff.mpr ⟨fun cancels => (cause cancels).resolve_right
          (by rintro rfl; cases acts), kept⟩
      rw [same]
      exact was
    | begins actor =>
      subst actor
      exact absurd (Option.some.inj acts) different
    | moves begun fetching =>
      exact absurd (Option.some.inj (fetching.actor?_eq.symm.trans acts)) different
    | ends actor =>
      rcases actor with rfl | rfl <;> exact absurd (Option.some.inj acts) different
  · cases (actor?_of_wants? wanted).symm.trans acts

/-- What becomes of the one who acts. -/
theorem Change.own (changed : Change state action events after) (orderly : Orderly state)
    (acts : action.actor? = some id) {refresh : Refresh} (present : refresh ∈ after.refreshes)
    (own : refresh.id = id) :
    ∃ old ∈ state.refreshes, old.id = id ∧ Progress state action old refresh := by
  rcases changed.progress orderly present with ⟨old, was, progress⟩ | ⟨_, wanted, -⟩
  · exact ⟨old, was, progress.id_eq.symm.trans own, progress⟩
  · cases (actor?_of_wants? wanted).symm.trans acts

theorem Change.fetching_of_begin (changed : Change state (.begin id) events after)
    (orderly : Orderly state) {refresh : Refresh} (present : refresh ∈ after.refreshes)
    (own : refresh.id = id) : refresh.stage = .fetching (.start state.now) := by
  obtain ⟨old, was, number, progress⟩ := changed.own orderly rfl present own
  cases progress with
  | rests others => exact absurd (congrArg some number.symm) others
  | begins => rfl
  | moves begun fetching => cases fetching
  | ends acts => rcases acts with acts | acts <;> cases acts

end Aggregation

namespace Runner

variable {runner before after : Runner} {action : Aggregation.Action} {id other : Nat}
  {subject : SubjectId} {kind : FetchKind} {task : Task} {tasks : List Task}
  {busy : List FetchKind}

/-! ### Waking -/

theorem of_act? (acted : runner.act? action = some after) :
    ∃ events, runner.state.step? action = some (after.state, events) ∧
      after.ready = runner.ready ∧ after.alarms = runner.alarms ∧ after.calls = runner.calls := by
  obtain ⟨⟨state, events⟩, taken, rfl⟩ := Option.map_eq_some_iff.mp acted
  exact ⟨events, taken, rfl, rfl, rfl⟩

/-- Some tasks were woken, and nothing else has happened. -/
structure Wakes (before : Runner) (tasks : List Task) (after : Runner) : Prop where
  state : after.state = before.state
  alarms : after.alarms = before.alarms
  calls : after.calls = before.calls
  ready : ∀ task, task ∈ after.ready ↔ task ∈ before.ready ∨ task ∈ tasks
  length : after.ready.length ≤ before.ready.length + tasks.length

theorem wakes_wake (runner : Runner) (task : Task) : Wakes runner [task] (runner.wake task) := by
  unfold wake
  split
  · rename_i awake
    refine ⟨rfl, rfl, rfl, fun other => ⟨Or.inl, ?_⟩, Nat.le_add_right _ _⟩
    rintro (old | new)
    · exact old
    · rwa [List.mem_singleton.mp new]
  · exact ⟨rfl, rfl, rfl, fun other => List.mem_append, Nat.le_of_eq List.length_append⟩

theorem wakes_wakeAll (runner : Runner) (tasks : List Task) :
    Wakes runner tasks (tasks.foldl wake runner) := by
  induction tasks generalizing runner with
  | nil => exact ⟨rfl, rfl, rfl, fun task => by simp, Nat.le_refl _⟩
  | cons task rest inductionHypothesis =>
    have first := runner.wakes_wake task
    have later := inductionHypothesis (runner.wake task)
    refine ⟨later.state.trans first.state, later.alarms.trans first.alarms,
      later.calls.trans first.calls, fun other => ?_, ?_⟩
    · rw [List.foldl_cons, later.ready, first.ready, List.mem_singleton, List.mem_cons, or_assoc]
    · have one := first.length
      have others := later.length
      simp only [List.foldl_cons, List.length_cons, List.length_nil] at one others ⊢
      omega

/-- The fetches of a refresh that wait are woken. -/
theorem wakes_wakeWaiting (runner : Runner) (id : Nat) (subject : SubjectId) :
    ∃ tasks, Wakes runner tasks (runner.wakeWaiting id subject) ∧ tasks.length ≤ 3 ∧
      ∀ run, (runner.state.refresh? id).bind Refresh.run? = some run →
        ∀ kind, run.isWaiting kind → .fetch id subject kind ∈ tasks := by
  rw [wakeWaiting_eq]
  refine ⟨_, wakes_wakeAll _ _, ?_, fun run begun kind waits => ?_⟩
  · unfold waiting
    split
    · exact Nat.zero_le _
    · rw [List.length_map]
      exact List.length_filter_le _ _
  · rw [waiting, begun]
    refine List.mem_map_of_mem (List.mem_filter.mpr ⟨?_, waits⟩)
    cases kind <;> decide

/-! ### Leaving other refreshes alone -/

/-- Until when a refresh that began at a moment waits for its fetches. -/
def patience (runner : Runner) (startedAt : Moment) : Moment :=
  timesOut startedAt runner.state.deadline

/-- The alarms that were set for refreshes are still there. -/
def KeepsAlarms (before after : Runner) : Prop :=
  ∀ moment id subject, (moment, .refresh id subject) ∈ before.alarms →
    (moment, .refresh id subject) ∈ after.alarms

theorem keepsAlarms_of_subset (more : before.alarms ⊆ after.alarms) : KeepsAlarms before after :=
  fun _ _ _ set => more set

/-- A fetch that has ended forgets its own alarm only. -/
theorem keepsAlarms_forget (runner : Runner) (id : Nat) (subject : SubjectId) (kind : FetchKind) :
    KeepsAlarms runner (runner.forget id subject kind) :=
  fun _ _ _ set => List.mem_filter.mpr ⟨set, decide_eq_true nofun⟩

/-- No refresh but one has been touched, no time has passed, whoever was awake still is, and the
refreshes that were to be woken still are. -/
structure Spares (other : Nat) (before after : Runner) : Prop where
  others : ∀ refresh ∈ after.state.refreshes, refresh.id ≠ other →
    refresh ∈ before.state.refreshes
  now : after.now = before.now
  patience : after.patience = before.patience
  ready : before.ready ⊆ after.ready
  alarms : KeepsAlarms before after

namespace Spares

theorem arrange (same : after.state = before.state) (ready : before.ready ⊆ after.ready)
    (alarms : KeepsAlarms before after) : Spares other before after := by
  refine ⟨?_, congrArg Aggregation.now same, ?_, ready, alarms⟩
  · rw [same]
    exact fun _ present _ => present
  · funext startedAt
    rw [Runner.patience, Runner.patience, same]

theorem refl (runner : Runner) : Spares other runner runner :=
  arrange rfl (List.Subset.refl _) fun _ _ _ => id

theorem trans {first second third : Runner} (earlier : Spares other first second)
    (later : Spares other second third) : Spares other first third where
  others refresh present different :=
    earlier.others refresh (later.others refresh present different) different
  now := later.now.trans earlier.now
  patience := later.patience.trans earlier.patience
  ready := List.Subset.trans earlier.ready later.ready
  alarms moment id subject set :=
    later.alarms moment id subject (earlier.alarms moment id subject set)

theorem of_acted (acted : runner.act? action = some after) (still : after.now = runner.now)
    (others : ∀ refresh ∈ after.state.refreshes, refresh.id ≠ other →
      refresh ∈ runner.state.refreshes) : Spares other runner after := by
  obtain ⟨events, taken, ready, alarms, -⟩ := Runner.of_act? acted
  refine ⟨others, still, ?_, ready ▸ List.Subset.refl _,
    keepsAlarms_of_subset (alarms ▸ List.Subset.refl _)⟩
  funext startedAt
  rw [Runner.patience, (Aggregation.change_of_step taken).deadline]
  rfl

theorem act? (orderly : Orderly runner.state) (acted : runner.act? action = some after)
    (acts : action.actor? = some other) : Spares other runner after := by
  obtain ⟨events, taken, -⟩ := Runner.of_act? acted
  have changed := Aggregation.change_of_step taken
  exact of_acted acted (changed.still acts) fun refresh present different =>
    changed.others orderly acts present different

end Spares

theorem Wakes.spares (wakes : Wakes before tasks after) : Spares other before after :=
  .arrange wakes.state (fun task awake => (wakes.ready task).mpr (Or.inl awake))
    (keepsAlarms_of_subset (by rw [wakes.alarms]; exact List.Subset.refl _))

theorem spares_forget (runner : Runner) (id : Nat) (subject : SubjectId) (kind : FetchKind) :
    Spares other runner (runner.forget id subject kind) :=
  .arrange rfl (List.Subset.refl _) (keepsAlarms_forget _ _ _ _)

/-- What is left to chance is settled, and nothing else has happened. -/
theorem spares_draw (runner : Runner) (subject : SubjectId) :
    Spares other runner (runner.draw subject) :=
  .arrange rfl (List.Subset.refl _) fun _ _ _ => id

/-! ### Refreshes that are attended to -/

/-- The fetches of the refresh of a number, if it is there, can go on when they are to call or to
end, but for those whose turn it is. Until its deadline there is an alarm for it. -/
structure Watches (runner : Runner) (id : Nat) (subject : SubjectId) (busy : List FetchKind) :
    Prop where
  fetchDue : ∀ refresh ∈ runner.state.refreshes, refresh.id = id →
    ∀ kind, kind ∉ busy → refresh.IsFetchDue kind → .fetch id subject kind ∈ runner.ready
  alarm : ∀ refresh ∈ runner.state.refreshes, refresh.id = id →
    ∀ run, refresh.stage = .fetching run → runner.now < runner.patience run.startedAt →
      (runner.patience run.startedAt, .refresh id subject) ∈ runner.alarms

/-- The refresh itself can go on as well when it is to begin or to end. -/
structure AttendsBut (runner : Runner) (id : Nat) (subject : SubjectId) (busy : List FetchKind) :
    Prop extends Watches runner id subject busy where
  due : ∀ refresh ∈ runner.state.refreshes, refresh.id = id →
    refresh.IsDue runner.now runner.patience → .refresh id subject ∈ runner.ready

/-- A refresh is attended to, and it is nobody's turn. -/
abbrev Attends (runner : Runner) (id : Nat) (subject : SubjectId) : Prop :=
  AttendsBut runner id subject []

/-- Every call that was made is waited for by a fetch. -/
def Calling (runner : Runner) : Prop :=
  ∀ call ∈ runner.calls, runner.state.Waits call.id call.kind

/-- All refreshes are attended to. -/
def Attended (runner : Runner) : Prop :=
  ∀ refresh ∈ runner.state.refreshes, runner.Attends refresh.id refresh.subject

/-- What happens to one refresh leaves the others attended to. -/
theorem Attends.of_spares (attends : before.Attends id subject) (spares : Spares other before after)
    (different : id ≠ other) : after.Attends id subject where
  due refresh present number due := by
    rw [spares.now, spares.patience] at due
    exact spares.ready (attends.due refresh (spares.others refresh present (number ▸ different))
      number due)
  fetchDue refresh present number kind idle due :=
    spares.ready (attends.fetchDue refresh (spares.others refresh present (number ▸ different))
      number kind idle due)
  alarm refresh present number run fetching early := by
    rw [spares.now, spares.patience] at early
    rw [spares.patience]
    exact spares.alarms _ _ _ (attends.alarm refresh
      (spares.others refresh present (number ▸ different)) number run fetching early)

/-- Tasks may be woken and alarms may be set. -/
theorem Watches.arrange (watches : before.Watches id subject busy)
    (same : after.state = before.state) (ready : before.ready ⊆ after.ready)
    (alarms : KeepsAlarms before after) : after.Watches id subject busy := by
  constructor
  all_goals
    simp only [patience, now, same]
  · exact fun refresh present number kind idle due =>
      ready (watches.fetchDue refresh present number kind idle due)
  · exact fun refresh present number run fetching early =>
      alarms _ _ _ (watches.alarm refresh present number run fetching early)

theorem AttendsBut.arrange (attends : before.AttendsBut id subject busy)
    (same : after.state = before.state) (ready : before.ready ⊆ after.ready)
    (alarms : KeepsAlarms before after) : after.AttendsBut id subject busy := by
  refine ⟨attends.toWatches.arrange same ready alarms, ?_⟩
  have patience : after.patience = before.patience := by
    funext startedAt
    rw [Runner.patience, Runner.patience, same]
  simp only [patience, now, same]
  exact fun refresh present number due => ready (attends.due refresh present number due)

/-- More fetches may be busy. -/
theorem Watches.weaken {more : List FetchKind} (watches : runner.Watches id subject busy)
    (kept : busy ⊆ more) : runner.Watches id subject more :=
  ⟨fun refresh present number kind idle =>
    watches.fetchDue refresh present number kind fun member => idle (kept member), watches.alarm⟩

/-- A refresh that is woken can go on. -/
theorem Watches.attends (watches : runner.Watches id subject busy) :
    (runner.wake (.refresh id subject)).AttendsBut id subject busy := by
  have woken := runner.wakes_wake (.refresh id subject)
  refine ⟨watches.arrange woken.state (fun task awake => (woken.ready task).mpr (Or.inl awake)) ?_,
    fun _ _ _ _ => (woken.ready _).mpr (Or.inr List.mem_cons_self)⟩
  exact keepsAlarms_of_subset (by rw [woken.alarms]; exact List.Subset.refl _)

theorem attends_of_absent (absent : ∀ refresh ∈ runner.state.refreshes, refresh.id ≠ id) :
    runner.Attends id subject := by
  refine ⟨⟨?_, ?_⟩, ?_⟩
  all_goals exact fun refresh present number => absurd number (absent refresh present)

/-- The turn of a refresh that has begun and whose fetches have not all ended. -/
theorem attends_expire (orderly : Orderly runner.state) (watches : runner.Watches id subject [])
    (waits : ∀ refresh ∈ runner.state.refreshes, refresh.id = id → refresh.stage ≠ .scheduled ∧
      ∀ run, refresh.stage = .fetching run → run.allEnded = false) :
    (runner.expire id subject).Attends id subject := by
  unfold expire
  split
  · rename_i expired acted
    obtain ⟨events, taken, ready, -, -⟩ := of_act? acted
    have changed := Aggregation.change_of_step taken
    obtain ⟨tasks, wakes, -, woken⟩ := expired.wakes_wakeWaiting id subject
    refine ⟨⟨?_, ?_⟩, ?_⟩
    all_goals
      rw [wakes.state]
      intro refresh present number
      obtain ⟨-, -, old, was, own, run, fetching, lingers⟩ :=
        changed.own_of_ends orderly (Or.inr rfl) present number
    · rintro kind idle ⟨last, begun, due⟩
      have same : refresh.run? = some run := by rw [Refresh.run?, lingers]
      obtain rfl := Option.some.inj (same.symm.trans begun)
      rw [wakes.ready, ready]
      rcases due with unstarted | ⟨-, waiting⟩
      · exact Or.inl (watches.fetchDue old was own kind idle
          ⟨run, by rw [Refresh.run?, fetching], Or.inl unstarted⟩)
      · have found := (orderly.change changed).refresh?_of_id present number
        exact Or.inr (woken run (by rw [found]; exact same) kind waiting)
    · intro last goesOn
      cases goesOn.symm.trans lingers
    · rintro (scheduled | ⟨last, goesOn, -⟩)
      · cases scheduled.symm.trans lingers
      · cases goesOn.symm.trans lingers
  · rename_i stays
    refine ⟨watches, fun refresh present number due => ?_⟩
    obtain ⟨begun, pending⟩ := waits refresh present number
    rcases due with scheduled | ⟨run, fetching, ended | late⟩
    · exact absurd scheduled begun
    · exact absurd ended (Bool.eq_false_iff.mp (pending run fetching))
    · have found := orderly.refresh?_of_id present number
      have late : waitsUntil run.startedAt runner.state.deadline ≤ runner.state.now :=
        Int.le_trans (le_wakesAt _ _) late
      simp [act?, Aggregation.step?, Aggregation.expire?, found, fetching, late] at stays

/-- Nothing is left to be done by a refresh after its turn. -/
theorem attends_turnOfRefresh (orderly : Orderly runner.state)
    (watches : runner.Watches id subject []) :
    (runner.turnOfRefresh id subject).Attends id subject := by
  unfold turnOfRefresh
  split
  · rename_i begun acted
    obtain ⟨events, taken, -, -, -⟩ := of_act? acted
    have changed := Aggregation.change_of_step taken
    have woken := begun.wakes_wakeAll (fetches id subject)
    have starts : ∀ refresh ∈ begun.state.refreshes, refresh.id = id →
        refresh.stage = .fetching (.start begun.now) := by
      rw [now, changed.still rfl]
      exact fun refresh present number => changed.fetching_of_begin orderly present number
    refine attends_expire ?_ ⟨?_, ?_⟩ ?_
    all_goals
      simp only [setAlarm, patience, now, woken.state, woken.alarms]
    · exact orderly.change changed
    · intro refresh present number kind _ due
      rw [woken.ready]
      exact Or.inr (by cases kind <;> simp [fetches])
    · intro refresh present number run fetching early
      obtain rfl := Stage.fetching.inj ((starts refresh present number).symm.trans fetching)
      exact List.mem_append_right _ List.mem_cons_self
    · intro refresh present number
      rw [starts refresh present number]
      refine ⟨fun scheduled => (by cases scheduled), fun run fetching => ?_⟩
      obtain rfl := Stage.fetching.inj fetching
      rfl
  · split
    · rename_i _ concluded acted
      obtain ⟨events, taken, -, -, -⟩ := of_act? acted
      have changed := Aggregation.change_of_step taken
      -- Nothing is left of a refresh that ended by itself.
      have gone : ∀ refresh ∈ concluded.state.refreshes, refresh.id ≠ id :=
        fun refresh present number => by
          cases (changed.own_of_ends orderly (Or.inl rfl) present number).1
      exact attends_of_absent gone
    · rename_i _ idle _ stays
      refine attends_expire orderly watches fun refresh present number => ?_
      have found := orderly.refresh?_of_id present number
      refine ⟨fun scheduled => ?_, fun run fetching => ?_⟩
      · obtain ⟨_, _, _, stage⟩ := refresh
        obtain rfl := scheduled
        simp [act?, Aggregation.step?, Aggregation.begin?, found] at idle
      · refine Bool.eq_false_iff.mpr fun ended => ?_
        have comes : (run.result? (runner.state.reports id)).isSome :=
          Run.isSome_result?.trans ended
        obtain ⟨result, came⟩ := Option.isSome_iff_exists.mp comes
        simp [act?, Aggregation.step?, Aggregation.conclude?, found, fetching, came] at stays

theorem actor?_of_ends (ends : action.ends? = some (id, kind)) : action.actor? = some id := by
  cases action <;> cases ends <;> rfl

/-- What becomes of a refresh of which one fetch moves. -/
theorem own_of_fetching (orderly : Orderly runner.state) (acted : runner.act? action = some after)
    (acts : action.ends? = some (id, kind) ∨ action = .call id kind) :
    ∀ refresh ∈ after.state.refreshes, refresh.id = id →
      ∃ old ∈ runner.state.refreshes, old.id = id ∧ ∃ run change, old.run? = some run ∧
        Aggregation.Fetching runner.state old run action change ∧ refresh = old.withRun change := by
  obtain ⟨events, taken, -, -, -⟩ := of_act? acted
  have changed := Aggregation.change_of_step taken
  have actor : action.actor? = some id := by
    rcases acts with ends | rfl
    · exact actor?_of_ends ends
    · rfl
  intro refresh present number
  obtain ⟨old, was, own, progress⟩ := changed.own orderly actor present number
  refine ⟨old, was, own, ?_⟩
  cases progress with
  | rests others => exact absurd (own ▸ actor) others
  | begins acting => subst acting; rcases acts with ends | ends <;> cases ends
  | moves begun fetching => exact ⟨_, _, begun, fetching, rfl⟩
  | ends acting => rcases acting with rfl | rfl <;> rcases acts with ends | ends <;> cases ends

/-- A refresh that waits for its fetches began when it did before one of them moved. -/
theorem fetching_of_withRun {old : Refresh} {run last : Run} {change : Run → Run}
    (begun : old.run? = some run)
    (fetching : Aggregation.Fetching runner.state old run action change)
    (waits : (old.withRun change).stage = .fetching last) :
    old.stage = .fetching run ∧ last = change run ∧ last.startedAt = run.startedAt := by
  obtain ⟨other, stage, rfl⟩ := Aggregation.stage_of_withRun waits
  rw [Refresh.run?, stage] at begun
  obtain rfl := Option.some.inj begun
  exact ⟨stage, rfl, Move.startedAt_of_fetching fetching⟩

/-- An alarm for a deadline is not forgotten when one of the fetches moves. -/
theorem alarm_of_fetching (orderly : Orderly runner.state)
    (acted : runner.act? action = some after)
    (acts : action.ends? = some (id, kind) ∨ action = .call id kind)
    (spares : Spares id runner after) (watches : runner.Watches id subject busy) :
    ∀ refresh ∈ after.state.refreshes, refresh.id = id → ∀ run, refresh.stage = .fetching run →
      after.now < after.patience run.startedAt →
        (after.patience run.startedAt, .refresh id subject) ∈ after.alarms := by
  intro refresh present number last waits early
  obtain ⟨old, was, own, run, change, had, fetching, rfl⟩ :=
    own_of_fetching orderly acted acts refresh present number
  obtain ⟨stage, rfl, began⟩ := fetching_of_withRun had fetching waits
  rw [began, spares.now, spares.patience] at early
  rw [began, spares.patience]
  exact spares.alarms _ _ _ (watches.alarm old was own run stage early)

/-- After a fetch has ended nothing is left to be done by it. -/
theorem watches_of_ends (orderly : Orderly runner.state) (acted : runner.act? action = some after)
    (ends : action.ends? = some (id, kind)) (watches : runner.Watches id subject [kind]) :
    after.Watches id subject [] := by
  have spares := Spares.act? orderly acted (actor?_of_ends ends)
  refine ⟨?_, alarm_of_fetching orderly acted (Or.inl ends) spares watches⟩
  rintro refresh present number other - ⟨last, begun, due⟩
  obtain ⟨old, was, own, run, change, had, fetching, rfl⟩ :=
    own_of_fetching orderly acted (Or.inl ends) refresh present number
  rw [Aggregation.run?_withRun change had] at begun
  obtain rfl := Option.some.inj begun
  have pending := fetching.pending_of_ends other ends
  refine spares.ready ?_
  rcases due with unstarted | ⟨cancelled, waiting⟩
  · obtain ⟨different, unstarted⟩ := pending.1 unstarted
    exact watches.fetchDue old was own other (by simpa using different)
      ⟨run, had, Or.inl unstarted⟩
  · obtain ⟨different, waiting⟩ := pending.2 waiting
    exact watches.fetchDue old was own other (by simpa using different)
      ⟨run, had, Or.inr ⟨cancelled, waiting⟩⟩

theorem endingAction?_ends {call : Call} (ends : runner.endingAction? call = some action) :
    action.ends? = some (call.id, call.kind) := by
  unfold endingAction? at ends
  cases kind : call.kind <;> rw [kind] at ends
  all_goals
    obtain ⟨result, -, rfl⟩ := Option.map_eq_some_iff.mp ends
    rfl

/-- A refresh of which a fetch has ended goes on. -/
theorem Watches.attends_forget (watches : runner.Watches id subject busy) :
    ((runner.forget id subject kind).wake (.refresh id subject)).AttendsBut id subject busy := by
  have forgotten : (runner.forget id subject kind).Watches id subject busy :=
    watches.arrange rfl (List.Subset.refl _) (keepsAlarms_forget _ _ _ _)
  exact forgotten.attends

/-- A fetch that has waited long enough ends, and its refresh goes on. -/
theorem attends_finish {call : Call} (orderly : Orderly runner.state) (own : busy ⊆ [call.kind])
    (attends : runner.AttendsBut call.id call.subject busy) :
    (runner.finish call).AttendsBut call.id call.subject busy := by
  unfold finish
  split
  · rename_i action ends
    cases acted : runner.act? action with
    | none =>
      have same : runner.act action = runner := by rw [act, acted]; rfl
      rw [same]
      exact attends.toWatches.attends_forget
    | some after =>
      have same : runner.act action = after := by rw [act, acted]; rfl
      rw [same]
      have watches := watches_of_ends orderly acted (endingAction?_ends ends)
        (attends.toWatches.weaken own)
      exact (watches.weaken (List.nil_subset busy)).attends_forget
  · exact attends

/-- The call of a fetch leaves its refresh attended to but for this fetch. -/
theorem AttendsBut.call (attends : runner.AttendsBut id subject [kind])
    (orderly : Orderly runner.state) (acted : runner.act? (.call id kind) = some after) :
    after.AttendsBut id subject [kind] := by
  have spares := Spares.act? orderly acted rfl
  have moved := own_of_fetching orderly acted (Or.inr rfl)
  refine ⟨⟨?_, alarm_of_fetching orderly acted (Or.inr rfl) spares attends.toWatches⟩, ?_⟩
  · rintro refresh present number other idle ⟨last, begun, wants⟩
    obtain ⟨old, was, own, run, change, had, fetching, rfl⟩ := moved refresh present number
    rw [Aggregation.run?_withRun change had] at begun
    obtain rfl := Option.some.inj begun
    refine spares.ready (attends.fetchDue old was own other idle ⟨run, had, ?_⟩)
    cases fetching with
    | calls unstarted =>
      rcases wants with still | ⟨cancelled, waits⟩
      · exact Or.inl (Run.of_isUnstarted_call still).2
      · exact Or.inr ⟨cancelled, Run.of_isWaiting_call (by simpa using idle) waits⟩
  · intro refresh present number wants
    obtain ⟨old, was, own, run, change, had, fetching, rfl⟩ := moved refresh present number
    refine spares.ready (attends.due old was own ?_)
    rcases wants with scheduled | ⟨last, waits, ended | late⟩
    · have begun := Aggregation.run?_withRun change had
      rw [Refresh.run?, scheduled] at begun
      cases begun
    · obtain ⟨stage, rfl, -⟩ := fetching_of_withRun had fetching waits
      cases fetching with
      | calls => exact absurd ended (Bool.eq_false_iff.mp Run.allEnded_call)
    · obtain ⟨stage, rfl, began⟩ := fetching_of_withRun had fetching waits
      rw [began, spares.now, spares.patience] at late
      exact Or.inr ⟨run, stage, Or.inr late⟩

/-- A refresh is attended to when the fetch whose turn it is has nothing to do. -/
theorem AttendsBut.attends (attends : runner.AttendsBut id subject [kind])
    (idle : ∀ refresh ∈ runner.state.refreshes, refresh.id = id → ¬refresh.IsFetchDue kind) :
    runner.Attends id subject := by
  refine ⟨⟨fun refresh present number other _ wants => ?_, attends.alarm⟩, attends.due⟩
  by_cases same : other = kind
  · exact absurd (same ▸ wants) (idle refresh present number)
  · exact attends.fetchDue refresh present number other (by simpa using same) wants

/-- A fetch of the refresh of a number that has not ended belongs to one that was not cancelled. -/
def Current (runner : Runner) (id : Nat) (kind : FetchKind) : Prop :=
  ∀ refresh ∈ runner.state.refreshes, refresh.id = id → ∀ run,
    refresh.run? = some run → run.isPending kind → refresh.cancelled = false

/-- A fetch that cannot end for a cancellation belongs to no refresh that was cancelled. -/
theorem current_of_act? (orderly : Orderly runner.state)
    (held : runner.act? (.abandon id kind) = none) : runner.Current id kind := by
  intro refresh present number run begun pending
  have found := orderly.refresh?_of_id present number
  have either := (Bool.or_eq_true _ _).mp pending
  refine Bool.eq_false_iff.mpr fun cancelled => ?_
  simp [act?, Aggregation.step?, Aggregation.abandon?, found, begun, cancelled, either] at held

/-- There is nothing to be done by a fetch that has called and was not cancelled. -/
theorem not_isFetchDue_of_call (orderly : Orderly runner.state)
    (acted : runner.act? (.call id kind) = some after) (current : runner.Current id kind) :
    ∀ refresh ∈ after.state.refreshes, refresh.id = id → ¬refresh.IsFetchDue kind := by
  rintro refresh present number ⟨last, begun, wants⟩
  obtain ⟨old, was, own, run, change, had, fetching, rfl⟩ :=
    own_of_fetching orderly acted (Or.inr rfl) refresh present number
  rw [Aggregation.run?_withRun change had] at begun
  obtain rfl := Option.some.inj begun
  cases fetching with
  | calls unstarted =>
    rcases wants with still | ⟨cancelled, -⟩
    · exact (Run.of_isUnstarted_call still).1 rfl
    · have pending : run.isPending kind := by rw [Run.isPending, unstarted, Bool.true_or]
      have cancelled : old.cancelled = true := cancelled
      cases cancelled.symm.trans (current old was own run had pending)

/-- There is nothing to be done by a fetch that cannot call and was not cancelled. -/
theorem not_isFetchDue_of_idle (orderly : Orderly runner.state)
    (idle : runner.act? (.call id kind) = none) (current : runner.Current id kind) :
    ∀ refresh ∈ runner.state.refreshes, refresh.id = id → ¬refresh.IsFetchDue kind := by
  rintro refresh present number ⟨run, begun, unstarted | ⟨cancelled, waiting⟩⟩
  · have found := orderly.refresh?_of_id present number
    simp [act?, Aggregation.step?, Aggregation.call?, found, begun, unstarted] at idle
  · have pending : run.isPending kind := by rw [Run.isPending, waiting, Bool.or_true]
    cases cancelled.symm.trans (current refresh present number run begun pending)

/-- A fetch goes on, whether it calls or has called before. -/
theorem attends_goOn_of (orderly : Orderly runner.state) (own : busy ⊆ [kind])
    (made : ∀ call ∈ runner.calls, call.id = id → call.subject = subject)
    (called : ∀ after, runner.act? (.call id kind) = some after →
      after.AttendsBut id subject busy)
    (idle : runner.act? (.call id kind) = none → runner.AttendsBut id subject busy) :
    (runner.goOn id subject kind).AttendsBut id subject busy := by
  unfold goOn
  split
  · rename_i after acted
    obtain ⟨events, taken, -, -, -⟩ := of_act? acted
    have moved := orderly.change (Aggregation.change_of_step taken)
    refine attends_finish moved own ?_
    exact (called after acted).arrange rfl (List.Subset.refl _)
      (keepsAlarms_of_subset (List.subset_append_left _ _))
  · rename_i nobody
    split
    · rename_i call found
      obtain ⟨number, which⟩ : call.id = id ∧ call.kind = kind := by
        simpa using List.find?_some found
      have account := made call (List.mem_of_find?_eq_some found) number
      subst number account which
      exact attends_finish orderly own (idle nobody)
    · exact idle nobody

/-- Nothing is left to be done by a fetch that goes on and was not cancelled. -/
theorem AttendsBut.goOn_of_current (attends : runner.AttendsBut id subject [kind])
    (orderly : Orderly runner.state) (current : runner.Current id kind)
    (made : ∀ call ∈ runner.calls, call.id = id → call.subject = subject) :
    (runner.goOn id subject kind).Attends id subject :=
  attends_goOn_of orderly (List.nil_subset _) made
    (fun _ acted => (attends.call orderly acted).attends
      (not_isFetchDue_of_call orderly acted current))
    fun idle => attends.attends (not_isFetchDue_of_idle orderly idle current)

theorem AttendsBut.goOn (attends : runner.AttendsBut id subject [kind])
    (orderly : Orderly runner.state)
    (made : ∀ call ∈ runner.calls, call.id = id → call.subject = subject) :
    (runner.goOn id subject kind).AttendsBut id subject [kind] :=
  attends_goOn_of orderly (List.Subset.refl _) made (fun _ => attends.call orderly) fun _ => attends

/-- The refresh of a number was cancelled, if it is there. -/
def Cancelled (runner : Runner) (id : Nat) : Prop :=
  ∀ refresh ∈ runner.state.refreshes, refresh.id = id → refresh.cancelled

/-- What was cancelled stays so while its fetches move. -/
theorem Cancelled.act? (cancelled : runner.Cancelled id) (orderly : Orderly runner.state)
    (acted : runner.act? action = some after)
    (acts : action.ends? = some (id, kind) ∨ action = .call id kind) : after.Cancelled id := by
  intro refresh present number
  obtain ⟨old, was, own, run, change, had, fetching, rfl⟩ :=
    own_of_fetching orderly acted acts refresh present number
  exact cancelled old was own

theorem Cancelled.finish {call : Call} (cancelled : runner.Cancelled call.id)
    (orderly : Orderly runner.state) : (runner.finish call).Cancelled call.id := by
  unfold Runner.finish
  split
  · rename_i action ends
    have ended : (runner.act action).Cancelled call.id := by
      unfold act
      cases acted : runner.act? action with
      | none => exact cancelled
      | some after => exact cancelled.act? orderly acted (Or.inl (endingAction?_ends ends))
    unfold Cancelled
    rw [(wakes_wake _ _).state]
    exact ended
  · exact cancelled

theorem Cancelled.goOn (cancelled : runner.Cancelled id) (orderly : Orderly runner.state)
    (subject : SubjectId) (kind : FetchKind) : (runner.goOn id subject kind).Cancelled id := by
  unfold Runner.goOn
  split
  · rename_i after acted
    obtain ⟨events, taken, -, -, -⟩ := of_act? acted
    have moved := orderly.change (Aggregation.change_of_step taken)
    have asked : after.Cancelled id := cancelled.act? orderly acted (Or.inr rfl)
    exact Cancelled.finish asked moved
  · split
    · rename_i call found
      obtain ⟨rfl, -⟩ : call.id = id ∧ call.kind = kind := by
        simpa using List.find?_some found
      exact cancelled.finish orderly
    · exact cancelled

/-- Nothing is left to be done by a fetch of a refresh that was cancelled after it has given up. -/
theorem AttendsBut.giveUp (attends : runner.AttendsBut id subject [kind])
    (orderly : Orderly runner.state) (cancelled : runner.Cancelled id) :
    (runner.giveUp id subject kind).Attends id subject := by
  unfold Runner.giveUp
  split
  · rename_i abandoned acted
    exact (watches_of_ends orderly acted rfl attends.toWatches).attends_forget
  · rename_i held
    have current := current_of_act? orderly held
    refine attends.attends fun refresh present number => ?_
    rintro ⟨run, begun, wants⟩
    have pending : run.isPending kind := by
      rcases wants with unstarted | ⟨-, waiting⟩
      · rw [Run.isPending, unstarted, Bool.true_or]
      · rw [Run.isPending, waiting, Bool.or_true]
    have goesOn := current refresh present number run begun pending
    cases (cancelled refresh present number).symm.trans goesOn

theorem cancelled_of_abandon (orderly : Orderly runner.state)
    (acted : (runner.act? (.abandon id kind)).isSome) : runner.Cancelled id := by
  intro refresh present number
  have found := orderly.refresh?_of_id present number
  cases cancelled : refresh.cancelled with
  | true => rfl
  | false =>
    simp only [act?, Aggregation.step?, Aggregation.abandon?, found, cancelled] at acted
    split at acted <;> simp at acted

/-- A fetch that goes on leaves its refreshes orderly. -/
theorem orderly_goOn (attributed : runner.Attributed) (owns : runner.state.Owns subject id)
    (kind : FetchKind) : Orderly (runner.goOn id subject kind).state :=
  ((Leads.refl attributed).goOn owns).attributed.orderly

/-- Nothing is left to be done by a fetch after its turn, wherever it looks first. -/
theorem attends_turnOfFetch (attributed : runner.Attributed) (owns : runner.state.Owns subject id)
    (attends : runner.AttendsBut id subject [kind])
    (made : ∀ call ∈ runner.calls, call.id = id → call.subject = subject) :
    (runner.turnOfFetch id subject kind).Attends id subject := by
  have orderly := attributed.orderly
  unfold turnOfFetch
  split
  · rename_i held
    have current := current_of_act? orderly (Option.isNone_iff_eq_none.mp held)
    exact attends.goOn_of_current orderly current made
  · rename_i ends
    have cancelled := cancelled_of_abandon orderly
      (Option.isSome_iff_ne_none.mpr fun none => ends (Option.isNone_iff_eq_none.mpr none))
    have drawn := ((Leads.refl attributed).draw subject).attributed
    have attends : (runner.draw subject).AttendsBut id subject [kind] :=
      attends.arrange rfl (List.Subset.refl _) fun _ _ _ set => set
    have cancelled : (runner.draw subject).Cancelled id := cancelled
    split
    · exact (attends.goOn drawn.orderly made).giveUp (orderly_goOn drawn owns kind)
        (cancelled.goOn drawn.orderly subject kind)
    · exact attends.giveUp drawn.orderly cancelled

/-! ### Turns -/

theorem spares_expire (orderly : Orderly runner.state) (id : Nat) (subject : SubjectId) :
    Spares id runner (runner.expire id subject) := by
  unfold expire
  split
  · rename_i expired acted
    obtain ⟨tasks, wakes, -⟩ := expired.wakes_wakeWaiting id subject
    exact (Spares.act? orderly acted rfl).trans wakes.spares
  · exact .refl runner

theorem spares_turnOfRefresh (orderly : Orderly runner.state) (id : Nat) (subject : SubjectId) :
    Spares id runner (runner.turnOfRefresh id subject) := by
  unfold turnOfRefresh
  split
  · rename_i begun acted
    obtain ⟨events, taken, -, -, -⟩ := of_act? acted
    have woken := begun.wakes_wakeAll (fetches id subject)
    have moved : Orderly ((fetches id subject).foldl wake begun).state := by
      rw [woken.state]
      exact orderly.change (Aggregation.change_of_step taken)
    refine (Spares.act? orderly acted rfl).trans
      (woken.spares.trans (.trans ?_ (spares_expire ?_ _ _)))
    · exact .arrange rfl (List.Subset.refl _)
        (keepsAlarms_of_subset (List.subset_append_left _ _))
    · exact moved
  · split
    · rename_i concluded acted
      exact Spares.act? orderly acted rfl
    · exact spares_expire orderly id subject

theorem spares_finish (orderly : Orderly runner.state) {call : Call} (number : call.id = id) :
    Spares id runner (runner.finish call) := by
  subst number
  unfold finish
  split
  · rename_i action ends
    have ended : Spares call.id runner (runner.act action) := by
      unfold act
      cases acted : runner.act? action with
      | none => exact .refl runner
      | some after => exact Spares.act? orderly acted (actor?_of_ends (endingAction?_ends ends))
    exact ended.trans ((spares_forget _ _ _ _).trans (wakes_wake _ _).spares)
  · exact .refl runner

theorem spares_goOn (orderly : Orderly runner.state) (id : Nat) (subject : SubjectId)
    (kind : FetchKind) : Spares id runner (runner.goOn id subject kind) := by
  unfold goOn
  split
  · rename_i called acted
    obtain ⟨events, taken, -, -, -⟩ := of_act? acted
    have moved := orderly.change (Aggregation.change_of_step taken)
    refine (Spares.act? orderly acted rfl).trans (.trans ?_ (spares_finish ?_ rfl))
    · exact .arrange rfl (List.Subset.refl _)
        (keepsAlarms_of_subset (List.subset_append_left _ _))
    · exact moved
  · split
    · rename_i call found
      obtain ⟨rfl, -⟩ : call.id = id ∧ call.kind = kind := by
        simpa using List.find?_some found
      exact spares_finish orderly rfl
    · exact .refl runner

theorem spares_giveUp (orderly : Orderly runner.state) (id : Nat) (subject : SubjectId)
    (kind : FetchKind) : Spares id runner (runner.giveUp id subject kind) := by
  unfold giveUp
  split
  · rename_i abandoned acted
    exact (Spares.act? orderly acted rfl).trans
      ((spares_forget _ _ _ _).trans (wakes_wake _ _).spares)
  · exact .refl runner

theorem spares_turnOfFetch (attributed : runner.Attributed) (owns : runner.state.Owns subject id)
    (kind : FetchKind) : Spares id runner (runner.turnOfFetch id subject kind) := by
  have drawn := ((Leads.refl attributed).draw subject).attributed
  unfold turnOfFetch
  split
  · exact spares_goOn attributed.orderly id subject kind
  · refine (spares_draw runner subject).trans ?_
    split
    · exact (spares_goOn drawn.orderly id subject kind).trans
        (spares_giveUp (orderly_goOn drawn owns kind) id subject kind)
    · exact spares_giveUp drawn.orderly id subject kind

theorem spares_turn (attributed : runner.Attributed) {task : Task}
    (owns : runner.state.Owns task.subject task.id) :
    Spares task.id runner (runner.turn task) := by
  cases task with
  | refresh id subject => exact spares_turnOfRefresh attributed.orderly id subject
  | fetch id subject kind => exact spares_turnOfFetch attributed owns kind

theorem Attended.attends (attended : runner.Attended) (owns : runner.state.Owns subject id) :
    runner.Attends id subject := by
  have own : ∀ refresh ∈ runner.state.refreshes, refresh.id = id →
      runner.Attends id refresh.subject ∧ refresh.subject = subject := fun refresh present number =>
    ⟨number ▸ attended refresh present, owns.owner refresh present number⟩
  refine ⟨⟨?_, ?_⟩, ?_⟩
  all_goals
    intro refresh present number
    obtain ⟨attends, rfl⟩ := own refresh present number
  · exact attends.fetchDue refresh present number
  · exact attends.alarm refresh present number
  · exact attends.due refresh present number

/-- Everybody is attended to after the turn of somebody who could go on. -/
theorem attended_turn (attributed : runner.Attributed) (calling : runner.Calling)
    (attended : runner.Attended) {rest : List Task} (waiting : runner.ready = task :: rest) :
    ({ runner with ready := rest }.turn task).Attended := by
  have owns := attributed.ready task (waiting ▸ List.mem_cons_self)
  have popped := Leads.pop attributed waiting
  have kept := (popped.turn owns).owns _ _ owns
  have spares := spares_turn popped.attributed owns
  -- Whoever else could go on still can.
  have others : ∀ other ∈ runner.ready, other ≠ task → other ∈ rest := by
    intro other awake different
    rw [waiting] at awake
    exact (List.mem_cons.mp awake).resolve_left different
  intro refresh present
  by_cases own : refresh.id = task.id
  · have attends := attended.attends owns
    rw [own, kept.owner refresh present own]
    cases task with
    | refresh id subject =>
      refine attends_turnOfRefresh attributed.orderly ⟨?_, attends.alarm⟩
      exact fun old was number kind idle due =>
        others _ (attends.fetchDue old was number kind idle due) nofun
    | fetch id subject kind =>
      refine attends_turnOfFetch popped.attributed owns ⟨⟨?_, attends.alarm⟩, ?_⟩ ?_
      · exact fun old was number other busy due =>
          others _ (attends.fetchDue old was number other List.not_mem_nil due)
            fun same => busy (by simp [(Task.fetch.inj same).2.2])
      · exact fun old was number due => others _ (attends.due old was number due) nofun
      · intro call made number
        obtain ⟨asking, present, same, -⟩ := calling call made
        rw [← (attributed.calls call made).owner asking present same]
        exact owns.owner asking present (same.trans number)
  · refine Attends.of_spares ?_ spares own
    have attends := attended refresh (spares.others refresh present own)
    refine ⟨⟨?_, attends.alarm⟩, ?_⟩
    · exact fun old was number kind idle due =>
        others _ (attends.fetchDue old was number kind idle due) fun same => own (same ▸ rfl)
    · exact fun old was number due =>
        others _ (attends.due old was number due) fun same => own (same ▸ rfl)

end Runner

end UserDashboard.Dashboard
