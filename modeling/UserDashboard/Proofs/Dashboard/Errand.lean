/-
This file says what can be done with a runner, and that nobody is forgotten whatever is done.

Callers read dashboards, look them up, ask for refreshes and have accounts invalidated, the catalog
may be told to answer differently, tasks take their turns, and time passes: alarm by alarm, or all
at once. A refresh that is scheduled is woken, one that is cancelled has those of its fetches woken
that wait, and whose alarm goes off is woken. So what holds of every refresh between turns holds
after all that can be done, in any order.
-/

import UserDashboard.Proofs.Dashboard.Balance
import UserDashboard.Proofs.Dashboard.Settling

namespace UserDashboard.Dashboard

open Catalog Time

namespace Aggregation

variable {state : Aggregation} {subject : SubjectId} {id : Nat} {refresh : Refresh}

theorem invalidate_now (state : Aggregation) (subject : SubjectId) :
    (state.invalidate subject).now = state.now := by
  cases flight : state.flight? subject with
  | none => rw [invalidate_of_none flight]
  | some id => rw [invalidate_of_some flight]; rfl

/-- Only the refresh in flight is cancelled with its account. -/
theorem of_mem_invalidate (flying : state.flight? subject = some id)
    (present : refresh ∈ (state.invalidate subject).refreshes) :
    refresh.id ≠ id ∧ refresh ∈ state.refreshes ∨
      ∃ old ∈ state.refreshes, old.id = id ∧ refresh = { old with cancelled := true } := by
  rw [invalidate_of_some flying] at present
  obtain ⟨old, was, rfl⟩ := mem_modify.mp present
  by_cases same : old.id = id
  · rw [if_pos same]
    exact Or.inr ⟨old, was, same, rfl⟩
  · rw [if_neg same]
    exact Or.inl ⟨same, was⟩

end Aggregation

namespace Runner

variable {runner before after : Runner} {action : Aggregation.Action} {id : Nat}
  {subject : SubjectId} {tasks : List Task}

theorem InHand.of_leads (inHand : runner.InHand) (leads : Leads runner after)
    (calling : after.Calling) (attended : after.Attended) : after.InHand :=
  ⟨leads.attributed, leads.lingering inHand.attributed.orderly inHand.lingering, calling, attended⟩

theorem Leads.trace (leads : Leads before after) :
    ∃ moves, Trace Aggregation.step? before.state moves after.state := by
  obtain ⟨moves, trace, -⟩ := leads.moves
  exact ⟨moves, trace⟩

theorem Calling.of_same (calling : before.Calling)
    (refreshes : after.state.refreshes = before.state.refreshes)
    (calls : after.calls = before.calls) : after.Calling := by
  unfold Calling Aggregation.Waits
  rw [refreshes, calls]
  exact calling

/-! ### Time -/

/-- Time may pass when those are woken whose moment comes with it. -/
theorem Attends.wait {nanos : Nat} (attends : before.Attends id subject)
    (same : after.state = { before.state with now := before.now + nanos })
    (ready : before.ready ⊆ after.ready)
    (rung : ∀ alarm ∈ before.alarms, before.now < alarm.1 → alarm.1 ≤ after.now →
      alarm.2 ∈ after.ready)
    (kept : ∀ alarm ∈ before.alarms, after.now < alarm.1 → alarm ∈ after.alarms) :
    after.Attends id subject := by
  have refreshes : after.state.refreshes = before.state.refreshes := by rw [same]
  have patience : after.patience = before.patience := by
    funext startedAt
    rw [Runner.patience, same]
    rfl
  have onward : before.now ≤ after.now := by
    rw [Runner.now, Runner.now, same]
    exact Int.le_add_of_nonneg_right (Int.natCast_nonneg nanos)
  refine ⟨⟨?_, ?_⟩, ?_⟩
  all_goals rw [refreshes]
  · exact fun refresh present number kind idle due =>
      ready (attends.fetchDue refresh present number kind idle due)
  · intro refresh present number run fetching early
    rw [patience] at early ⊢
    refine kept _ (attends.alarm refresh present number run fetching ?_) early
    exact Int.lt_of_le_of_lt onward early
  · intro refresh present number due
    rw [patience] at due
    rcases due with scheduled | ⟨run, fetching, ended | late⟩
    · exact ready (attends.due refresh present number (Or.inl scheduled))
    · exact ready (attends.due refresh present number (Or.inr ⟨run, fetching, Or.inl ended⟩))
    · -- A deadline that passes only now had an alarm, and that has gone off.
      by_cases early : before.now < before.patience run.startedAt
      · exact rung _ (attends.alarm refresh present number run fetching early) early late
      · have passed : before.patience run.startedAt ≤ before.now := Int.not_lt.mp early
        exact ready (attends.due refresh present number (Or.inr ⟨run, fetching, Or.inr passed⟩))

theorem waitUntil_eq (runner : Runner) (moment : Moment) :
    runner.waitUntil moment =
      { runner with state := { runner.state with now := max runner.now moment } } := by
  have reach : ∀ here there : Int, here + (there - here).toNat = max here there := by omega
  rw [← reach runner.now moment]
  rfl

theorem waitUntil_state (runner : Runner) (moment : Moment) :
    (runner.waitUntil moment).state =
      { runner.state with now := runner.now + (moment - runner.now).toNat } := rfl

theorem waitUntil_now (runner : Runner) (moment : Moment) :
    (runner.waitUntil moment).now = max runner.now moment := by
  rw [waitUntil_eq]
  rfl

/-- The alarms whose moment has come go off, and the others stay. -/
theorem wakes_ring (runner : Runner) :
    ∃ tasks later, Wakes { runner with alarms := later } tasks runner.ring ∧
      ∀ alarm ∈ runner.alarms, (alarm.1 ≤ runner.now → alarm.2 ∈ tasks) ∧
        (runner.now < alarm.1 → alarm ∈ later) := by
  refine ⟨(runner.alarms.filter fun alarm => alarm.1 ≤ runner.now).map Prod.snd,
    runner.alarms.filter fun alarm => runner.now < alarm.1, ?_, ?_⟩
  · rw [ring_eq]
    exact wakes_wakeAll _ _
  · intro alarm set
    constructor
    · exact fun due => List.mem_map_of_mem (List.mem_filter.mpr ⟨set, decide_eq_true due⟩)
    · exact fun early => List.mem_filter.mpr ⟨set, decide_eq_true early⟩

/-- Time passes, and the alarms go off. -/
theorem InHand.ring (inHand : runner.InHand) (moment : Moment) :
    (runner.waitUntil moment).ring.InHand := by
  obtain ⟨tasks, later, wakes, alarms⟩ := (runner.waitUntil moment).wakes_ring
  have led := ((Leads.refl inHand.attributed).waitUntil moment).ring
  refine inHand.of_leads led (inHand.calling.of_same ?_ wakes.calls) fun refresh present => ?_
  · rw [wakes.state]
    rfl
  · rw [wakes.state] at present
    refine (inHand.attended refresh present).wait (wakes.state.trans (waitUntil_state _ _)) ?_ ?_ ?_
    · exact fun task awake => (wakes.ready task).mpr (Or.inl awake)
    all_goals
      rw [show (runner.waitUntil moment).ring.now = (runner.waitUntil moment).now from
        congrArg Aggregation.now wakes.state]
    · exact fun alarm set _ due => (wakes.ready _).mpr (Or.inr ((alarms alarm set).1 due))
    · intro alarm set early
      rw [wakes.alarms]
      exact (alarms alarm set).2 early

/-- Time passes up to a moment before all alarms. -/
theorem InHand.waitUntil (inHand : runner.InHand) {moment : Moment}
    (early : ∀ alarm ∈ runner.alarms, moment < alarm.1) : (runner.waitUntil moment).InHand := by
  have led := (Leads.refl inHand.attributed).waitUntil moment
  refine inHand.of_leads led (inHand.calling.of_same rfl rfl) fun refresh present => ?_
  refine (inHand.attended refresh present).wait (waitUntil_state _ _) (List.Subset.refl _) ?_
    fun alarm set _ => set
  intro alarm set ahead due
  rw [waitUntil_now] at due
  exact absurd due (Int.not_le.mpr (max_lt ahead (early alarm set)))

theorem eq_nil_of_nextAlarm? {alarms : List (Moment × Task)} (nobody : nextAlarm? alarms = none) :
    alarms = [] := by
  cases alarms with
  | nil => rfl
  | cons first rest =>
    unfold nextAlarm? at nobody
    split at nobody <;> cases nobody

theorem le_of_nextAlarm? {alarms : List (Moment × Task)} {moment : Moment}
    (next : nextAlarm? alarms = some moment) : ∀ alarm ∈ alarms, moment ≤ alarm.1 := by
  induction alarms generalizing moment with
  | nil => cases next
  | cons first rest inductionHypothesis =>
    unfold nextAlarm? at next
    rw [List.forall_mem_cons]
    split at next
    · rename_i nobody
      obtain rfl := Option.some.inj next
      rw [eq_nil_of_nextAlarm? nobody]
      exact ⟨Int.le_refl _, fun alarm later => nomatch later⟩
    · rename_i other found
      obtain rfl := Option.some.inj next
      exact ⟨Int.min_le_left _ _, fun alarm later =>
        Int.le_trans (Int.min_le_right _ _) (inductionHypothesis found alarm later)⟩

/-- Time passes from alarm to alarm. -/
theorem InHand.runUntil (inHand : runner.InHand) (target : Moment) (bound : Nat) :
    (Runner.runUntil target bound runner).InHand := by
  induction bound generalizing runner with
  | zero => exact (inHand.ring target).settle.1
  | succ bound inductionHypothesis =>
    unfold Runner.runUntil
    split
    · rename_i moment next
      split
      · exact inductionHypothesis (inHand.ring moment).settle.1
      · rename_i beyond
        exact inHand.waitUntil fun alarm set =>
          Int.lt_of_lt_of_le (Int.not_le.mp beyond) (le_of_nextAlarm? next alarm set)
    · rename_i nobody
      refine inHand.waitUntil fun alarm set => ?_
      rw [eq_nil_of_nextAlarm? nobody] at set
      cases set

theorem InHand.reach (inHand : runner.InHand) (moment : Moment) : (runner.reach moment).InHand :=
  inHand.settle.1.runUntil _ _

theorem InHand.sleep (inHand : runner.InHand) (nanos : Nat) : (runner.sleep nanos).InHand :=
  inHand.reach _

/-! ### Callers -/

/-- A caller leaves refreshes as they are, but for the one that is scheduled. -/
theorem spares_of_caller (orderly : Orderly runner.state) (acted : runner.act? action = some after)
    (nobody : action.actor? = none) (tolerant : ∀ subject, action ≠ .invalidate subject)
    (still : after.now = runner.now) : Spares runner.state.nextId runner after := by
  obtain ⟨events, taken, -, -, -⟩ := of_act? acted
  refine Spares.of_acted acted still fun refresh present old => ?_
  rcases (Aggregation.change_of_step taken).progress orderly present with
    ⟨before, was, progress⟩ | ⟨_, -, -, rfl⟩
  · cases progress with
    | @rests cancelled others kept cause =>
      have same : cancelled = before.cancelled :=
        Bool.eq_iff_iff.mpr ⟨fun cancels => (cause cancels).resolve_right (tolerant _), kept⟩
      rw [same]
      exact was
    | begins acts =>
      subst acts
      cases nobody
    | moves begun fetching => cases nobody.symm.trans fetching.actor?_eq
    | ends acts => rcases acts with rfl | rfl <;> cases nobody
  · exact absurd rfl old

/-- For a refresh that has not begun there is nothing to be done but to let it begin. -/
theorem attends_of_scheduled (waits : ∀ refresh ∈ runner.state.refreshes, refresh.id = id →
    refresh.stage = .scheduled) (awake : .refresh id subject ∈ runner.ready) :
    runner.Attends id subject := by
  refine ⟨⟨?_, ?_⟩, fun _ _ _ _ => awake⟩
  · rintro refresh present number kind - ⟨run, begun, -⟩
    rw [Refresh.run?, waits refresh present number] at begun
    cases begun
  · intro refresh present number run fetching
    cases (waits refresh present number).symm.trans fetching

/-- Everybody is attended to after a caller, when whoever was scheduled is woken. -/
theorem InHand.caller {woken : Runner} (inHand : runner.InHand) (leads : Leads runner woken)
    (acted : runner.act? action = some after) (nobody : action.actor? = none)
    (tolerant : ∀ subject, action ≠ .invalidate subject) (still : after.now = runner.now)
    (wakes : Wakes after tasks woken)
    (started : ∀ events subject id, Move.started? ⟨runner.state, action, events, after.state⟩ =
      some (subject, id) → .refresh id subject ∈ tasks) : woken.InHand := by
  obtain ⟨events, taken, -, -, calls⟩ := of_act? acted
  have orderly := inHand.attributed.orderly
  have changed := Aggregation.change_of_step taken
  have spares := (spares_of_caller orderly acted nobody tolerant still).trans wakes.spares
  refine inHand.of_leads leads (wakes.calling ?_) fun refresh present => ?_
  · exact inHand.calling.act? orderly acted (calls ▸ List.Subset.refl _) fun call _ ends => by
      cases nobody.symm.trans (actor?_of_ends ends)
  · by_cases was : refresh ∈ runner.state.refreshes
    · exact (inHand.attended refresh was).of_spares spares
        (Nat.ne_of_lt (orderly.numbered refresh was))
    · rw [wakes.state] at present
      rcases changed.progress orderly present with ⟨old, here, progress⟩ | ⟨_, wanted, free, rfl⟩
      · -- It has a number that was given out before, so it was not scheduled now.
        have given : refresh.id ≠ runner.state.nextId :=
          progress.id_eq ▸ Nat.ne_of_lt (orderly.numbered old here)
        exact absurd (spares.others refresh (wakes.state.symm ▸ present) given) was
      · have began := Aggregation.started_of_fresh taken wanted free ⟨_, present, was⟩
        have awake := (wakes.ready _).mpr (Or.inr (started _ _ _ began))
        refine attends_of_scheduled (fun other there number => ?_) awake
        rw [wakes.state] at there
        rw [(orderly.change changed).eq_of_id there present number]

/-! ### What is done with a runner -/

theorem InHand.cached (inHand : runner.InHand) (subject : SubjectId) :
    (runner.cached subject).2.InHand := by
  have acted : runner.act? (.cached subject) = some (runner.act (.cached subject)) := rfl
  exact inHand.caller ((Leads.refl inHand.attributed).cached subject) acted rfl nofun rfl
    (wakes_wakeAll _ []) nofun

theorem InHand.sweep (inHand : runner.InHand) : runner.sweep.2.InHand := by
  have acted : runner.act? .sweep = some (runner.act .sweep) := rfl
  exact inHand.caller (Leads.refl inHand.attributed).sweep acted rfl nofun rfl
    (wakes_wakeAll _ []) nofun

/-- Whoever wants a refresh has it woken when it was scheduled. -/
theorem InHand.start {started : Option Nat} {woken : Runner} (inHand : runner.InHand)
    (leads : Leads runner woken)
    (wakes : woken = match started with
      | some id => after.wake (.refresh id subject)
      | none => after)
    (acted : runner.act? action = some after)
    (nobody : action.actor? = none) (tolerant : ∀ subject, action ≠ .invalidate subject)
    (still : after.now = runner.now)
    (tells : ∀ events, Move.started? ⟨runner.state, action, events, after.state⟩ =
      started.map (subject, ·)) : woken.InHand := by
  subst wakes
  cases started with
  | none =>
    refine inHand.caller leads acted nobody tolerant still (wakes_wakeAll _ []) ?_
    intro events other id started
    cases (tells events).symm.trans started
  | some number =>
    refine inHand.caller leads acted nobody tolerant still (wakes_wake _ _) ?_
    intro events other id started
    obtain ⟨rfl, rfl⟩ := Prod.mk.inj (Option.some.inj ((tells events).symm.trans started))
    exact List.mem_cons_self

theorem InHand.snapshot (inHand : runner.InHand) (subject : SubjectId) :
    (runner.snapshot subject).2.InHand := by
  have led := (Leads.refl inHand.attributed).snapshot subject
  have still : (runner.state.snapshot subject).2.2.now = runner.state.now := by
    cases found : (runner.state.cached subject).1 with
    | some snapshot =>
      rw [Aggregation.snapshot_of_some found]
      rfl
    | none =>
      rw [Aggregation.snapshot_of_none found]
      exact Aggregation.schedule_now _ _
  have acted : runner.act? (.snapshot subject) = some (runner.act (.snapshot subject)) := rfl
  exact inHand.start led (snapshot_snd runner subject) acted rfl nofun still fun _ => rfl

/-- Whoever asks is told whether a refresh was scheduled. -/
theorem schedule_fst (runner : Runner) (subject : SubjectId) :
    (runner.schedule subject).1 = (runner.state.schedule subject).1.isSome := by
  unfold schedule
  cases (runner.state.schedule subject).1 <;> rfl

theorem schedule_snd (runner : Runner) (subject : SubjectId) :
    (runner.schedule subject).2 =
      match (runner.state.schedule subject).1 with
      | some id => (runner.act (.schedule subject)).wake (.refresh id subject)
      | none => runner.act (.schedule subject) := by
  unfold schedule
  cases (runner.state.schedule subject).1 <;> rfl

theorem Leads.schedule (leads : Leads before runner) (subject : SubjectId) :
    Leads before (runner.schedule subject).2 := by
  have asked : Leads before (runner.act (.schedule subject)) := leads.act trivial
  rw [schedule_snd]
  split
  · rename_i id scheduled
    have owns : (runner.act (.schedule subject)).state.Owns subject id :=
      Aggregation.owns_of_flight asked.attributed.orderly
        (Aggregation.flight?_of_schedule scheduled)
    exact asked.trans ((refl asked.attributed).wake owns)
  · exact asked

theorem InHand.schedule (inHand : runner.InHand) (subject : SubjectId) :
    (runner.schedule subject).2.InHand := by
  have led := (Leads.refl inHand.attributed).schedule subject
  have acted : runner.act? (.schedule subject) = some (runner.act (.schedule subject)) := rfl
  exact inHand.start led (schedule_snd runner subject) acted rfl nofun
    (Aggregation.schedule_now runner.state subject) fun _ => rfl

/-- The catalog may be told to answer differently. -/
theorem InHand.instruct (inHand : runner.InHand) (catalog : Scripted) :
    { runner with catalog }.InHand := by
  obtain ⟨orderly, ready, alarms, calls⟩ := inHand.attributed
  exact ⟨⟨orderly, ready, alarms, calls⟩, inHand.lingering, inHand.calling, fun refresh present =>
    (inHand.attended refresh present).arrange rfl (List.Subset.refl _) fun _ _ _ set => set⟩

/-- A refresh that is cancelled is attended to when those of its fetches are woken that wait. -/
theorem attends_of_cancelled {number : Nat} (attends : before.Attends number subject)
    (orderly : Orderly after.state) (spares : Spares number before after)
    (own : ∀ refresh ∈ after.state.refreshes, refresh.id = number →
      ∃ old ∈ before.state.refreshes, refresh = { old with cancelled := true }) :
    (after.wakeWaiting number subject).Attends number subject := by
  obtain ⟨tasks, wakes, -, woken⟩ := after.wakes_wakeWaiting number subject
  have all : Spares number before (after.wakeWaiting number subject) := spares.trans wakes.spares
  refine ⟨⟨?_, ?_⟩, ?_⟩
  all_goals
    rw [wakes.state]
    intro refresh present other
    obtain ⟨old, was, rfl⟩ := own refresh present other
  · rintro kind idle ⟨run, begun, unstarted | ⟨-, waiting⟩⟩
    · exact all.ready (attends.fetchDue old was other kind idle ⟨run, begun, Or.inl unstarted⟩)
    · have found := orderly.refresh?_of_id present other
      exact (wakes.ready _).mpr (Or.inr (woken run (by rw [found]; exact begun) kind waiting))
  · intro run fetching early
    rw [all.now, all.patience] at early
    rw [all.patience]
    exact all.alarms _ _ _ (attends.alarm old was other run fetching early)
  · intro due
    rw [all.now, all.patience] at due
    exact all.ready (attends.due old was other due)

theorem InHand.invalidate (inHand : runner.InHand) (subject : SubjectId) :
    (runner.invalidate subject).InHand := by
  have orderly := inHand.attributed.orderly
  have led := (Leads.refl inHand.attributed).invalidate subject
  have acted : runner.act? (.invalidate subject) = some (runner.act (.invalidate subject)) := rfl
  have still : (runner.act (.invalidate subject)).now = runner.now :=
    Aggregation.invalidate_now runner.state subject
  have kept : (runner.act (.invalidate subject)).Calling :=
    inHand.calling.act? orderly acted (List.Subset.refl _) fun _ _ => nofun
  unfold Runner.invalidate at led ⊢
  cases flight : runner.state.flight? subject with
  | none =>
    simp only [flight] at led ⊢
    have same : (runner.act (.invalidate subject)).state.refreshes = runner.state.refreshes := by
      show (runner.state.invalidate subject).refreshes = runner.state.refreshes
      rw [Aggregation.invalidate_of_none flight]
    refine inHand.of_leads led kept fun refresh present => ?_
    rw [same] at present
    refine (inHand.attended refresh present).of_spares (Spares.of_acted acted still ?_)
      (Nat.ne_of_lt (orderly.numbered refresh present))
    rw [same]
    exact fun _ there _ => there
  | some number =>
    simp only [flight] at led ⊢
    have owns := Aggregation.owns_of_flight orderly flight
    have spares : Spares number runner (runner.act (.invalidate subject)) := by
      refine Spares.of_acted acted still fun refresh present different => ?_
      rcases Aggregation.of_mem_invalidate flight present with ⟨-, was⟩ | ⟨old, -, number, rfl⟩
      · exact was
      · exact absurd number different
    obtain ⟨tasks, wakes, -, -⟩ :=
      (runner.act (.invalidate subject)).wakes_wakeWaiting number subject
    refine inHand.of_leads led (wakes.calling kept) fun refresh present => ?_
    rw [wakes.state] at present
    rcases Aggregation.of_mem_invalidate flight present with
      ⟨different, was⟩ | ⟨old, was, number, rfl⟩
    · exact (inHand.attended refresh was).of_spares (spares.trans wakes.spares) different
    · show Attends _ old.id old.subject
      rw [number, owns.owner old was number]
      refine attends_of_cancelled (inHand.attended.attends owns)
        (wakes.state ▸ led.attributed.orderly) spares fun other there same => ?_
      rcases Aggregation.of_mem_invalidate flight there with ⟨different, -⟩ | ⟨old, was, -, rfl⟩
      · exact absurd same different
      · exact ⟨old, was, rfl⟩

theorem InHand.fetchListings (inHand : runner.InHand) (subject : SubjectId) (timeout : Span) :
    (runner.fetchListings subject timeout).2.InHand := by
  have counted := inHand.instruct (count runner.catalog .listings)
  unfold Runner.fetchListings
  simp only
  split
  · exact counted
  · exact counted.reach _

end Runner

/-- What callers, whoever runs the catalog, the scheduler and the clock can do. -/
inductive Errand where
  /-- Someone reads a dashboard. -/
  | read (subject : SubjectId)
  /-- Someone looks a dashboard up. -/
  | lookUp (subject : SubjectId)
  /-- Someone asks for a refresh. -/
  | ask (subject : SubjectId)
  /-- Someone has an account invalidated. -/
  | invalidate (subject : SubjectId)
  /-- Dashboards that are no longer live are removed. -/
  | sweep
  /-- Someone asks the catalog for the listings of an account and waits. -/
  | list (subject : SubjectId) (timeout : Span)
  /-- The catalog answers differently from now on. -/
  | instruct (catalog : Scripted)
  /-- So many tasks take their turns, if as many can go on. -/
  | take (turns : Nat)
  /-- Time passes from alarm to alarm. -/
  | sleep (nanos : Nat)
  /-- Time passes at once, and the alarms on the way go off then. -/
  | jump (millis : Nat)

namespace Runner

/-- The runner after something was done. -/
def perform (runner : Runner) : Errand → Runner
  | .read subject => (runner.snapshot subject).2
  | .lookUp subject => (runner.cached subject).2
  | .ask subject => (runner.schedule subject).2
  | .invalidate subject => runner.invalidate subject
  | .sweep => runner.sweep.2
  | .list subject timeout => (runner.fetchListings subject timeout).2
  | .instruct catalog => { runner with catalog }
  | .take count => turns count runner
  | .sleep nanos => runner.sleep nanos
  | .jump millis => (runner.waitUntil (runner.now + (millis * nanosPerMilli : Nat))).ring

variable {runner : Runner}

/-- Whatever is done, nobody is forgotten. -/
theorem InHand.perform (inHand : runner.InHand) (errand : Errand) :
    (runner.perform errand).InHand := by
  cases errand with
  | read subject => exact inHand.snapshot subject
  | lookUp subject => exact inHand.cached subject
  | ask subject => exact inHand.schedule subject
  | invalidate subject => exact inHand.invalidate subject
  | sweep => exact inHand.sweep
  | list subject timeout => exact inHand.fetchListings subject timeout
  | instruct catalog => exact inHand.instruct catalog
  | take count => exact inHand.turns count
  | sleep nanos => exact inHand.sleep nanos
  | jump millis => exact inHand.ring _

/-- Whatever is done, only steps of the aggregation are taken. -/
theorem Attributed.perform (attributed : runner.Attributed) (errand : Errand) :
    ∃ moves, Trace Aggregation.step? runner.state moves (runner.perform errand).state := by
  have here := Leads.refl attributed
  cases errand with
  | read subject => exact (here.snapshot subject).trace
  | lookUp subject => exact (here.cached subject).trace
  | ask subject => exact (here.schedule subject).trace
  | invalidate subject => exact (here.invalidate subject).trace
  | sweep => exact here.sweep.trace
  | list subject timeout => exact (here.fetchListings subject timeout).trace
  | instruct catalog => exact ⟨[], .nil⟩
  | take count => exact (here.turns count).trace
  | sleep nanos => exact (here.sleep nanos).trace
  | jump millis => exact (here.waitUntil _).ring.trace

/-- What holds of every runner holds after all that is done in turn, and only steps of the
aggregation have been taken. -/
theorem InHand.performAll (inHand : runner.InHand) (errands : List Errand) :
    (errands.foldl Runner.perform runner).InHand ∧
      ∃ moves, Trace Aggregation.step? runner.state moves
        (errands.foldl Runner.perform runner).state := by
  induction errands generalizing runner with
  | nil => exact ⟨inHand, [], .nil⟩
  | cons errand rest inductionHypothesis =>
    obtain ⟨moves, trace⟩ := inHand.attributed.perform errand
    obtain ⟨kept, others, later⟩ := inductionHypothesis (inHand.perform errand)
    exact ⟨kept, moves ++ others, trace.append later⟩

end Runner

end UserDashboard.Dashboard
