/-
This file proves that a sweeper sweeps once for each period until it is stopped, and never after.

Sleeps may split the periods anywhere. Between them the sweeper is on schedule: it has swept in the
first millisecond after each period, and its next tick is not due. A jump of the clock leaves one
tick to be answered at the moment that is reached, and a second one only if a period is no longer
than the tolerance. Out of these sweeps the stores are made, and once the sweeper was stopped out of
those of others.
-/

import Mathlib.Algebra.Order.Ring.Nat
import UserDashboard.Proofs.Cache.Supervised

namespace UserDashboard.Cache

open Time

namespace Supervision

variable {S : Type} [Sweepable S] {initial sweeping : Sweeping S} {period : Span}
  {state : Supervision S} {steps : Run S} {target : Moment} {count : Nat}

/-! ### Sleeps -/

/-- When a sweeper sweeps that was started at a moment and only sleeps. -/
def sweepMoments (start : Moment) (period : Span) (count : Nat) : List Moment :=
  (List.range count).map fun index => wakesAt start (start + ((index + 1) * period.nanos : Nat))

/-- A sweeper that has done nothing but sleep since it was started has swept so often, each time
when a period was over, and has not passed the next tick. -/
structure OnSchedule (initial : Sweeping S) (period : Span) (count : Nat)
    (sweeping : Sweeping S) : Prop where
  whole : IsWholeAfter initial.now sweeping.now
  since : initial.now + (count * period.nanos : Nat) ≤ sweeping.now
  next : sweeping.handle =
    some (.running ⟨period, initial.now + ((count + 1) * period.nanos : Nat)⟩)
  early : sweeping.now ≤ wakesAt initial.now (initial.now + ((count + 1) * period.nanos : Nat))
  made : sweeping.targets = sweptAt (sweepMoments initial.now period count) initial.targets

theorem onSchedule_start (running : (initial.start period).isFinished? = some false) :
    0 < period.nanos ∧ OnSchedule initial period 0 (initial.start period) := by
  have goesOn : ¬(later? initial.now period = none ∨ period.nanos = 0) := by
    rw [← initial.isFinished?_start_iff, running]
    nofun
  obtain ⟨told, nonempty⟩ := not_or.mp goesOn
  obtain ⟨due, told⟩ := Option.ne_none_iff_exists'.mp told
  obtain rfl := eq_of_later? told
  refine ⟨Nat.pos_of_ne_zero nonempty, .refl _, ?_, ?_, now_le_wakesAt _ _, rfl⟩
  · rw [Nat.zero_mul]
    exact Int.le_of_eq (Int.add_zero _)
  · rw [Nat.zero_add, Nat.one_mul]
    simp only [Sweeping.start, Ticker.start?, told, Option.map_some, if_neg nonempty]

/-- The next tick is noticed when the period is over, from wherever it is waited for. -/
theorem OnSchedule.wakesAt_eq (onSchedule : OnSchedule initial period count sweeping) :
    wakesAt sweeping.now (initial.now + ((count + 1) * period.nanos : Nat)) =
      wakesAt initial.now (initial.now + ((count + 1) * period.nanos : Nat)) := by
  rcases Int.le_total sweeping.now (initial.now + ((count + 1) * period.nanos : Nat)) with
    ahead | past
  · exact onSchedule.whole.wakesAt_eq ahead
  · rw [wakesAt_of_le past]
    exact Int.le_antisymm onSchedule.early (onSchedule.whole.wakesAt_le_iff.mpr past)

/-- A tick keeps the schedule. -/
theorem OnSchedule.tick (onSchedule : OnSchedule initial period count sweeping) :
    let due := initial.now + ((count + 1) * period.nanos : Nat)
    OnSchedule initial period (count + 1)
      ({ sweeping with now := wakesAt sweeping.now due }.tick ⟨period, due⟩) := by
  dsimp only
  rw [onSchedule.wakesAt_eq]
  have ahead : initial.now ≤ initial.now + ((count + 1) * period.nanos : Nat) :=
    Int.le_add_of_nonneg_right (Int.natCast_nonneg _)
  have punctual : wakesAt initial.now (initial.now + ((count + 1) * period.nanos : Nat)) ≤
      initial.now + ((count + 1) * period.nanos : Nat) + tolerance :=
    Int.le_trans (Int.le_of_lt (wakesAt_lt ahead)) (Int.add_le_add_left (by decide) _)
  have next : (⟨period, initial.now + ((count + 1) * period.nanos : Nat)⟩ : Ticker).next
      (wakesAt initial.now (initial.now + ((count + 1) * period.nanos : Nat))) =
      ⟨period, initial.now + ((count + 1 + 1) * period.nanos : Nat)⟩ := by
    rw [add_succ_mul initial.now (count + 1)]
    exact congrArg (Ticker.mk period) (Ticker.due_next_of_le punctual)
  refine ⟨isWholeAfter_wakesAt _ _, le_wakesAt _ _, congrArg (some ∘ Handle.running) next, ?_, ?_⟩
  · rw [add_succ_mul initial.now (count + 1)]
    exact wakesAt_mono (Int.le_add_of_nonneg_right (Int.natCast_nonneg _))
  · rw [sweepMoments, List.range_succ, List.map_append, List.map_singleton, sweptAt_snoc,
      ← sweepMoments, ← onSchedule.made]
    rfl

/-- Letting time pass and answering ticks keeps the schedule, if the ticks are enough. -/
theorem OnSchedule.runUntil {bound : Nat} (onSchedule : OnSchedule initial period count sweeping)
    (whole : IsWholeAfter sweeping.now target)
    (enough : target <
      initial.now + ((count + 1) * period.nanos : Nat) + (bound * period.nanos : Nat)) :
    ∃ count, OnSchedule initial period count (sweeping.runUntil target bound) ∧
      target < initial.now + ((count + 1) * period.nanos : Nat) := by
  induction bound generalizing sweeping count with
  | zero =>
    rw [Nat.zero_mul] at enough
    have early := Int.lt_of_lt_of_le enough (Int.le_of_eq (Int.add_zero _))
    exact ⟨count, ⟨onSchedule.whole.trans whole, Int.le_trans onSchedule.since whole.le,
      onSchedule.next, Int.le_trans (Int.le_of_lt early) (le_wakesAt _ _), onSchedule.made⟩, early⟩
  | succ bound inductionHypothesis =>
    simp only [Sweeping.runUntil, onSchedule.next]
    by_cases soon : wakesAt sweeping.now (initial.now + ((count + 1) * period.nanos : Nat)) ≤ target
    · rw [if_pos soon]
      refine inductionHypothesis onSchedule.tick ((isWholeAfter_wakesAt _ _).of_le whole soon) ?_
      rw [Nat.succ_mul bound, Nat.add_comm (bound * _), Int.natCast_add, ← Int.add_assoc] at enough
      rwa [add_succ_mul initial.now (count + 1)]
    · rw [if_neg soon]
      have early := Int.not_le.mp fun due => soon (whole.wakesAt_le_iff.mpr due)
      exact ⟨count, ⟨onSchedule.whole.trans whole, Int.le_trans onSchedule.since whole.le, rfl,
        Int.le_trans (Int.le_of_lt early) (le_wakesAt _ _), onSchedule.made⟩, early⟩

/-- The ticks that are allowed for a sleep are enough. -/
theorem OnSchedule.sleep (onSchedule : OnSchedule initial period count sweeping)
    (positive : 0 < period.nanos) (nanos : Nat) :
    ∃ count, OnSchedule initial period count (sweeping.sleep nanos) ∧
      (sweeping.sleep nanos).now < initial.now + ((count + 1) * period.nanos : Nat) := by
  have bound : sweeping.tickBound (waking nanos) =
      (waking nanos + tolerance) / period.nanos + 2 := by
    simp only [Sweeping.tickBound, onSchedule.next]
  have ahead : initial.now ≤ initial.now + ((count + 1) * period.nanos : Nat) :=
    Int.le_add_of_nonneg_right (Int.natCast_nonneg _)
  have soon := Int.lt_of_le_of_lt onSchedule.early (wakesAt_lt ahead)
  have enough := Nat.lt_mul_div_succ (waking nanos + tolerance) positive
  have within : ∀ now due : Int, now < due + nanosPerMilli → now + waking nanos <
      due + (((waking nanos + tolerance) / period.nanos + 2) * period.nanos : Nat) := by
    intro now due soon
    rw [Nat.succ_mul, Nat.mul_comm]
    simp only [tolerance] at enough ⊢
    omega
  rw [Sweeping.sleep, Sweeping.now_runUntil, bound]
  exact onSchedule.runUntil (isWholeAfter_waking _ _) (within _ _ soon)

/-- However long it sleeps, and however often, it stays on schedule. -/
theorem OnSchedule.foldl_sleep (onSchedule : OnSchedule initial period count sweeping)
    (positive : 0 < period.nanos)
    (early : sweeping.now < initial.now + ((count + 1) * period.nanos : Nat)) (naps : List Nat) :
    ∃ count, OnSchedule initial period count (naps.foldl Sweeping.sleep sweeping) ∧
      (naps.foldl Sweeping.sleep sweeping).now = sweeping.now + (naps.map waking).sum ∧
      (naps.foldl Sweeping.sleep sweeping).now <
        initial.now + ((count + 1) * period.nanos : Nat) := by
  induction naps generalizing count sweeping with
  | nil => exact ⟨count, onSchedule, (Int.add_zero _).symm, early⟩
  | cons nanos naps inductionHypothesis =>
    obtain ⟨more, later, early⟩ := onSchedule.sleep positive nanos
    obtain ⟨last, kept, now, early⟩ := inductionHypothesis later early
    refine ⟨last, kept, ?_, early⟩
    rw [List.foldl_cons, now, Sweeping.sleep, Sweeping.now_runUntil, List.map_cons, List.sum_cons,
      Int.natCast_add, Int.add_assoc]

/-- A sweeper that sleeps has swept once for each period, when it was over. -/
theorem targets_of_naps (running : (initial.start period).isFinished? = some false)
    (naps : List Nat) :
    (naps.foldl Sweeping.sleep (initial.start period)).targets =
      sweptAt (sweepMoments initial.now period ((naps.map waking).sum / period.nanos))
        initial.targets := by
  obtain ⟨positive, onSchedule⟩ := onSchedule_start running
  have early : (initial.start period).now < initial.now + ((0 + 1) * period.nanos : Nat) := by
    rw [Nat.zero_add, Nat.one_mul]
    exact Int.lt_add_of_pos_right _ (Int.natCast_pos.mpr positive)
  obtain ⟨count, kept, now, early⟩ := onSchedule.foldl_sleep positive early naps
  have periods := eq_ediv_of_between kept.since early
  rw [now, Sweeping.start, Int.add_comm initial.now, Int.add_sub_cancel, ← Int.natCast_ediv]
    at periods
  rw [← Int.ofNat.inj periods]
  exact kept.made

/-! ### Jumps of the clock -/

theorem settle_of_early {ticker : Ticker} (running : sweeping.handle = some (.running ticker))
    (early : sweeping.now < ticker.due) (bound : Nat) : sweeping.settle bound = sweeping := by
  cases bound with
  | zero => rfl
  | succ bound => simp only [Sweeping.settle, running, if_neg (Int.not_le.mpr early)]

/-- At one moment there is at most one tick to be answered, if a period is longer than the
tolerance. -/
theorem exists_targets_settle {ticker : Ticker} (running : sweeping.handle = some (.running ticker))
    (long : tolerance < ticker.period.nanos) (bound : Nat) :
    ∃ late ≤ 1, (sweeping.settle bound).targets =
      sweptAt (List.replicate late sweeping.now) sweeping.targets := by
  cases bound with
  | zero => exact ⟨0, Nat.zero_le 1, rfl⟩
  | succ bound =>
    simp only [Sweeping.settle, running]
    by_cases due : ticker.due ≤ sweeping.now
    · have later : (sweeping.tick ticker).now < (ticker.next sweeping.now).due := by
        have next := ticker.le_due_next_add_tolerance sweeping.now
        have after : ∀ now due : Int, now + ticker.period.nanos ≤ due + tolerance → now < due := by
          omega
        exact after _ _ next
      rw [if_pos due, settle_of_early rfl later]
      exact ⟨1, Nat.le_refl 1, rfl⟩
    · rw [if_neg due]
      exact ⟨0, Nat.zero_le 1, rfl⟩

/-- The ticker of a sweeper keeps the period that it was started with. -/
theorem Shows.period_eq {ticker : Ticker} (shows : state.Shows sweeping)
    (trace : Trace step? (spawn initial.now initial.targets period) steps state)
    (running : sweeping.handle = some (.running ticker)) : ticker.period = period := by
  have next := (notEarly_of_trace trace).next
  rw [shows.waits running] at next
  exact next.1

/-- However far the clock jumps, there is at most one late sweep. -/
theorem Shows.targets_jump (shows : state.Shows sweeping)
    (trace : Trace step? (spawn initial.now initial.targets period) steps state)
    (long : tolerance < period.nanos) (millis : Nat) :
    ∃ late ≤ 1, (sweeping.jump millis).targets =
      sweptAt (List.replicate late (sweeping.now + (millis * nanosPerMilli : Nat)))
        sweeping.targets := by
  cases handle : sweeping.handle with
  | none =>
    refine ⟨0, Nat.zero_le 1, ?_⟩
    simp only [Sweeping.jump, Sweeping.tickBound, handle]
    rfl
  | some task =>
    cases task with
    | finished =>
      refine ⟨0, Nat.zero_le 1, ?_⟩
      simp only [Sweeping.jump, Sweeping.tickBound, handle]
      rfl
    | running ticker =>
      obtain rfl := shows.period_eq trace handle
      let moved : Sweeping S :=
        { sweeping with now := sweeping.now + (millis * nanosPerMilli : Nat) }
      have goes : moved.handle = some (.running ticker) := handle
      exact exists_targets_settle goes long _

/-! ### The end -/

/-- Whether someone else sweeps. -/
def sweeps : Passing → Bool
  | .sweep => true
  | .sleep _ | .jump _ => false

/-- When others sweep while this passes from a moment on. -/
def momentsOfOthers (now : Moment) : List Passing → List Moment
  | [] => []
  | .sleep nanos :: later => momentsOfOthers (now + waking nanos) later
  | .jump millis :: later => momentsOfOthers (now + (millis * nanosPerMilli : Nat)) later
  | .sweep :: later => now :: momentsOfOthers now later

theorem length_momentsOfOthers (now : Moment) (later : List Passing) :
    (momentsOfOthers now later).length = later.countP sweeps := by
  induction later generalizing now with
  | nil => rfl
  | cons passing later inductionHypothesis =>
    cases passing with
    | sleep nanos => exact inductionHypothesis _
    | jump millis => exact inductionHypothesis _
    | sweep =>
      rw [momentsOfOthers, List.length_cons, inductionHypothesis, List.countP_cons_of_pos rfl]

/-- Stores whose sweeper was given up are swept by others only. -/
theorem targets_of_released (released : sweeping.handle = none) (later : List Passing) :
    (later.foldl Sweeping.pass sweeping).targets =
      sweptAt (momentsOfOthers sweeping.now later) sweeping.targets := by
  obtain ⟨now, targets, handle⟩ := sweeping
  obtain rfl : handle = none := released
  induction later generalizing now targets with
  | nil => rfl
  | cons passing later inductionHypothesis =>
    cases passing with
    | sleep nanos => exact inductionHypothesis (now + waking nanos) targets
    | jump millis => exact inductionHypothesis (now + (millis * nanosPerMilli : Nat)) targets
    | sweep => exact inductionHypothesis now (sweepAll now targets).2

/-- What can be relied on in a sweeper that was started, whatever has passed since. -/
structure Reliable (initial : Sweeping S) (period : Span) (sweeping : Sweeping S) : Prop where
  /-- It is one that takes its turns step by step. -/
  run : ∃ steps state, Trace step? (spawn initial.now initial.targets period) steps state ∧
    state.Shows sweeping
  /-- However far the clock jumps, there is at most one late sweep, at the moment that is reached. -/
  jump : tolerance < period.nanos → ∀ millis, ∃ late ≤ 1,
    SweptMore late sweeping.targets (sweeping.jump millis).targets ∧
    (sweeping.jump millis).targets =
      sweptAt (List.replicate late (sweeping.now + (millis * nanosPerMilli : Nat)))
        sweeping.targets
  /-- Once it was stopped or given up, only others sweep. -/
  stopped : ∀ grace, ∀ stopped ∈ [(sweeping.shutdown grace).2, sweeping.drop],
    ∀ later : List Passing,
      SweptMore (later.countP sweeps) stopped.targets
        (later.foldl Sweeping.pass stopped).targets ∧
      (later.foldl Sweeping.pass stopped).targets =
        sweptAt (momentsOfOthers stopped.now later) stopped.targets
  /-- Whoever stops it is told what is told to one who does so step by step. -/
  shutdown : (later? sweeping.now .zero).isSome = true → ∀ grace : Span,
    ∃ clean steps state, (sweeping.shutdown grace.nanos).1 = some clean ∧
      Trace step? (spawn initial.now initial.targets period) steps state ∧
      state.Shows (sweeping.shutdown grace.nanos).2 ∧ ∃ step ∈ steps, step.output = some clean
  /-- Given up, it comes to rest. -/
  drop : ∃ steps state, Trace step? (spawn initial.now initial.targets period) steps state ∧
    state.Shows sweeping.drop ∧ state.Settled ∧ ∃ step ∈ steps, step.action = .drop

theorem reliable_of_passings (running : (initial.start period).isFinished? = some false)
    (passings : List Passing) :
    Reliable initial period (passings.foldl Sweeping.pass (initial.start period)) := by
  obtain ⟨begun, taken, shows⟩ := shows_start initial period
  obtain ⟨steps, state, trace, shows⟩ := shows.passAll passings
  have trace := trace.cons taken
  have goesOn := (initial.start period).isFinished?_foldl_pass passings
  rw [running] at goesOn
  generalize passings.foldl Sweeping.pass (initial.start period) = sweeping at shows goesOn ⊢
  obtain ⟨handle, held, -⟩ := Option.map_eq_some_iff.mp goesOn
  refine ⟨⟨_, state, trace, shows⟩, fun long millis => ?_, fun grace stopped either later => ?_,
    fun tells grace => ?_, ?_⟩
  · obtain ⟨late, atMost, made⟩ := shows.targets_jump trace long millis
    have swept := sweptMore_sweptAt
      (List.replicate late (sweeping.now + (millis * nanosPerMilli : Nat))) sweeping.targets
    rw [List.length_replicate, ← made] at swept
    exact ⟨late, atMost, swept, made⟩
  · have released : stopped.handle = none := by
      rcases List.mem_pair.mp either with rfl | rfl <;> rfl
    have made := targets_of_released released later
    have swept := sweptMore_sweptAt (momentsOfOthers stopped.now later) stopped.targets
    rw [← made, length_momentsOfOthers] at swept
    exact ⟨swept, made⟩
  · have told : ((sweeping.shutdown grace.nanos).1).isSome = true := by
      simp only [Sweeping.shutdown, held, Option.map_some, Option.isSome_some]
    obtain ⟨clean, told⟩ := Option.isSome_iff_exists.mp told
    obtain ⟨more, next, later, shown, member⟩ := shows.shutdown tells told
    obtain ⟨step, member, output⟩ := member
    exact ⟨clean, _, next, told, trace.append later, shown, step,
      List.mem_append_right _ member, output⟩
  · obtain ⟨more, next, later, shown, settled, step, member, drops⟩ :=
      shows.drop (Option.isSome_iff_exists.mpr ⟨handle, held⟩)
    exact ⟨_, next, trace.append later, shown, settled, step, List.mem_append_right _ member, drops⟩

/-! ### Every run -/

/-- What is true of every run of a sweeper, in whatever order turns are taken. -/
structure Regular (start : Moment) (targets : List (Swept S)) (period : Span) (steps : Run S)
    (state : Supervision S) : Prop where
  /-- The task and others sweep, and nobody else. -/
  swept : SweptMore (tickCount steps + otherCount steps) targets state.targets
  /-- The stores are what these sweeps and those who use the stores make of them. -/
  made : state.targets = steps.foldl
    (fun targets step => step.action.effect step.before.now targets) targets
  /-- The task has not swept more often than periods have passed. -/
  early : start + (tickCount steps * period.nanos : Nat) ≤ state.now
  /-- It has swept exactly as often if time never passes what it is to do, but for the tolerance. -/
  exact : ∀ ticker, (∀ step ∈ steps, Prompt step) → state.stage = .waiting ticker →
    state.now < ticker.due → (tickCount steps : Int) = (state.now - start) / period.nanos
  /-- Ticks are a period apart but for the tolerance. -/
  apart : steps.Pairwise fun earlier later => earlier.action.ticks = true →
    later.action.ticks = true →
      earlier.before.now + (period.nanos : Int) ≤ later.before.now + (tolerance : Int)
  /-- Once the holder was told that it is stopped, or has given the handle up and the task has come
  to rest, the task never sweeps again. -/
  stopped : Stopped steps state → ∀ more last, Trace step? state more last →
    tickCount more = 0 ∧ SweptMore (otherCount more) state.targets last.targets
  /-- A task that has ended stays so. -/
  ended : steps.Pairwise fun earlier later =>
    earlier.before.stage = .ended → later.before.stage = .ended
  /-- The holder is told whether the task has ended, and that it has not only after the grace. -/
  told : ∀ step ∈ steps, ∀ clean, step.output = some clean →
    clean = step.before.stage.isEnded ∧
      (clean = false → ∃ call ∈ steps, ∃ grace, call.action = .shutdown grace ∧
        waitsUntil call.before.now grace ≤ step.before.now)

theorem regular_of_trace {start : Moment} {targets : List (Swept S)}
    (trace : Trace step? (spawn start targets period) steps state) :
    Regular start targets period steps state where
  swept := sweptMore_of_trace trace
  made := targets_of_trace trace
  early := (notEarly_of_trace trace).since
  exact _ := tickCount_of_prompt trace
  apart := apart_of_trace trace
  stopped stopped _ _ later := (stopped.isOver trace).of_trace later
  ended := ended_of_trace trace
  told _ member _ := told_of_trace trace member

/-- However often a sweeper that runs sleeps, and for however long, it sweeps every store once for
each period that has passed since it was started, when the period is over. Whatever passes, a jump
of the clock leaves one late sweep at most if a period is longer than the tolerance, and once the
sweeper was stopped or given up only others sweep. And whoever takes turns, and in whatever order,
no tick is answered early, nor is any once the holder knows that the sweeper is stopped, or once the
handle was given up and the task has come to rest. The holder is told that the task has not ended
only if it had not when the grace was over. -/
theorem schedule_kept_until_stopped
    (running : (initial.start period).isFinished? = some false) :
    (∀ naps : List Nat,
      let sweeps := (naps.map waking).sum / period.nanos
      let targets := (naps.foldl Sweeping.sleep (initial.start period)).targets
      SweptMore sweeps initial.targets targets ∧
        targets = sweptAt (sweepMoments initial.now period sweeps) initial.targets) ∧
    (∀ passings : List Passing,
      Reliable initial period (passings.foldl Sweeping.pass (initial.start period))) ∧
    ∀ steps state, Trace step? (spawn initial.now initial.targets period) steps state →
      Regular initial.now initial.targets period steps state := by
  refine ⟨fun naps => ?_, reliable_of_passings running, fun steps state => regular_of_trace⟩
  have made := targets_of_naps running naps
  have swept := sweptMore_sweptAt
    (sweepMoments initial.now period ((naps.map waking).sum / period.nanos)) initial.targets
  rw [← made, sweepMoments, List.length_map, List.length_range] at swept
  exact ⟨swept, made⟩

/-- Two maps that are swept, one of which was swept before. -/
def twoMaps : Sweeping (ExpiringMap Nat Nat) where
  now := 0
  targets := [⟨.new (.ofMillis 12) 2, 0⟩, ⟨.new (.ofMillis 12) 2, 7⟩]
  handle := none

/-- With a period of ten milliseconds there are three sweeps within thirty, and one when the clock
jumps. The task finds a tick and the signal to stop at once and answers the tick. When five
milliseconds of grace are over it has not ended, but it never answers another tick. -/
theorem schedule_kept_until_stopped_of_race :
    (twoMaps.start (.ofMillis 10)).isFinished? = some false ∧
    SweptMore 3 twoMaps.targets
      ([4000000, 26000000].foldl Sweeping.sleep (twoMaps.start (.ofMillis 10))).targets ∧
    (∃ late ≤ 1, SweptMore late (twoMaps.start (.ofMillis 10)).targets
      ((twoMaps.start (.ofMillis 10)).jump 1000).targets) ∧
    ∃ steps state, Trace step? (spawn 0 twoMaps.targets (.ofMillis 10)) steps state ∧
      steps.map (·.output) = [none, none, none, none, none, none, none, some false] ∧
      SweptMore 2 twoMaps.targets state.targets ∧
      (∀ more last, Trace step? state more last → tickCount more = 0) ∧
      ∃ call ∈ steps, ∃ grace, call.action = .shutdown grace ∧
        waitsUntil call.before.now grace ≤ 48000000 := by
  have running : (twoMaps.start (.ofMillis 10)).isFinished? = some false := by decide +kernel
  obtain ⟨steps, state, trace, checked⟩ := Trace.exists_of_run? step?
    (spawn 0 twoMaps.targets (.ofMillis 10))
    [.begin, .wait 10000000, .tick, .wait 33000000, .shutdown (.ofMillis 5), .tick, .wait 5000000,
      .look]
    (fun steps _ => steps.map (·.output) = [none, none, none, none, none, none, none, some false] ∧
      tickCount steps = 2 ∧ otherCount steps = 0 ∧
      ∃ step ∈ steps, step.output = some false ∧ step.before.now = 48000000) (by decide +kernel)
  obtain ⟨outputs, ticks, others, step, member, told, now⟩ := of_decide_eq_true checked
  obtain ⟨slept, reliable, regular⟩ := schedule_kept_until_stopped running
  have regular := regular steps state trace
  have swept := regular.swept
  rw [ticks, others] at swept
  have stopped : Stopped steps state := Or.inl ⟨step, member, Option.isSome_of_eq_some told⟩
  have past := (regular.told step member false told).2 rfl
  rw [now] at past
  obtain ⟨late, atMost, jumped, -⟩ := (reliable []).jump (by decide) 1000
  exact ⟨running, (slept [4000000, 26000000]).1, ⟨late, atMost, jumped⟩,
    steps, state, trace, outputs, swept, fun more last later =>
      (regular.stopped stopped more last later).1, past⟩

end Supervision

end UserDashboard.Cache
