/-
This file proves that a sweeper that is computed at once, from one operation to the next, is one
that takes its turns step by step.

Its task takes all turns that it can take before anything else happens. So between two operations
it waits for its next tick, or has ended, and what is true of every run of the task is true of what
is computed.
-/

import UserDashboard.Proofs.Cache.Schedule
import UserDashboard.Proofs.Cache.Stopping

namespace UserDashboard.Cache

open Time

namespace Supervision

variable {S : Type}

/-! ### The sweeper that is computed -/

/-- A sweeper that is computed is shown by one that takes steps and has come to rest. -/
inductive Shows : Supervision S → Sweeping S → Prop where
  /-- The task waits for its next tick, and nobody has stopped it. -/
  | running (now : Moment) (targets : List (Swept S)) (ticker : Ticker) :
      Shows ⟨now, targets, .waiting ticker, false, .quiet, .holding⟩
        ⟨now, targets, some (.running ticker)⟩
  /-- The task has ended by itself. -/
  | finished (now : Moment) (targets : List (Swept S)) :
      Shows ⟨now, targets, .ended, false, .quiet, .holding⟩ ⟨now, targets, some .finished⟩
  /-- The task has ended because it was stopped. -/
  | released (now : Moment) (targets : List (Swept S)) (aborted : Bool) (signal : Signal)
      {holder : Holder} (released : holder.isReleased = true) :
      Shows ⟨now, targets, .ended, aborted, signal, holder⟩ ⟨now, targets, none⟩

variable {state : Supervision S} {sweeping : Sweeping S} {ticker : Ticker} {target : Moment}

theorem Shows.waits (shows : state.Shows sweeping)
    (running : sweeping.handle = some (.running ticker)) : state.stage = .waiting ticker := by
  cases shows with
  | running now targets other =>
    obtain rfl := Handle.running.inj (Option.some.inj running)
    rfl
  | finished => cases running
  | released => cases running

variable [Sweepable S]

/-- Time passes for both. -/
theorem Shows.wait (shows : state.Shows sweeping) (ahead : sweeping.now ≤ target) :
    ∃ nanos next, state.step? (.wait nanos) = some (next, none) ∧
      next.Shows { sweeping with now := target } := by
  obtain ⟨nanos, rfl⟩ := Int.le.dest ahead
  refine ⟨nanos, _, rfl, ?_⟩
  cases shows with
  | running => exact .running _ _ _
  | finished => exact .finished _ _
  | released _ _ _ _ released => exact .released _ _ _ _ released

/-- Both answer a tick. -/
theorem Shows.tick (shows : state.Shows sweeping)
    (running : sweeping.handle = some (.running ticker)) (due : ticker.due ≤ sweeping.now) :
    ∃ next, state.step? .tick = some (next, none) ∧ next.Shows (sweeping.tick ticker) := by
  cases shows with
  | running now targets other =>
    obtain rfl := Handle.running.inj (Option.some.inj running)
    refine ⟨_, ?_, .running now _ (other.next now)⟩
    simp only [step?, tick?, turn?, Bool.false_eq_true, if_false, if_pos due, Option.map_some]
    rfl
  | finished => cases running
  | released => cases running

/-- Others sweep in both. -/
theorem Shows.sweep (shows : state.Shows sweeping) :
    ∃ next, state.step? .sweep = some (next, none) ∧ next.Shows sweeping.sweepOnce.2 := by
  refine ⟨_, rfl, ?_⟩
  cases shows with
  | running => exact .running _ _ _
  | finished => exact .finished _ _
  | released _ _ _ _ released => exact .released _ _ _ _ released

/-! ### Time that passes -/

/-- Reaching a moment and answering the ticks on the way is taking steps. -/
theorem Shows.runUntil (shows : state.Shows sweeping) (ahead : sweeping.now ≤ target)
    (bound : Nat) :
    ∃ steps next, Trace step? state steps next ∧ next.Shows (sweeping.runUntil target bound) := by
  induction bound generalizing state sweeping with
  | zero =>
    obtain ⟨nanos, next, waited, shown⟩ := shows.wait ahead
    exact ⟨_, next, .snoc .nil waited, shown⟩
  | succ bound inductionHypothesis =>
    unfold Sweeping.runUntil
    split
    · rename_i ticker running
      dsimp only
      split
      · rename_i soon
        obtain ⟨nanos, reached, waited, shown⟩ := shows.wait (now_le_wakesAt _ ticker.due)
        obtain ⟨ticked, answered, shown⟩ := shown.tick running (le_wakesAt _ _)
        obtain ⟨steps, next, trace, shown⟩ := inductionHypothesis shown soon
        exact ⟨_, next, (trace.cons answered).cons waited, shown⟩
      · obtain ⟨nanos, next, waited, shown⟩ := shows.wait ahead
        exact ⟨_, next, .snoc .nil waited, shown⟩
    · obtain ⟨nanos, next, waited, shown⟩ := shows.wait ahead
      exact ⟨_, next, .snoc .nil waited, shown⟩

theorem Shows.sleep (shows : state.Shows sweeping) (nanos : Nat) :
    ∃ steps next, Trace step? state steps next ∧ next.Shows (sweeping.sleep nanos) :=
  shows.runUntil (Int.le_add_of_nonneg_right (Int.natCast_nonneg _)) _

/-- A sweeper whose clock jumps answers ticks at the moment that is reached, if at all. -/
theorem Shows.jump (shows : state.Shows sweeping) (millis : Nat) :
    ∃ steps next, Trace step? state steps next ∧ next.Shows (sweeping.jump millis) := by
  obtain ⟨nanos, reached, waited, shown⟩ :=
    shows.wait (Int.le_add_of_nonneg_right (Int.natCast_nonneg (millis * nanosPerMilli)))
  unfold Sweeping.jump
  rw [Sweeping.settle_eq_runUntil]
  obtain ⟨steps, next, trace, shown⟩ := shown.runUntil (Int.le_refl _)
    (sweeping.tickBound (millis * nanosPerMilli))
  exact ⟨_, next, trace.cons waited, shown⟩

/-- Whatever passes is steps. -/
theorem Shows.passAll (shows : state.Shows sweeping) (passings : List Passing) :
    ∃ steps next, Trace step? state steps next ∧
      next.Shows (passings.foldl Sweeping.pass sweeping) := by
  induction passings generalizing state sweeping with
  | nil => exact ⟨[], state, .nil, shows⟩
  | cons passing rest inductionHypothesis =>
    have passed : ∃ steps next, Trace step? state steps next ∧
        next.Shows (sweeping.pass passing) := by
      cases passing with
      | sleep nanos => exact shows.sleep nanos
      | jump millis => exact shows.jump millis
      | sweep =>
        obtain ⟨next, taken, shown⟩ := shows.sweep
        exact ⟨_, next, .snoc .nil taken, shown⟩
    obtain ⟨steps, reached, trace, shown⟩ := passed
    obtain ⟨others, next, more, shown⟩ := inductionHypothesis shown
    exact ⟨_, next, trace.append more, shown⟩

/-! ### The beginning and the end -/

/-- A sweeper that was started has taken its first turn. -/
theorem shows_start (initial : Sweeping S) (period : Span) :
    ∃ state, (spawn initial.now initial.targets period).step? .begin = some (state, none) ∧
      state.Shows (initial.start period) := by
  refine ⟨_, rfl, ?_⟩
  show Shows ⟨_, _, .first initial.now period, _, _, _⟩ _
  unfold Stage.first Sweeping.start
  cases Ticker.start? period initial.now with
  | none => exact .finished _ _
  | some ticker =>
    by_cases empty : period.nanos = 0
    · simp only [if_pos empty]
      exact .finished _ _
    · simp only [if_neg empty]
      exact .running _ _ _

/-- A handle that is given up is let go in steps. -/
theorem Shows.drop (shows : state.Shows sweeping) (held : sweeping.handle.isSome = true) :
    ∃ steps next, Trace step? state steps next ∧ next.Shows sweeping.drop ∧ next.Settled ∧
      ∃ step ∈ steps, step.action = .drop := by
  cases shows with
  | running now targets ticker =>
    have dropped : (⟨now, targets, .waiting ticker, false, .quiet, .holding⟩ :
        Supervision S).step? .drop =
        some (⟨now, targets, .waiting ticker, false, Signal.quiet.close, .gone⟩, none) := rfl
    have heeded : (⟨now, targets, .waiting ticker, false, Signal.quiet.close, .gone⟩ :
        Supervision S).step? .heed =
        some (⟨now, targets, .ended, false, Signal.quiet.close, .gone⟩, none) := rfl
    exact ⟨_, _, .snoc (.snoc .nil dropped) heeded, .released _ _ _ _ rfl, settled_of_ended rfl,
      _, .head _, rfl⟩
  | finished now targets =>
    have dropped : (⟨now, targets, .ended, false, .quiet, .holding⟩ : Supervision S).step? .drop =
        some (⟨now, targets, .ended, false, Signal.quiet.close, .gone⟩, none) := rfl
    exact ⟨_, _, .snoc .nil dropped, .released _ _ _ _ rfl, settled_of_ended rfl, _, .head _, rfl⟩
  | released => cases held

/-- While the clock can tell the moment, no time at all is the only grace that is over at once. -/
theorem waitsUntil_le_iff {now : Moment} {grace : Span} (tells : (later? now .zero).isSome = true) :
    waitsUntil now grace ≤ now ↔ grace.nanos = 0 := by
  have ahead : ∀ (now : Int) (nanos : Nat), now + nanos ≤ now ↔ nanos = 0 := by omega
  unfold waitsUntil
  cases told : later? now grace with
  | some deadline =>
    rw [eq_of_later? told]
    exact ahead now grace.nanos
  | none =>
    have never : ¬now + (farOff : Int) ≤ now := fun past =>
      absurd ((ahead now farOff).mp past) (by decide)
    refine iff_of_false never fun empty => ?_
    obtain ⟨nanos, bounded⟩ := grace
    obtain rfl : nanos = 0 := empty
    rw [show later? now .zero = none from told] at tells
    cases tells

/-- A sweeper that is stopped ends in steps, and what is said of it is what the holder is told. -/
theorem Shows.shutdown (shows : state.Shows sweeping)
    (tells : (later? sweeping.now .zero).isSome = true) {grace : Span} {clean : Bool}
    (told : (sweeping.shutdown grace.nanos).1 = some clean) :
    ∃ steps next, Trace step? state steps next ∧
      next.Shows (sweeping.shutdown grace.nanos).2 ∧ ∃ step ∈ steps, step.output = some clean := by
  cases shows with
  | running now targets ticker =>
    obtain rfl : decide (0 < grace.nanos) = clean := Option.some.inj told
    have stopped : (⟨now, targets, .waiting ticker, false, .quiet, .holding⟩ :
        Supervision S).step? (.shutdown grace) =
        some (look ⟨now, targets, .waiting ticker, false, Signal.quiet.send, .holding⟩
          (waitsUntil now grace)) := rfl
    rcases look_cases ⟨now, targets, .waiting ticker, false, Signal.quiet.send, .holding⟩
      (waitsUntil now grace) with ⟨ended, -⟩ | ⟨-, past, same⟩ | ⟨-, early, same⟩
    · cases ended
    · -- The task is aborted.
      rw [same] at stopped
      have cancelled : (⟨now, targets, .waiting ticker, true, Signal.quiet.send.close,
          .answered false⟩ : Supervision S).step? .cancel =
          some (⟨now, targets, .ended, true, Signal.quiet.send.close, .answered false⟩, none) := rfl
      rw [decide_eq_false (Nat.not_lt.mpr (Nat.le_of_eq ((waitsUntil_le_iff tells).mp past)))]
      exact ⟨_, _, .snoc (.snoc .nil stopped) cancelled, .released _ _ _ _ rfl, _, .head _, rfl⟩
    · -- The task sees the signal before the grace is over.
      rw [same] at stopped
      have heeded : (⟨now, targets, .waiting ticker, false, Signal.quiet.send,
          .waiting (waitsUntil now grace)⟩ : Supervision S).step? .heed =
          some (⟨now, targets, .ended, false, ⟨true, false, false⟩,
            .waiting (waitsUntil now grace)⟩, none) := rfl
      have looked : (⟨now, targets, .ended, false, ⟨true, false, false⟩,
          .waiting (waitsUntil now grace)⟩ : Supervision S).step? .look =
          some (⟨now, targets, .ended, false, ⟨true, false, true⟩, .answered true⟩, some true) :=
        rfl
      have positive := Nat.pos_of_ne_zero fun empty =>
        Int.not_le.mpr early ((waitsUntil_le_iff tells).mpr empty)
      rw [decide_eq_true positive]
      exact ⟨_, _, .snoc (.snoc (.snoc .nil stopped) heeded) looked, .released _ _ _ _ rfl,
        _, .tail _ (.tail _ (.head _)), rfl⟩
  | finished now targets =>
    obtain rfl : true = clean := Option.some.inj told
    have stops : (⟨now, targets, .ended, false, .quiet, .holding⟩ :
        Supervision S).step? (.shutdown grace) =
        some (⟨now, targets, .ended, false, Signal.quiet.send.close, .answered true⟩, some true) :=
      rfl
    exact ⟨_, _, .snoc .nil stops, .released _ _ _ _ rfl, _, .head _, rfl⟩
  | released => cases told

end Supervision

end UserDashboard.Cache
