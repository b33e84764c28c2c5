/-
This file proves when a sweeper runs, and that no tick is left undone.

Whether it runs is settled when it is started: a period of no length cannot be kept, nor one whose
end the clock cannot tell. After that no tick ends it, however time passes. A tick moves the next
one by a period at least, so there are never more ticks to be answered than are allowed for.
-/

import UserDashboard.Cache.Sweeper

namespace UserDashboard.Cache

open Time

/-! ### When the next tick is due -/

/-- However late a tick is, the next one is due within a period. -/
theorem Ticker.due_next_le {ticker : Ticker} {now : Moment} (due : ticker.due ≤ now) :
    (ticker.next now).due ≤ now + ticker.period.nanos := by
  refine Int.add_le_add_right ?_ _
  split
  · exact Int.le_refl _
  · exact due

theorem Ticker.due_le_of_late {ticker : Ticker} {now : Moment}
    (late : ticker.due + tolerance < now) : ticker.due ≤ now :=
  Int.le_trans (Int.le_add_of_nonneg_right (Int.natCast_nonneg tolerance)) (Int.le_of_lt late)

/-- A tick that is late delays the next one. -/
theorem Ticker.due_next_of_late {ticker : Ticker} {now : Moment}
    (late : ticker.due + tolerance < now) :
    (ticker.next now).due = now + ticker.period.nanos := by
  simp only [Ticker.next, if_pos late]

/-- A tick moves the next one by a period at least. -/
theorem Ticker.le_due_next (ticker : Ticker) (now : Moment) :
    ticker.due + ticker.period.nanos ≤ (ticker.next now).due := by
  refine Int.add_le_add_right ?_ _
  split
  · rename_i late
    exact Ticker.due_le_of_late late
  · exact Int.le_refl _

/-! ### Whether a sweeper runs -/

/-- What can happen to a sweeper that nobody stops. -/
inductive Passing where
  /-- Time passes, and each tick is answered when it is due. -/
  | sleep (nanos : Nat)
  /-- Time passes in one step. -/
  | jump (millis : Nat)
  /-- Someone else sweeps. -/
  | sweep

namespace Sweeping

variable {S : Type}

theorem isFinished?_start_iff (sweeping : Sweeping S) (period : Span) :
    (sweeping.start period).isFinished? = some true ↔
      later? sweeping.now period = none ∨ period.nanos = 0 := by
  unfold start isFinished? Ticker.start?
  cases later? sweeping.now period with
  | none => simp
  | some due => by_cases empty : period.nanos = 0 <;> simp [empty]

variable [Sweepable S]

/-- What it comes to. -/
def pass (sweeping : Sweeping S) : Passing → Sweeping S
  | .sleep nanos => sweeping.sleep nanos
  | .jump millis => sweeping.jump millis
  | .sweep => sweeping.sweepOnce.2

/-- Ticks that are answered do not end a sweeper. -/
theorem isFinished?_settle (sweeping : Sweeping S) (bound : Nat) :
    (settle bound sweeping).isFinished? = sweeping.isFinished? := by
  induction bound generalizing sweeping with
  | zero => rfl
  | succ bound inductionHypothesis =>
    unfold settle
    split
    · rename_i ticker running
      split
      · rw [inductionHypothesis]
        simp [isFinished?, tick, running]
      · rfl
    · rfl

theorem isFinished?_runUntil (sweeping : Sweeping S) (target : Moment) (bound : Nat) :
    (runUntil target bound sweeping).isFinished? = sweeping.isFinished? := by
  induction bound generalizing sweeping with
  | zero => rfl
  | succ bound inductionHypothesis =>
    unfold runUntil
    split
    · rename_i ticker running
      dsimp only
      split
      · rw [inductionHypothesis]
        simp [isFinished?, tick, running]
      · rfl
    · rfl

/-- However time passes, a sweeper that runs goes on, and one that has ended stays so. -/
theorem isFinished?_foldl_pass (sweeping : Sweeping S) (passings : List Passing) :
    (passings.foldl pass sweeping).isFinished? = sweeping.isFinished? := by
  induction passings generalizing sweeping with
  | nil => rfl
  | cons passing rest inductionHypothesis =>
    rw [List.foldl_cons, inductionHypothesis]
    cases passing with
    | sleep nanos => exact isFinished?_runUntil _ _ _
    | jump millis => exact isFinished?_settle _ _
    | sweep => rfl

/-! ### Time that passes while ticks are answered -/

theorem ticker_eq {handle : Option Handle} {ticker other : Ticker}
    (running : handle = some (.running ticker)) (again : handle = some (.running other)) :
    other = ticker :=
  Handle.running.inj (Option.some.inj (again.symm.trans running))

/-- No tick is due. -/
def Settled (sweeping : Sweeping S) : Prop :=
  ∃ ticker, sweeping.handle = some (.running ticker) ∧ sweeping.now < ticker.due

instance (sweeping : Sweeping S) : Decidable sweeping.Settled :=
  match handle : sweeping.handle with
  | some (.running ticker) =>
    if early : sweeping.now < ticker.due then isTrue ⟨ticker, handle, early⟩
    else isFalse fun ⟨_, again, soon⟩ => early (ticker_eq handle again ▸ soon)
  | some .finished => isFalse fun ⟨_, running, _⟩ => nomatch handle.symm.trans running
  | none => isFalse fun ⟨_, running, _⟩ => nomatch handle.symm.trans running

variable {sweeping : Sweeping S}

theorem settle_eq_runUntil (sweeping : Sweeping S) (bound : Nat) :
    sweeping.settle bound = sweeping.runUntil sweeping.now bound := by
  induction bound generalizing sweeping with
  | zero => rfl
  | succ bound inductionHypothesis =>
    unfold settle runUntil
    split
    · rename_i ticker running
      dsimp only
      split
      · rename_i due
        rw [wakesAt_of_le due, if_pos (Int.le_refl _)]
        exact inductionHypothesis (sweeping.tick ticker)
      · rename_i early
        rw [if_neg fun soon => early (Int.le_trans (le_wakesAt _ _) soon)]
    · rfl

/-- Whatever ticks are answered, the moment is reached. -/
theorem now_runUntil (sweeping : Sweeping S) (target : Moment) (bound : Nat) :
    (sweeping.runUntil target bound).now = target := by
  induction bound generalizing sweeping with
  | zero => rfl
  | succ bound inductionHypothesis =>
    unfold runUntil
    split
    · dsimp only
      split
      · exact inductionHypothesis _
      · rfl
    · rfl

/-- As many ticks are enough as there are periods until the moment to be reached. -/
theorem settled_runUntil {ticker : Ticker} {target : Moment} {bound : Nat}
    (running : sweeping.handle = some (.running ticker))
    (whole : IsWholeAfter sweeping.now target)
    (enough : target < ticker.due + (bound * ticker.period.nanos : Nat)) :
    (sweeping.runUntil target bound).Settled := by
  induction bound generalizing sweeping ticker with
  | zero =>
    rw [Nat.zero_mul] at enough
    exact ⟨ticker, running, Int.lt_of_lt_of_le enough (Int.le_of_eq (Int.add_zero _))⟩
  | succ bound inductionHypothesis =>
    unfold runUntil
    simp only [running]
    by_cases due : wakesAt sweeping.now ticker.due ≤ target
    · rw [if_pos due]
      have goes : ({ sweeping with now := wakesAt sweeping.now ticker.due }.tick ticker).handle =
          some (.running (ticker.next (wakesAt sweeping.now ticker.due))) := rfl
      refine inductionHypothesis goes ((isWholeAfter_wakesAt _ _).of_le whole due) ?_
      have rest : ticker.due + ((bound + 1) * ticker.period.nanos : Nat) =
          ticker.due + ticker.period.nanos + (bound * ticker.period.nanos : Nat) := by
        rw [Nat.succ_mul, Nat.add_comm, Int.natCast_add, Int.add_assoc]
      rw [rest] at enough
      exact Int.lt_of_lt_of_le enough (Int.add_le_add_right (ticker.le_due_next _) _)
    · rw [if_neg due]
      exact ⟨ticker, rfl, Int.not_le.mp fun soon => due (whole.wakesAt_le_iff.mpr soon)⟩

/-- A tick more is enough to start with, however late the first one is. -/
theorem settled_runUntil_succ {ticker : Ticker} {target : Moment} {nanos bound : Nat}
    (running : sweeping.handle = some (.running ticker))
    (whole : IsWholeAfter sweeping.now target) (near : target ≤ sweeping.now + nanos)
    (enough : nanos + tolerance < bound * ticker.period.nanos) :
    (sweeping.runUntil target (bound + 1)).Settled := by
  by_cases late : ticker.due + tolerance < sweeping.now
  · -- A late tick is answered at once, and those after it are a period apart.
    have due := Ticker.due_le_of_late late
    unfold runUntil
    simp only [running, wakesAt_of_le due, if_pos whole.le]
    have goes : (sweeping.tick ticker).handle = some (.running (ticker.next sweeping.now)) := rfl
    refine settled_runUntil goes whole ?_
    rw [Ticker.due_next_of_late late]
    have within : ∀ target now : Int, target ≤ now + nanos →
        target < now + ticker.period.nanos + (bound * ticker.period.nanos : Nat) := by omega
    exact within target sweeping.now near
  · refine settled_runUntil running whole ?_
    have within : ∀ target now due : Int, target ≤ now + nanos → ¬due + tolerance < now →
        target < due + ((bound + 1) * ticker.period.nanos : Nat) := by
      rw [Nat.succ_mul]
      omega
    exact within target sweeping.now ticker.due near late

/-- The ticks that are allowed for a length of time are enough for it. -/
theorem settled_of_tickBound {ticker : Ticker} {target : Moment} {nanos : Nat}
    (running : sweeping.handle = some (.running ticker)) (positive : 0 < ticker.period.nanos)
    (whole : IsWholeAfter sweeping.now target) (near : target ≤ sweeping.now + nanos) :
    (sweeping.runUntil target (sweeping.tickBound nanos)).Settled := by
  have bound : sweeping.tickBound nanos = (nanos + tolerance) / ticker.period.nanos + 1 + 1 := by
    simp only [tickBound, running]
  rw [bound]
  refine settled_runUntil_succ running whole near ?_
  rw [Nat.mul_comm]
  exact Nat.lt_mul_div_succ _ positive

end Sweeping

end UserDashboard.Cache
