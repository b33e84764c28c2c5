/-
This file proves when the task of a sweeper sweeps, in whatever order the task, the holder of its
handle and the users of the stores take their turns.

It never sweeps early: so many periods have passed since the start as it has swept. It has swept
exactly as often as periods have passed if time never passes what it is to do, but for the
tolerance. And ticks are a period apart but for the tolerance, so a task that finds itself late does
not catch up.
-/

import UserDashboard.Proofs.Cache.Sweeper
import UserDashboard.Proofs.Cache.SweeperTask

namespace UserDashboard.Cache

open Time

/-! ### What is due when -/

/-- A task with a period does not answer a tick before a moment. -/
def Stage.NotBefore (period : Span) (moment : Moment) : Stage → Prop
  | .spawned other => other = period
  | .waiting ticker => ticker.period = period ∧ moment ≤ ticker.due
  | .ended => True

/-- How a task with a period stands that has taken its turns in time and swept so often. -/
def Stage.OnTime (start : Moment) (period : Span) (count : Nat) (now : Moment) : Stage → Prop
  | .spawned other => other = period ∧ now = start ∧ count = 0
  | .waiting ticker => ticker.period = period ∧ now ≤ ticker.due + tolerance ∧
      ticker.due = start + ((count + 1) * period.nanos : Nat)
  | .ended => True

/-- Time that passes does not pass what the task is to do, its first turn or its next tick, which
may be late within the tolerance. -/
def Stage.Spares (now : Moment) (nanos : Nat) : Stage → Prop
  | .spawned _ => nanos = 0
  | .waiting ticker => now + nanos ≤ ticker.due + tolerance
  | .ended => True

namespace Stage

variable {period : Span} {now moment : Moment}

/-- The first tick is due a period after the first turn. -/
theorem first_cases (now : Moment) (period : Span) :
    first now period = .ended ∨
      0 < period.nanos ∧ first now period = .waiting ⟨period, now + period.nanos⟩ := by
  unfold first Ticker.start?
  cases told : later? now period with
  | none => exact Or.inl rfl
  | some due =>
    obtain rfl := eq_of_later? told
    by_cases empty : period.nanos = 0
    · exact Or.inl (if_pos empty)
    · exact Or.inr ⟨Nat.pos_of_ne_zero empty, if_neg empty⟩

theorem notBefore_first (soon : moment ≤ now + period.nanos) :
    (first now period).NotBefore period moment := by
  rcases first_cases now period with ends | ⟨-, waits⟩
  · rw [ends]
    trivial
  · rw [waits]
    exact ⟨rfl, soon⟩

end Stage

/-- The next tick is due a period after the last one but for the tolerance. -/
theorem Ticker.le_due_next_add_tolerance (ticker : Ticker) (now : Moment) :
    now + ticker.period.nanos ≤ (ticker.next now).due + tolerance := by
  simp only [Ticker.next]
  split
  · exact Int.le_add_of_nonneg_right (Int.natCast_nonneg tolerance)
  · rename_i punctual
    have soon := Int.add_le_add_right (Int.not_lt.mp punctual) ticker.period.nanos
    rwa [Int.add_right_comm] at soon

/-- A punctual tick is followed by one a period later. -/
theorem Ticker.due_next_of_le {ticker : Ticker} {now : Moment}
    (punctual : now ≤ ticker.due + tolerance) :
    (ticker.next now).due = ticker.due + ticker.period.nanos := by
  simp only [Ticker.next, if_neg (Int.not_lt.mpr punctual)]

namespace Supervision

variable {S : Type} [Sweepable S] {state after : Supervision S} {action : Action S}
  {output : Option Bool} {steps : Run S}

/-! ### When the task sweeps -/

variable {start moment : Moment} {period : Span} {targets : List (Swept S)} {count : Nat}

/-- The next tick is not due earlier after a step, nor is the first one. -/
theorem Change.notBefore (changed : Change state action output after)
    (before : state.stage.NotBefore period moment) (soon : moment ≤ state.now + period.nanos) :
    after.stage.NotBefore period moment := by
  cases changed with
  | used | swept | waited | dropped => exact before
  | began spawned =>
    rw [spawned] at before
    obtain rfl := before
    exact Stage.notBefore_first soon
  | @ticked ticker waits =>
    rw [waits] at before
    refine ⟨before.1, Int.le_trans before.2 (Int.le_trans ?_ (ticker.le_due_next state.now))⟩
    exact Int.le_add_of_nonneg_right (Int.natCast_nonneg _)
  | @heeded ticker stops signal waits =>
    rw [waits] at before
    cases stops with
    | true => trivial
    | false => exact before
  | cancelled => trivial
  | stopped | looked =>
    rw [look_stage]
    exact before

/-- A tick is answered when it is due. -/
theorem Change.due_of_ticks (changed : Change state action output after)
    (ticks : action.ticks = true) :
    ∃ ticker, state.stage = .waiting ticker ∧ ticker.due ≤ state.now ∧
      after = { state with
        targets := (sweepAll state.now state.targets).2
        stage := .waiting (ticker.next state.now) } := by
  cases changed with
  | ticked waits _ due => exact ⟨_, waits, due, rfl⟩
  | used | swept | waited | began | heeded | cancelled | stopped | looked | dropped => cases ticks

theorem add_succ_mul (start : Int) (count nanos : Nat) :
    start + ((count + 1) * nanos : Nat) = start + (count * nanos : Nat) + nanos := by
  rw [Nat.succ_mul, Int.natCast_add, Int.add_assoc]

/-- So many periods have passed as begin no later and end later. -/
theorem eq_ediv_of_between {start now : Int} {count nanos : Nat}
    (since : start + (count * nanos : Nat) ≤ now)
    (early : now < start + ((count + 1) * nanos : Nat)) :
    (count : Int) = (now - start) / nanos := by
  rw [add_succ_mul] at early
  have positive : (0 : Int) < nanos := by omega
  refine Int.le_antisymm ?_ (Int.lt_add_one_iff.mp ?_)
  · rw [Int.le_ediv_iff_mul_le positive, ← Int.natCast_mul]
    exact Int.le_sub_left_of_add_le since
  · rw [Int.ediv_lt_iff_lt_mul positive, Int.add_mul, Int.one_mul, ← Int.natCast_mul]
    omega

/-- What is known when a task with a period has swept so often: that many periods have passed, and
the next tick is due no earlier than after one more. -/
structure NotEarly (start : Moment) (period : Span) (count : Nat) (state : Supervision S) :
    Prop where
  since : start + (count * period.nanos : Nat) ≤ state.now
  next : state.stage.NotBefore period (start + ((count + 1) * period.nanos : Nat))

theorem NotEarly.step (early : NotEarly start period count state)
    (changed : Change state action output after) :
    NotEarly start period (count + action.ticks.toNat) after := by
  obtain ⟨since, next⟩ := early
  cases ticks : action.ticks with
  | true =>
    obtain ⟨ticker, waits, due, rfl⟩ := changed.due_of_ticks ticks
    rw [waits] at next
    obtain ⟨rfl, later⟩ := next
    refine ⟨Int.le_trans later due, rfl, ?_⟩
    rw [Bool.toNat_true, add_succ_mul]
    exact Int.le_trans (Int.add_le_add_right later _) (ticker.le_due_next state.now)
  | false =>
    refine ⟨Int.le_trans since changed.le_now, changed.notBefore next ?_⟩
    rw [add_succ_mul]
    exact Int.add_le_add_right since _

theorem notEarly_of_trace (trace : Trace step? (spawn start targets period) steps state) :
    NotEarly start period (tickCount steps) state := by
  induction trace with
  | nil =>
    refine ⟨?_, rfl⟩
    rw [tickCount, List.countP_nil, Nat.zero_mul]
    exact Int.le_of_eq (Int.add_zero _)
  | snoc trace taken inductionHypothesis =>
    rw [tickCount_snoc]
    exact inductionHypothesis.step (change_of_step taken)

/-- Of two ticks the later one comes a period after the other but for the tolerance. -/
theorem apart_of_trace (trace : Trace step? (spawn start targets period) steps state) :
    steps.Pairwise fun earlier later => earlier.action.ticks = true → later.action.ticks = true →
      earlier.before.now + (period.nanos : Int) ≤ later.before.now + (tolerance : Int) := by
  have follows := (trace.pairwise
    (fun earlier state => earlier.action.ticks = true → earlier.before.now ≤ state.now ∧
      state.stage.NotBefore period (earlier.before.now + period.nanos - tolerance)) ?_ ?_).1
  · refine follows.imp_of_mem fun {earlier later} _ member follows ticked ticks => ?_
    obtain ⟨ticker, waits, due, -⟩ := (change_of_step (trace.taken member)).due_of_ticks ticks
    obtain ⟨-, next⟩ := follows ticked
    rw [waits] at next
    exact Int.le_add_of_sub_right_le (Int.le_trans next.2 due)
  · intro step member ticks
    have changed := change_of_step (trace.taken member)
    obtain ⟨before, after, rfl⟩ := List.append_of_mem member
    have next := (notEarly_of_trace trace.split.1).next
    refine ⟨changed.le_now, ?_⟩
    obtain ⟨ticker, waits, due, reached⟩ := changed.due_of_ticks ticks
    rw [waits] at next
    rw [reached]
    obtain ⟨rfl, -⟩ := next
    exact ⟨rfl, Int.sub_right_le_of_le_add (ticker.le_due_next_add_tolerance _)⟩
  · intro earlier step member follows ticks
    have changed := change_of_step (trace.taken member)
    obtain ⟨ordered, next⟩ := follows ticks
    refine ⟨Int.le_trans ordered changed.le_now, changed.notBefore next ?_⟩
    refine Int.le_trans (Int.sub_le_self _ (Int.natCast_nonneg _)) (Int.add_le_add_right ordered _)

/-! ### A task that takes its turns in time -/

/-- The task took its turn in time before a step. -/
def Prompt (step : Step (Supervision S) (Action S) (Option Bool)) : Prop :=
  ∀ nanos, step.action = .wait nanos → step.before.stage.Spares step.before.now nanos

theorem Change.onTime (changed : Change state action output after)
    (onTime : state.stage.OnTime start period count state.now)
    (prompt : ∀ nanos, action = .wait nanos → state.stage.Spares state.now nanos) :
    after.stage.OnTime start period (count + action.ticks.toNat) after.now := by
  cases changed with
  | used | swept | dropped => exact onTime
  | waited nanos =>
    have spared := prompt nanos rfl
    show state.stage.OnTime start period count (state.now + nanos)
    cases stage : state.stage with
    | spawned other =>
      rw [stage] at onTime spared
      obtain rfl : nanos = 0 := spared
      rw [Int.natCast_zero, Int.add_zero]
      exact onTime
    | waiting ticker =>
      rw [stage] at onTime spared
      exact ⟨onTime.1, spared, onTime.2.2⟩
    | ended => trivial
  | began spawned =>
    rw [spawned] at onTime
    obtain ⟨rfl, now, rfl⟩ := onTime
    rcases Stage.first_cases state.now _ with ends | ⟨-, waits⟩
    · rw [ends]
      trivial
    · rw [waits]
      refine ⟨rfl, ?_, ?_⟩
      · exact Int.le_trans (Int.le_add_of_nonneg_right (Int.natCast_nonneg _))
          (Int.le_add_of_nonneg_right (Int.natCast_nonneg _))
      show state.now + _ = start + ((0 + 0 + 1) * _ : Nat)
      rw [now, Nat.one_mul]
  | @ticked ticker waits free due =>
    rw [waits] at onTime
    obtain ⟨rfl, ahead, exact⟩ := onTime
    have next := Ticker.due_next_of_le ahead
    refine ⟨rfl, ?_, ?_⟩
    · rw [next]
      refine Int.le_trans ahead (Int.add_le_add_right ?_ _)
      exact Int.le_add_of_nonneg_right (Int.natCast_nonneg _)
    · rw [next, exact, Action.ticks, Bool.toNat_true, add_succ_mul start (count + 1)]
  | @heeded ticker stops signal waits =>
    rw [waits] at onTime
    cases stops with
    | true => trivial
    | false => exact onTime
  | cancelled => trivial
  | stopped | looked =>
    rw [look_stage, look_now]
    exact onTime

theorem onTime_of_trace (trace : Trace step? (spawn start targets period) steps state)
    (prompt : ∀ step ∈ steps, Prompt step) :
    state.stage.OnTime start period (tickCount steps) state.now := by
  induction trace with
  | nil => exact ⟨rfl, rfl, rfl⟩
  | snoc trace taken inductionHypothesis =>
    rw [tickCount_snoc]
    exact (change_of_step taken).onTime
      (inductionHypothesis fun step member => prompt step (List.mem_append_left _ member))
      (prompt _ (List.mem_append_right _ List.mem_cons_self))

/-- A task that takes its turns in time has swept once for each period. -/
theorem tickCount_of_prompt {ticker : Ticker}
    (trace : Trace step? (spawn start targets period) steps state)
    (prompt : ∀ step ∈ steps, Prompt step) (waits : state.stage = .waiting ticker)
    (early : state.now < ticker.due) :
    (tickCount steps : Int) = (state.now - start) / period.nanos := by
  have onTime := onTime_of_trace trace prompt
  have since := (notEarly_of_trace trace).since
  rw [waits] at onTime
  obtain ⟨-, -, next⟩ := onTime
  exact eq_ediv_of_between since (next ▸ early)

end Supervision

end UserDashboard.Cache
