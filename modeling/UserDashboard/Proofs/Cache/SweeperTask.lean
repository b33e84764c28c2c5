/-
This file says what each step of a sweeper does: of its task, of the holder of its handle, and of
those who use its stores.

Stores are swept by the task and by others. Both are counted, so that what one of them does can be
told from how often the stores have been swept. What the sweeps make of the stores is told as well:
sweeps at the same moments, one after the other.
-/

import UserDashboard.Cache.SweeperTask
import UserDashboard.Proofs.Trace
import Mathlib.Data.List.Forall2

namespace UserDashboard.Cache

open Time

/-! ### How often stores are swept -/

/-- Every store was swept so many more times. -/
def SweptMore {S : Type} (count : Nat) : List (Swept S) → List (Swept S) → Prop :=
  List.Forall₂ fun before after => after.sweeps = before.sweeps + count

namespace SweptMore

variable {S : Type} {first second third : List (Swept S)} {count other : Nat}

theorem refl (targets : List (Swept S)) : SweptMore 0 targets targets :=
  List.forall₂_same.mpr fun _ _ => rfl

theorem trans (sooner : SweptMore count first second) (later : SweptMore other second third) :
    SweptMore (count + other) first third := by
  induction sooner generalizing third with
  | nil =>
    cases later
    exact .nil
  | cons earlier _ inductionHypothesis =>
    cases later with
    | cons next rest =>
      refine .cons ?_ (inductionHypothesis rest)
      rw [next, earlier, Nat.add_assoc]

theorem sweepAll [Sweepable S] (now : Moment) (targets : List (Swept S)) :
    SweptMore 1 targets (sweepAll now targets).2 := by
  induction targets with
  | nil => exact .nil
  | cons target targets inductionHypothesis => exact .cons rfl inductionHypothesis

/-- Whoever uses a store does not sweep it. -/
theorem modify (targets : List (Swept S)) (index : Nat) (store : S) :
    SweptMore 0 targets (targets.modify index ({ · with store })) := by
  induction targets generalizing index with
  | nil =>
    cases index <;> exact .nil
  | cons target targets inductionHypothesis =>
    cases index with
    | zero => exact .cons rfl (SweptMore.refl targets)
    | succ index => exact .cons rfl (inductionHypothesis index)

end SweptMore

/-! ### What sweeps make of stores -/

section SweptAt

variable {S : Type} [Sweepable S]

/-- What sweeps at some moments, one after the other, make of stores that nobody uses. -/
def sweptAt (moments : List Moment) (targets : List (Swept S)) : List (Swept S) :=
  moments.foldl (fun targets moment => (sweepAll moment targets).2) targets

/-- As many sweeps are counted as there were. -/
theorem sweptMore_sweptAt (moments : List Moment) (targets : List (Swept S)) :
    SweptMore moments.length targets (sweptAt moments targets) := by
  induction moments generalizing targets with
  | nil => exact .refl _
  | cons moment moments inductionHypothesis =>
    rw [List.length_cons, Nat.add_comm]
    exact (SweptMore.sweepAll moment targets).trans (inductionHypothesis _)

theorem sweptAt_snoc (moments : List Moment) (moment : Moment) (targets : List (Swept S)) :
    sweptAt (moments ++ [moment]) targets = (sweepAll moment (sweptAt moments targets)).2 := by
  rw [sweptAt, List.foldl_append]
  rfl

end SweptAt

namespace Supervision

variable {S : Type} {state after : Supervision S}

theorem turn?_eq_some_iff {stage : Stage} :
    state.turn? = some stage ↔ state.aborted = false ∧ state.stage = stage := by
  unfold turn?
  cases state.aborted <;> simp

/-! ### What the holder sees -/

/-- The holder looks whether the task has ended, and learns what there is to know. -/
theorem look_cases (state : Supervision S) (deadline : Moment) :
    (state.stage.isEnded = true ∧ state.look deadline = (state.answer true, some true)) ∨
    (state.stage.isEnded = false ∧ deadline ≤ state.now ∧
      state.look deadline = ({ state.answer false with aborted := true }, some false)) ∨
    (state.stage.isEnded = false ∧ state.now < deadline ∧
      state.look deadline = ({ state with holder := .waiting deadline }, none)) := by
  unfold look
  cases ends : state.stage.isEnded with
  | true => exact Or.inl ⟨rfl, if_pos rfl⟩
  | false =>
    by_cases late : deadline ≤ state.now
    · exact Or.inr (Or.inl ⟨rfl, late, by rw [if_neg Bool.false_ne_true, if_pos late]⟩)
    · exact Or.inr (Or.inr ⟨rfl, Int.not_le.mp late,
        by rw [if_neg Bool.false_ne_true, if_neg late]⟩)

/-- Whoever looks moves neither the clock, nor the stores, nor the task. -/
theorem look_eq (state : Supervision S) (deadline : Moment) :
    (state.look deadline).1.now = state.now ∧ (state.look deadline).1.targets = state.targets ∧
      (state.look deadline).1.stage = state.stage := by
  rcases state.look_cases deadline with ⟨-, same⟩ | ⟨-, -, same⟩ | ⟨-, -, same⟩ <;> rw [same] <;>
    exact ⟨rfl, rfl, rfl⟩

@[simp] theorem look_now (state : Supervision S) (deadline : Moment) :
    (state.look deadline).1.now = state.now :=
  (state.look_eq deadline).1

@[simp] theorem look_targets (state : Supervision S) (deadline : Moment) :
    (state.look deadline).1.targets = state.targets :=
  (state.look_eq deadline).2.1

@[simp] theorem look_stage (state : Supervision S) (deadline : Moment) :
    (state.look deadline).1.stage = state.stage :=
  (state.look_eq deadline).2.2

/-! ### Sweeps that are counted -/

/-- Whether the task sweeps. -/
def Action.ticks : Action S → Bool
  | .tick => true
  | _ => false

/-- Whether someone else sweeps. -/
def Action.sweeps : Action S → Bool
  | .sweep => true
  | _ => false

/-- What happened to a sweeper. -/
abbrev Run (S : Type) := List (Step (Supervision S) (Action S) (Option Bool))

/-- How often the task swept. -/
def tickCount (steps : Run S) : Nat :=
  steps.countP (·.action.ticks)

/-- How often others swept. -/
def otherCount (steps : Run S) : Nat :=
  steps.countP (·.action.sweeps)

theorem tickCount_snoc (steps : Run S) (step : Step (Supervision S) (Action S) (Option Bool)) :
    tickCount (steps ++ [step]) = tickCount steps + step.action.ticks.toNat := by
  rw [tickCount, List.countP_append, List.countP_singleton]
  cases step.action.ticks <;> rfl

theorem otherCount_snoc (steps : Run S) (step : Step (Supervision S) (Action S) (Option Bool)) :
    otherCount (steps ++ [step]) = otherCount steps + step.action.sweeps.toNat := by
  rw [otherCount, List.countP_append, List.countP_singleton]
  cases step.action.sweeps <;> rfl

/-! ### What a step does -/

variable [Sweepable S]

/-- What a step does. -/
inductive Change (state : Supervision S) : Action S → Option Bool → Supervision S → Prop where
  /-- A store was used. -/
  | used (index : Nat) (store : S) : Change state (.use index store) none
      { state with targets := state.targets.modify index ({ · with store }) }
  /-- Someone else swept. -/
  | swept : Change state .sweep none
      { state with targets := (sweepAll state.now state.targets).2 }
  /-- Time passed. -/
  | waited (nanos : Nat) :
      Change state (.wait nanos) none { state with now := state.now + nanos }
  /-- The task took its first turn. -/
  | began {period : Span} (spawned : state.stage = .spawned period)
      (free : state.aborted = false) :
      Change state .begin none { state with stage := .first state.now period }
  /-- The task answered a tick. -/
  | ticked {ticker : Ticker} (waits : state.stage = .waiting ticker) (free : state.aborted = false)
      (due : ticker.due ≤ state.now) :
      Change state .tick none { state with
        targets := (sweepAll state.now state.targets).2
        stage := .waiting (ticker.next state.now) }
  /-- The task answered a change of the signal. -/
  | heeded {ticker : Ticker} {stops : Bool} {signal : Signal}
      (waits : state.stage = .waiting ticker) (free : state.aborted = false)
      (changed : state.signal.change? = some (stops, signal)) :
      Change state .heed none
        { state with signal, stage := if stops then .ended else .waiting ticker }
  /-- The task ended because it was aborted. -/
  | cancelled (aborted : state.aborted = true) (goesOn : state.stage.isEnded = false) :
      Change state .cancel none { state with stage := .ended }
  /-- The holder stopped the sweeper. -/
  | stopped (grace : Span) (held : state.holder = .holding) :
      Change state (.shutdown grace)
        (({ state with signal := state.signal.send }).look (waitsUntil state.now grace)).2
        (({ state with signal := state.signal.send }).look (waitsUntil state.now grace)).1
  /-- The holder looked whether the task had ended. -/
  | looked {deadline : Moment} (waits : state.holder = .waiting deadline) :
      Change state .look (state.look deadline).2 (state.look deadline).1
  /-- The holder gave the handle up. -/
  | dropped (held : state.holder = .holding ∨ ∃ deadline, state.holder = .waiting deadline) :
      Change state .drop none { state with signal := state.signal.close, holder := .gone }

variable {action : Action S} {output : Option Bool} {grace : Span}

theorem change_of_begin (begun : state.begin? = some after) : Change state .begin none after := by
  unfold begin? at begun
  split at begun
  · rename_i period turn
    obtain ⟨free, spawned⟩ := turn?_eq_some_iff.mp turn
    obtain rfl := Option.some.inj begun
    exact .began spawned free
  · cases begun

theorem change_of_tick (ticked : state.tick? = some after) : Change state .tick none after := by
  unfold tick? at ticked
  split at ticked
  · rename_i ticker turn
    obtain ⟨free, waits⟩ := turn?_eq_some_iff.mp turn
    obtain ⟨due, same⟩ := Option.ite_none_right_eq_some.mp ticked
    obtain rfl := Option.some.inj same
    exact .ticked waits free due
  · cases ticked

theorem change_of_heed (heeded : state.heed? = some after) : Change state .heed none after := by
  unfold heed? at heeded
  split at heeded
  · rename_i ticker turn
    obtain ⟨free, waits⟩ := turn?_eq_some_iff.mp turn
    obtain ⟨⟨stops, signal⟩, changed, rfl⟩ := Option.map_eq_some_iff.mp heeded
    exact .heeded waits free changed
  · cases heeded

theorem change_of_cancel (cancelled : state.cancel? = some after) :
    Change state .cancel none after := by
  obtain ⟨⟨aborted, goesOn⟩, same⟩ := Option.ite_none_right_eq_some.mp cancelled
  obtain rfl := Option.some.inj same
  exact .cancelled aborted ((Bool.not_eq_true' _).mp goesOn)

theorem change_of_shutdown (stopped : state.shutdown? grace = some (after, output)) :
    Change state (.shutdown grace) output after := by
  unfold shutdown? at stopped
  split at stopped
  · rename_i held
    obtain ⟨rfl, rfl⟩ := Prod.mk.inj (Option.some.inj stopped)
    exact .stopped grace held
  · cases stopped

theorem change_of_look (looked : state.look? = some (after, output)) :
    Change state .look output after := by
  unfold look? at looked
  split at looked
  · rename_i deadline waits
    obtain ⟨rfl, rfl⟩ := Prod.mk.inj (Option.some.inj looked)
    exact .looked waits
  · cases looked

theorem change_of_drop (dropped : state.drop? = some after) : Change state .drop none after := by
  unfold drop? at dropped
  split at dropped
  · rename_i held
    obtain rfl := Option.some.inj dropped
    exact .dropped (Or.inl held)
  · rename_i deadline waits
    obtain rfl := Option.some.inj dropped
    exact .dropped (Or.inr ⟨deadline, waits⟩)
  · cases dropped
  · cases dropped

theorem change_of_step (taken : state.step? action = some (after, output)) :
    Change state action output after := by
  cases action with
  | use index store =>
    obtain ⟨rfl, rfl⟩ := Prod.mk.inj (Option.some.inj taken)
    exact .used index store
  | sweep =>
    obtain ⟨rfl, rfl⟩ := Prod.mk.inj (Option.some.inj taken)
    exact .swept
  | wait nanos =>
    obtain ⟨rfl, rfl⟩ := Prod.mk.inj (Option.some.inj taken)
    exact .waited nanos
  | begin =>
    obtain ⟨begun, rfl⟩ := of_silent taken
    exact change_of_begin begun
  | tick =>
    obtain ⟨ticked, rfl⟩ := of_silent taken
    exact change_of_tick ticked
  | heed =>
    obtain ⟨heeded, rfl⟩ := of_silent taken
    exact change_of_heed heeded
  | cancel =>
    obtain ⟨cancelled, rfl⟩ := of_silent taken
    exact change_of_cancel cancelled
  | shutdown grace => exact change_of_shutdown taken
  | look => exact change_of_look taken
  | drop =>
    obtain ⟨dropped, rfl⟩ := of_silent taken
    exact change_of_drop dropped

theorem Change.le_now (changed : Change state action output after) : state.now ≤ after.now := by
  cases changed with
  | used | swept | began | ticked | heeded | cancelled | dropped => exact Int.le_refl _
  | waited nanos => exact Int.le_add_of_nonneg_right (Int.natCast_nonneg nanos)
  | stopped | looked => simp only [look_now, Int.le_refl]

variable {first : Supervision S} {steps : Run S}

/-! ### Who sweeps -/

theorem Change.sweptMore (changed : Change state action output after) :
    SweptMore (action.ticks.toNat + action.sweeps.toNat) state.targets after.targets := by
  cases changed with
  | used index store => exact .modify _ _ _
  | swept | ticked => exact .sweepAll _ _
  | waited | began | heeded | cancelled | dropped => exact .refl _
  | stopped | looked =>
    rw [look_targets]
    exact .refl _

/-- What an action at a moment makes of the stores. -/
def Action.effect (action : Action S) (now : Moment) (targets : List (Swept S)) :
    List (Swept S) :=
  match action with
  | .use index store => targets.modify index ({ · with store })
  | .sweep | .tick => (sweepAll now targets).2
  | .wait _ | .begin | .heed | .cancel | .shutdown _ | .look | .drop => targets

theorem Change.targets_eq (changed : Change state action output after) :
    after.targets = action.effect state.now state.targets := by
  cases changed with
  | used | swept | waited | began | ticked | heeded | cancelled | dropped => rfl
  | stopped | looked => exact look_targets _ _

/-- The stores are what sweeps and uses have made of them, each at its moment. -/
theorem targets_of_trace (trace : Trace step? first steps state) :
    state.targets = steps.foldl
      (fun targets step => step.action.effect step.before.now targets) first.targets := by
  induction trace with
  | nil => rfl
  | snoc trace taken inductionHypothesis =>
    rw [List.foldl_concat, ← inductionHypothesis]
    exact (change_of_step taken).targets_eq

/-- Stores are swept by the task and by others, and by nobody else. -/
theorem sweptMore_of_trace (trace : Trace step? first steps state) :
    SweptMore (tickCount steps + otherCount steps) first.targets state.targets := by
  induction trace with
  | nil => exact .refl _
  | snoc trace taken inductionHypothesis =>
    rw [tickCount_snoc, otherCount_snoc, Nat.add_add_add_comm]
    exact inductionHypothesis.trans (change_of_step taken).sweptMore

end Supervision

end UserDashboard.Cache
