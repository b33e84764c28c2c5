/-
This file proves how a sweeper stops.

Its task leaves off in three ways: it sees that it is told to stop, it finds the signal closed, or
it is aborted. Each may come while a tick is due, which may be answered first. But a task that has
ended or was aborted never sweeps again. Whoever has stopped the sweeper and was answered has made
it so, and so has whoever has given the handle up, once the task has come to rest: a closed signal
is always there to be seen.
-/

import UserDashboard.Proofs.Cache.SweeperTask

namespace UserDashboard.Cache

open Time

theorem Stage.isEnded_iff {stage : Stage} : stage.isEnded = true ↔ stage = .ended := by
  cases stage <;> simp [isEnded]

/-- Whether nobody has use for the handle any more. -/
def Holder.isReleased : Holder → Bool
  | .answered _ | .gone => true
  | .holding | .waiting _ => false

/-! ### The signal -/

namespace Signal

variable {signal seen : Signal} {stops : Bool}

theorem closed_of_change (changed : signal.change? = some (stops, seen)) :
    seen.closed = signal.closed := by
  unfold change? at changed
  split at changed
  · obtain ⟨-, rfl⟩ := Prod.mk.inj (Option.some.inj changed)
    rfl
  · split at changed
    · obtain ⟨-, rfl⟩ := Prod.mk.inj (Option.some.inj changed)
      rfl
    · cases changed

/-- Whoever looks at a closed signal finds a change. -/
theorem change?_ne_none (closed : signal.closed = true) : signal.change? ≠ none := by
  unfold change?
  rw [closed]
  cases signal.unseen <;> nofun

end Signal

namespace Supervision

variable {S : Type} {state after first : Supervision S} {action : Action S} {output : Option Bool}
  {clean : Bool} {deadline : Moment}

/-! ### What a look comes to -/

/-- The task never answers a tick again. -/
def IsOver (state : Supervision S) : Prop :=
  state.stage = .ended ∨ state.aborted = true

theorem IsOver.look (isOver : state.IsOver) (deadline : Moment) :
    (state.look deadline).1.IsOver := by
  rcases state.look_cases deadline with ⟨-, same⟩ | ⟨-, -, same⟩ | ⟨-, -, same⟩
  · rw [same]
    exact isOver
  · rw [same]
    exact Or.inr rfl
  · rw [same]
    exact isOver

/-- Whoever looks and is told something knows it from then on. Whoever is told nothing waits. -/
theorem holder_look (state : Supervision S) (deadline : Moment) :
    (state.look deadline).1.holder =
      ((state.look deadline).2.map Holder.answered).getD (.waiting deadline) := by
  rcases state.look_cases deadline with ⟨-, same⟩ | ⟨-, -, same⟩ | ⟨-, -, same⟩ <;> rw [same] <;>
    rfl

theorem eq_of_getD_answered {told : Option Bool} {other : Moment}
    (same : (told.map Holder.answered).getD (.waiting deadline) = .waiting other) :
    deadline = other := by
  cases told with
  | none => exact Holder.waiting.inj same
  | some clean => cases same

/-- The holder is told whether the task has ended, and if not it has waited long enough. -/
theorem told_of_look (told : (state.look deadline).2 = some clean) :
    clean = state.stage.isEnded ∧ (clean = false → deadline ≤ state.now) := by
  rcases state.look_cases deadline with ⟨ended, same⟩ | ⟨goesOn, late, same⟩ | ⟨-, -, same⟩
  · rw [same] at told
    obtain rfl := Option.some.inj told
    exact ⟨ended.symm, nofun⟩
  · rw [same] at told
    obtain rfl := Option.some.inj told
    exact ⟨goesOn.symm, fun _ => late⟩
  · rw [same] at told
    cases told

/-- What the holder knows is so, and who has given the handle up has closed the signal. -/
structure Sound (state : Supervision S) : Prop where
  clean : state.holder = .answered true → state.stage = .ended
  late : state.holder = .answered false → state.aborted = true
  closed : state.holder = .gone → state.signal.closed = true

theorem sound_look (state : Supervision S) (deadline : Moment) :
    (state.look deadline).1.Sound := by
  rcases state.look_cases deadline with ⟨ended, same⟩ | ⟨-, -, same⟩ | ⟨-, -, same⟩
  · rw [same]
    exact ⟨fun _ => Stage.isEnded_iff.mp ended, nofun, nofun⟩
  · rw [same]
    exact ⟨nofun, fun _ => rfl, nofun⟩
  · rw [same]
    exact ⟨nofun, nofun, nofun⟩

variable [Sweepable S] {steps : Run S}

/-! ### What the task does when it is over -/

theorem Change.isOver (changed : Change state action output after) (isOver : state.IsOver) :
    after.IsOver ∧ action.ticks = false := by
  cases changed with
  | used | swept | waited | dropped => exact ⟨isOver, rfl⟩
  | began busy free | ticked busy free | heeded busy free =>
    rcases isOver with ended | aborted
    · cases busy.symm.trans ended
    · cases free.symm.trans aborted
  | cancelled => exact ⟨Or.inl rfl, rfl⟩
  | stopped =>
    have sent : IsOver { state with signal := state.signal.send } := isOver
    exact ⟨sent.look _, rfl⟩
  | looked => exact ⟨isOver.look _, rfl⟩

/-- Once a task is over only others sweep. -/
theorem IsOver.of_trace (isOver : first.IsOver) (trace : Trace step? first steps state) :
    tickCount steps = 0 ∧ SweptMore (otherCount steps) first.targets state.targets := by
  have none : tickCount steps = 0 := by
    refine List.countP_eq_zero.mpr fun step member => Bool.not_eq_true _ ▸ ?_
    have before := trace.invariant_before isOver
      (fun taken before => ((change_of_step taken).isOver before).1) member
    exact ((change_of_step (trace.taken member)).isOver before).2
  have swept := sweptMore_of_trace trace
  rw [none, Nat.zero_add] at swept
  exact ⟨none, swept⟩

theorem Change.ended (changed : Change state action output after) (ended : state.stage = .ended) :
    after.stage = .ended := by
  cases changed with
  | used | swept | waited | dropped => exact ended
  | began busy | ticked busy | heeded busy => cases busy.symm.trans ended
  | cancelled => rfl
  | stopped | looked =>
    rw [look_stage]
    exact ended

/-- A task that has ended stays so. -/
theorem ended_of_trace (trace : Trace step? first steps state) :
    steps.Pairwise fun earlier later =>
      earlier.before.stage = .ended → later.before.stage = .ended := by
  refine (trace.pairwise (fun earlier state => earlier.before.stage = .ended →
    state.stage = .ended) ?_ ?_).1
  · exact fun step member => (change_of_step (trace.taken member)).ended
  · exact fun earlier step member follows ended =>
      (change_of_step (trace.taken member)).ended (follows ended)

/-! ### What became of the handle -/

theorem Change.answered (changed : Change state action output after) (told : output = some clean) :
    after.holder = .answered clean := by
  cases changed with
  | used | swept | waited | began | ticked | heeded | cancelled | dropped => cases told
  | stopped | looked =>
    rw [holder_look, told]
    rfl

theorem Change.gone (changed : Change state action output after) (drops : action = .drop) :
    after.holder = .gone := by
  cases changed with
  | dropped => rfl
  | used | swept | waited | began | ticked | heeded | cancelled | stopped | looked => cases drops

/-- Whoever has no more use for the handle does not take it up again. -/
theorem Change.holder_eq (changed : Change state action output after)
    (released : state.holder.isReleased = true) : after.holder = state.holder := by
  cases changed with
  | used | swept | waited | began | ticked | heeded | cancelled => rfl
  | stopped _ held =>
    rw [held] at released
    cases released
  | looked waits =>
    rw [waits] at released
    cases released
  | dropped held =>
    rcases held with held | ⟨deadline, held⟩
    · rw [held] at released
      cases released
    · rw [held] at released
      cases released

/-- What was made of a handle stays so. -/
theorem holder_of_trace {holder : Holder} (trace : Trace step? first steps state)
    (released : holder.isReleased = true) (made : first.holder = holder) :
    state.holder = holder := by
  induction trace with
  | nil => exact made
  | snoc trace taken inductionHypothesis =>
    rw [← inductionHypothesis] at released
    exact ((change_of_step taken).holder_eq released).trans inductionHypothesis

theorem Change.sound (changed : Change state action output after) (sound : state.Sound) :
    after.Sound := by
  obtain ⟨clean, late, closed⟩ := sound
  cases changed with
  | used | swept | waited => exact ⟨clean, late, closed⟩
  | began busy | ticked busy =>
    exact ⟨fun answered => (nomatch busy.symm.trans (clean answered)), late, closed⟩
  | heeded busy free changed =>
    refine ⟨fun answered => (nomatch busy.symm.trans (clean answered)), late, fun gone => ?_⟩
    exact (Signal.closed_of_change changed).trans (closed gone)
  | cancelled => exact ⟨fun _ => rfl, late, closed⟩
  | stopped | looked => exact sound_look _ _
  | dropped => exact ⟨nofun, nofun, fun _ => rfl⟩

/-! ### When a task is over -/

/-- The task can do nothing now. -/
def Settled (state : Supervision S) : Prop :=
  state.begin? = none ∧ state.tick? = none ∧ state.heed? = none ∧ state.cancel? = none

/-- A closed signal does not let a task rest until it has ended. -/
theorem Settled.ended (settled : state.Settled) (closed : state.signal.closed = true) :
    state.stage = .ended := by
  obtain ⟨unbegun, -, unheeded, uncancelled⟩ := settled
  cases aborted : state.aborted with
  | true =>
    cases ended : state.stage.isEnded with
    | true => exact Stage.isEnded_iff.mp ended
    | false => simp [cancel?, aborted, ended] at uncancelled
  | false =>
    cases stage : state.stage with
    | spawned period => simp [begin?, turn?, aborted, stage] at unbegun
    | waiting ticker =>
      simp only [heed?, turn?, aborted, stage, Bool.false_eq_true, if_false,
        Option.map_eq_none_iff] at unheeded
      exact absurd unheeded (Signal.change?_ne_none closed)
    | ended => rfl

/-- A task that has ended rests. -/
theorem settled_of_ended (ended : state.stage = .ended) : state.Settled := by
  have turn : state.turn? = none ∨ state.turn? = some .ended := by
    unfold turn?
    cases state.aborted
    · exact Or.inr (congrArg some ended)
    · exact Or.inl rfl
  refine ⟨?_, ?_, ?_, ?_⟩
  · rcases turn with turn | turn <;> simp only [begin?, turn]
  · rcases turn with turn | turn <;> simp only [tick?, turn]
  · rcases turn with turn | turn <;> simp only [heed?, turn]
  · simp [cancel?, ended, Stage.isEnded]

variable {start : Moment} {targets : List (Swept S)} {period : Span}

/-- The sweeper was stopped and the holder told, or the handle was given up and the task has come to
rest. -/
def Stopped (steps : Run S) (state : Supervision S) : Prop :=
  (∃ step ∈ steps, step.output.isSome = true) ∨
    (∃ step ∈ steps, step.action = .drop) ∧ state.Settled

/-- Then the task is over. -/
theorem Stopped.isOver (stopped : Stopped steps state)
    (trace : Trace step? (spawn start targets period) steps state) : state.IsOver := by
  have sound : state.Sound :=
    trace.invariant ⟨nofun, nofun, nofun⟩ fun taken => (change_of_step taken).sound
  have kept {holder : Holder} (released : holder.isReleased = true) {step}
      (member : step ∈ steps) (made : step.after.holder = holder) : state.holder = holder := by
    obtain ⟨earlier, later, rfl⟩ := List.append_of_mem member
    exact holder_of_trace trace.split.2.2 released made
  rcases stopped with ⟨step, member, told⟩ | ⟨⟨step, member, drops⟩, settled⟩
  · obtain ⟨clean, told⟩ := Option.isSome_iff_exists.mp told
    have answered := kept rfl member ((change_of_step (trace.taken member)).answered told)
    cases clean with
    | true => exact Or.inl (sound.clean answered)
    | false => exact Or.inr (sound.late answered)
  · have gone := kept rfl member ((change_of_step (trace.taken member)).gone drops)
    exact Or.inl (settled.ended (sound.closed gone))

/-! ### What the holder is told -/

/-- Whoever waits has waited before, or has just stopped the sweeper. -/
theorem Change.waiting (changed : Change state action output after)
    (waits : after.holder = .waiting deadline) :
    state.holder = .waiting deadline ∨
      ∃ grace, action = .shutdown grace ∧ deadline = waitsUntil state.now grace := by
  cases changed with
  | used | swept | waited | began | ticked | heeded | cancelled => exact Or.inl waits
  | stopped grace =>
    rw [holder_look] at waits
    exact Or.inr ⟨grace, rfl, (eq_of_getD_answered waits).symm⟩
  | looked waited =>
    rw [holder_look] at waits
    exact Or.inl (eq_of_getD_answered waits ▸ waited)
  | dropped => cases waits

/-- The holder is told whether the task has ended, and if not it has waited long enough. -/
theorem Change.told (changed : Change state action output after) (told : output = some clean) :
    clean = state.stage.isEnded ∧ (clean = false → ∃ deadline ≤ state.now,
      state.holder = .waiting deadline ∨
        ∃ grace, action = .shutdown grace ∧ deadline = waitsUntil state.now grace) := by
  cases changed with
  | used | swept | waited | began | ticked | heeded | cancelled | dropped => cases told
  | stopped grace =>
    obtain ⟨truth, late⟩ := told_of_look told
    exact ⟨truth, fun unclean => ⟨_, late unclean, Or.inr ⟨grace, rfl, rfl⟩⟩⟩
  | looked waits =>
    obtain ⟨truth, late⟩ := told_of_look told
    exact ⟨truth, fun unclean => ⟨_, late unclean, Or.inl waits⟩⟩

/-- Whoever waits has stopped the sweeper, and waits for as long as it said. -/
theorem asked_of_trace (trace : Trace step? (spawn start targets period) steps state)
    (waits : state.holder = .waiting deadline) :
    ∃ call ∈ steps, ∃ grace, call.action = .shutdown grace ∧
      deadline = waitsUntil call.before.now grace := by
  induction trace with
  | nil => cases waits
  | snoc trace taken inductionHypothesis =>
    rcases (change_of_step taken).waiting waits with waited | ⟨grace, stops, until_⟩
    · obtain ⟨call, member, asked⟩ := inductionHypothesis waited
      exact ⟨call, List.mem_append_left _ member, asked⟩
    · exact ⟨_, List.mem_append_right _ List.mem_cons_self, grace, stops, until_⟩

/-- Whoever has stopped the sweeper is told whether the task had ended by then, and told that it had
not only when the grace is over. -/
theorem told_of_trace {step : Step (Supervision S) (Action S) (Option Bool)}
    (trace : Trace step? (spawn start targets period) steps state) (member : step ∈ steps)
    (told : step.output = some clean) :
    clean = step.before.stage.isEnded ∧
      (clean = false → ∃ call ∈ steps, ∃ grace, call.action = .shutdown grace ∧
        waitsUntil call.before.now grace ≤ step.before.now) := by
  obtain ⟨truth, late⟩ := (change_of_step (trace.taken member)).told told
  refine ⟨truth, fun unclean => ?_⟩
  obtain ⟨deadline, past, waits | ⟨grace, stops, rfl⟩⟩ := late unclean
  · obtain ⟨earlier, later, rfl⟩ := List.append_of_mem member
    obtain ⟨call, asked, grace, stops, rfl⟩ := asked_of_trace trace.split.1 waits
    exact ⟨call, List.mem_append_left _ asked, grace, stops, past⟩
  · exact ⟨step, member, grace, stops, past⟩

end Supervision

end UserDashboard.Cache
