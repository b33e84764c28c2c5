/-
This file holds the runs of a system that moves in steps.

An action that can happen in a state leads to another state and makes something known. A trace is
the list of the steps that were taken from a first state on, in the order in which they were taken,
each with the states before and after it. What every step keeps holds of every state that a trace
comes to, and what one step establishes and all later steps keep holds from then on.
-/
namespace UserDashboard

/-- The state that an action leads to and what it makes known, if it can happen. -/
abbrev System (S A O : Type) := S → A → Option (S × O)

/-- A step that was taken. -/
structure Step (S A O : Type) where
  /-- The state in which it was taken. -/
  before : S
  /-- What happened. -/
  action : A
  /-- What it made known. -/
  output : O
  /-- The state it led to. -/
  after : S

variable {S A O : Type} {system : System S A O} {start state : S} {steps : List (Step S A O)}

/-- What makes nothing known has happened if it could. -/
theorem of_silent {result : Option S} {silence output : O} {after : S}
    (taken : result.map (·, silence) = some (after, output)) :
    result = some after ∧ output = silence := by
  obtain ⟨led, worked, same⟩ := Option.map_eq_some_iff.mp taken
  obtain ⟨rfl, rfl⟩ := Prod.mk.inj same
  exact ⟨worked, rfl⟩

/-- The steps taken from a state on, and the state they come to. -/
inductive Trace (system : System S A O) (start : S) : List (Step S A O) → S → Prop where
  /-- Nothing has happened. -/
  | nil : Trace system start [] start
  /-- One more step was taken. -/
  | snoc {steps : List (Step S A O)} {before after : S} {action : A} {output : O}
      (trace : Trace system start steps before)
      (taken : system before action = some (after, output)) :
      Trace system start (steps ++ [⟨before, action, output, after⟩]) after

namespace Trace

/-- What holds of the first state and is kept by every step holds of every state reached. -/
theorem invariant {holds : S → Prop} (trace : Trace system start steps state)
    (initial : holds start)
    (kept : ∀ {before after : S} {action : A} {output : O},
      system before action = some (after, output) → holds before → holds after) :
    holds state := by
  induction trace with
  | nil => exact initial
  | snoc trace taken inductionHypothesis => exact kept taken inductionHypothesis

/-- Every step of a trace could be taken. -/
theorem taken (trace : Trace system start steps state) {step : Step S A O} (member : step ∈ steps) :
    system step.before step.action = some (step.after, step.output) := by
  induction trace with
  | nil => cases member
  | snoc trace last inductionHypothesis =>
    rcases List.mem_append.mp member with earlier | final
    · exact inductionHypothesis earlier
    · rw [List.mem_singleton.mp final]
      exact last

/-- What holds of the first state and is kept by every step holds before every step. -/
theorem invariant_before {holds : S → Prop} (trace : Trace system start steps state)
    (initial : holds start)
    (kept : ∀ {before after : S} {action : A} {output : O},
      system before action = some (after, output) → holds before → holds after)
    {step : Step S A O} (member : step ∈ steps) : holds step.before := by
  induction trace with
  | nil => cases member
  | snoc trace last inductionHypothesis =>
    rcases List.mem_append.mp member with earlier | final
    · exact inductionHypothesis earlier
    · rw [List.mem_singleton.mp final]
      exact trace.invariant initial kept

/-- What every step establishes and every later step keeps holds before every later step, and in
the state reached. -/
theorem pairwise (trace : Trace system start steps state) (follows : Step S A O → S → Prop)
    (established : ∀ step ∈ steps, follows step step.after)
    (kept : ∀ earlier, ∀ step ∈ steps, follows earlier step.before → follows earlier step.after) :
    steps.Pairwise (fun earlier later => follows earlier later.before) ∧
      ∀ step ∈ steps, follows step state := by
  induction trace with
  | nil => exact ⟨List.Pairwise.nil, fun step member => by cases member⟩
  | @snoc steps before after action output trace taken inductionHypothesis =>
    obtain ⟨ordered, reached⟩ := inductionHypothesis
      (fun step member => established step (List.mem_append_left _ member))
      (fun earlier step member => kept earlier step (List.mem_append_left _ member))
    have last : (⟨before, action, output, after⟩ : Step S A O) ∈
        steps ++ [⟨before, action, output, after⟩] :=
      List.mem_append_right _ List.mem_cons_self
    refine ⟨List.pairwise_append.mpr ⟨ordered, List.pairwise_singleton _ _, ?_⟩, ?_⟩
    · intro earlier member later final
      rw [List.mem_singleton.mp final]
      exact reached earlier member
    · intro step member
      rcases List.mem_append.mp member with earlier | final
      · exact kept step _ last (reached step earlier)
      · rw [List.mem_singleton.mp final]
        exact established _ last

/-- A trace that goes on after a first step. -/
theorem cons {action : A} {output : O} {next : S}
    (taken : system start action = some (next, output)) (trace : Trace system next steps state) :
    Trace system start (⟨start, action, output, next⟩ :: steps) state := by
  induction trace with
  | nil => exact .snoc .nil taken
  | snoc trace last inductionHypothesis => exact .snoc inductionHypothesis last

/-- A trace that goes on after another one. -/
theorem append {others : List (Step S A O)} {last : S} (trace : Trace system start steps state)
    (later : Trace system state others last) : Trace system start (steps ++ others) last := by
  induction later with
  | nil =>
    rw [List.append_nil]
    exact trace
  | snoc later taken inductionHypothesis =>
    rw [← List.append_assoc]
    exact inductionHypothesis.snoc taken

/-! ### Runs that are compared -/

/-- The last step of a trace was taken in the state that the others came to. -/
theorem of_snoc {step : Step S A O} (trace : Trace system start (steps ++ [step]) state) :
    Trace system start steps step.before ∧
      system step.before step.action = some (step.after, step.output) ∧ step.after = state := by
  generalize all : steps ++ [step] = every at trace
  cases trace with
  | nil => exact absurd all (by simp)
  | snoc earlier taken =>
    obtain ⟨rfl, last⟩ := List.append_inj' all rfl
    obtain rfl := (List.cons.inj last).1
    exact ⟨earlier, taken, rfl⟩

/-- A trace is taken apart at one of its steps. -/
theorem split {earlier later : List (Step S A O)} {step : Step S A O}
    (trace : Trace system start (earlier ++ step :: later) state) :
    Trace system start earlier step.before ∧
      system step.before step.action = some (step.after, step.output) ∧
      Trace system step.after later state := by
  generalize all : earlier ++ step :: later = every at trace
  induction trace generalizing later with
  | nil => exact absurd all (by simp)
  | @snoc steps before after action output trace taken inductionHypothesis =>
    rcases List.eq_nil_or_concat later with rfl | ⟨between, last, rfl⟩
    · obtain ⟨rfl, same⟩ := List.append_inj' all rfl
      obtain rfl := (List.cons.inj same).1
      exact ⟨trace, taken, .nil⟩
    · rw [List.concat_eq_append] at all ⊢
      rw [← List.cons_append, ← List.append_assoc] at all
      obtain ⟨sooner, same⟩ := List.append_inj' all rfl
      obtain rfl := (List.cons.inj same).1
      obtain ⟨begun, moved, rest⟩ := inductionHypothesis sooner
      exact ⟨begun, moved, rest.snoc taken⟩

/-- Nothing but the actions decides what steps are taken from a state on. -/
theorem eq_of_actions {others : List (Step S A O)} {other : S}
    (trace : Trace system start steps state) (second : Trace system start others other)
    (same : others.map (·.action) = steps.map (·.action)) : others = steps ∧ other = state := by
  induction trace generalizing others other with
  | nil =>
    obtain rfl := List.map_eq_nil_iff.mp same
    generalize none : ([] : List (Step S A O)) = empty at second
    cases second with
    | nil => exact ⟨rfl, rfl⟩
    | snoc => exact absurd none (by simp)
  | @snoc steps before after action output trace taken inductionHypothesis =>
    rw [List.map_append] at same
    obtain ⟨earlier, lasts, rfl, actions, final⟩ := List.map_eq_append_iff.mp same
    obtain ⟨last, rfl, acts⟩ := List.map_eq_singleton_iff.mp final
    obtain ⟨begun, moved, rfl⟩ := of_snoc second
    obtain ⟨rfl, led⟩ := inductionHypothesis begun actions
    rw [led, acts, taken] at moved
    obtain ⟨reached, told⟩ := Prod.mk.inj (Option.some.inj moved)
    obtain ⟨lastBefore, lastAction, lastOutput, lastAfter⟩ := last
    simp only at led acts reached told
    rw [led, acts, ← reached, ← told]
    exact ⟨rfl, rfl⟩

/-- If every action can happen in every state, all actions can follow each other. -/
theorem exists_of_total (total : ∀ state action, (system state action).isSome) (start : S)
    (actions : List A) :
    ∃ steps state, Trace system start steps state ∧ steps.map (·.action) = actions := by
  induction actions generalizing start with
  | nil => exact ⟨[], start, .nil, rfl⟩
  | cons action rest inductionHypothesis =>
    obtain ⟨⟨next, output⟩, taken⟩ := Option.isSome_iff_exists.mp (total start action)
    obtain ⟨steps, state, trace, same⟩ := inductionHypothesis next
    refine ⟨_, state, trace.cons taken, ?_⟩
    rw [List.map_cons, same]

/-! ### Runs that are computed -/

/-- The steps that actions lead to and the state they come to, if all of them can happen. -/
def run? (system : System S A O) (state : S) : List A → Option (List (Step S A O) × S)
  | [] => some ([], state)
  | action :: rest =>
    (system state action).bind fun (after, output) =>
      (run? system after rest).map fun (steps, last) =>
        (⟨state, action, output, after⟩ :: steps, last)

/-- What is computed is a trace. -/
theorem of_run? {actions : List A} (ran : run? system start actions = some (steps, state)) :
    Trace system start steps state := by
  induction actions generalizing start steps with
  | nil =>
    obtain ⟨rfl, rfl⟩ := Prod.mk.inj (Option.some.inj ran)
    exact .nil
  | cons action rest inductionHypothesis =>
    obtain ⟨⟨next, output⟩, taken, later⟩ := Option.bind_eq_some_iff.mp ran
    obtain ⟨⟨others, last⟩, worked, same⟩ := Option.map_eq_some_iff.mp later
    obtain ⟨rfl, rfl⟩ := Prod.mk.inj same
    exact cons taken (inductionHypothesis worked)

/-- There is a trace with what can be checked of a computed run. -/
theorem exists_of_run? (system : System S A O) (start : S) (actions : List A)
    (checks : List (Step S A O) → S → Bool)
    (ran : (run? system start actions).any fun (steps, state) => checks steps state) :
    ∃ steps state, Trace system start steps state ∧ checks steps state := by
  cases worked : run? system start actions with
  | none =>
    rw [worked] at ran
    cases ran
  | some reached =>
    obtain ⟨steps, state⟩ := reached
    rw [worked] at ran
    exact ⟨steps, state, of_run? worked, ran⟩

end Trace

/-! ### Counting -/

/-- There is at most one of a kind if no two of them can follow each other. -/
theorem countP_le_one {A : Type} {counts : A → Bool} {members : List A}
    (excluded : members.Pairwise fun earlier later => counts earlier → ¬counts later) :
    members.countP counts ≤ 1 := by
  induction members with
  | nil => exact Nat.zero_le _
  | cons first rest inductionHypothesis =>
    rw [List.pairwise_cons] at excluded
    rw [List.countP_cons]
    by_cases counted : counts first
    · have others : rest.countP counts = 0 :=
        List.countP_eq_zero.mpr fun later member => excluded.1 later member counted
      exact Nat.le_of_eq (by rw [others, if_pos counted])
    · rw [if_neg counted]
      exact inductionHypothesis excluded.2

end UserDashboard
