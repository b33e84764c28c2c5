/-
This file counts the refreshes that are started, that go on, and that are over.

Every refresh that is started has a number of its own. It goes on until it makes known how it ended,
which it does once, as long as the clock can tell until when a dashboard would be remembered. So
those that go on, together with those that have made something known, are those that were started,
each counted once. The number that is used up when a refresh is asked for and not started is that of
none.
-/

import UserDashboard.Proofs.Dashboard.Flight

namespace UserDashboard.Dashboard

open Cache Catalog Time

/-- Whether an event tells how a refresh ended. -/
def Event.isTerminal : Event → Bool
  | .refreshed _ _ | .refreshFailed _ _ => true
  | .invalidated _ => false

namespace Move

/-- The refresh that a caller is told to have started in a step, with its account. -/
def started? (move : Move) : Option (SubjectId × Nat) :=
  match move.action with
  | .snapshot subject => (move.before.snapshot subject).2.1.map (subject, ·)
  | .schedule subject => (move.before.schedule subject).1.map (subject, ·)
  | _ => none

/-- What a refresh makes known in a step, with its number. -/
def published (move : Move) : List (Nat × Event) :=
  match move.action.actor? with
  | some id => move.output.map (id, ·)
  | none => []

/-- The refreshes started in some steps. -/
def starts (moves : List Move) : List (SubjectId × Nat) :=
  moves.filterMap started?

/-- What refreshes make known in some steps. -/
def outcomes (moves : List Move) : List (Nat × Event) :=
  moves.flatMap published

variable {moves : List Move} {move : Move}

theorem starts_snoc : starts (moves ++ [move]) = starts moves ++ move.started?.toList := by
  rw [starts, List.filterMap_append, List.filterMap_cons]
  cases move.started? <;> rfl

theorem outcomes_snoc : outcomes (moves ++ [move]) = outcomes moves ++ move.published := by
  rw [outcomes, List.flatMap_append, List.flatMap_singleton]
  rfl

theorem mem_published {id : Nat} {event : Event} :
    (id, event) ∈ move.published ↔ move.action.actor? = some id ∧ event ∈ move.output := by
  unfold published
  cases move.action.actor? with
  | none => simp
  | some other =>
    simp only [List.mem_map, Prod.mk.injEq, Option.some.injEq]
    constructor
    · rintro ⟨told, member, rfl, rfl⟩
      exact ⟨rfl, member⟩
    · rintro ⟨rfl, member⟩
      exact ⟨event, member, rfl, rfl⟩

theorem mem_outcomes {id : Nat} {event : Event} :
    (id, event) ∈ outcomes moves ↔
      ∃ move ∈ moves, move.action.actor? = some id ∧ event ∈ move.output := by
  simp only [outcomes, List.mem_flatMap, mem_published]

end Move

namespace Aggregation

open Move

variable {start state after : Aggregation} {action : Action} {events : List Event}
  {moves : List Move} {subject : SubjectId} {id : Nat}

/-- The numbers of the refreshes that go on. -/
def running (state : Aggregation) : List Nat :=
  (state.refreshes.filter Refresh.isRunning).map Refresh.id

theorem mem_running : id ∈ state.running ↔ state.GoesOn id := by
  simp only [running, GoesOn, List.mem_map, List.mem_filter]
  constructor
  · rintro ⟨refresh, ⟨present, goesOn⟩, number⟩
    exact ⟨refresh, present, number, goesOn⟩
  · rintro ⟨refresh, present, number, goesOn⟩
    exact ⟨refresh, ⟨present, goesOn⟩, number⟩

theorem mem_running_of_refresh? {refresh : Refresh}
    (found : state.refresh? refresh.id = some refresh) (goesOn : refresh.isRunning) :
    refresh.id ∈ state.running :=
  mem_running.mpr ⟨refresh, (mem_refreshes_of_refresh? found).1, rfl, goesOn⟩

theorem running_nodup (orderly : Orderly state) : state.running.Nodup :=
  orderly.distinct.sublist (List.filter_sublist.map Refresh.id)

/-! ### What keeps refreshes going -/

/-- Which of some refreshes go on once they were changed. -/
theorem running_map {change : Refresh → Refresh} {goesOn : Refresh → Bool}
    {members : List Refresh} (alike : ∀ refresh ∈ members,
      (change refresh).id = refresh.id ∧ (change refresh).isRunning = goesOn refresh) :
    ((members.map change).filter Refresh.isRunning).map Refresh.id =
      (members.filter goesOn).map Refresh.id := by
  rw [List.filter_map, List.map_map]
  have same : members.filter (Refresh.isRunning ∘ change) = members.filter goesOn :=
    List.filter_congr fun refresh present => (alike refresh present).2
  rw [same]
  exact List.map_congr_left fun refresh kept => (alike refresh (List.mem_filter.mp kept).1).1

/-- A refresh that is changed goes on if it did. -/
theorem running_modify {change : Refresh → Refresh}
    (keeps : ∀ refresh ∈ state.refreshes, refresh.id = id →
      (change refresh).id = refresh.id ∧ (change refresh).isRunning = refresh.isRunning) :
    (state.modify id change).running = state.running := by
  refine running_map fun refresh present => ?_
  split
  · rename_i acts
    exact keeps refresh present acts
  · exact ⟨rfl, rfl⟩

theorem isDone_of_isRunning {refresh : Refresh} (goesOn : refresh.isRunning) :
    refresh.isDone = false := by
  obtain ⟨_, _, _, stage⟩ := refresh
  cases stage with
  | scheduled => rfl
  | fetching run => rfl
  | lingering run => cases goesOn

/-- Only what is over is tidied away. -/
theorem running_tidy (state : Aggregation) : state.tidy.running = state.running := by
  simp only [running, tidy, List.filter_filter]
  congr 1
  refine List.filter_congr fun refresh _ => ?_
  cases goesOn : refresh.isRunning with
  | true => rw [isDone_of_isRunning goesOn, Bool.not_false, Bool.and_self]
  | false => rw [Bool.false_and]

/-- A refresh that ends goes on no more, and all others do. -/
theorem running_retire (state : Aggregation) (id : Nat) (run : Run) (cancel : Bool) :
    (state.retire id run cancel).running = state.running.filter (· ≠ id) := by
  let ended : Refresh → Refresh := fun refresh =>
    { refresh with cancelled := refresh.cancelled || cancel, stage := .lingering run }
  have alike : ∀ refresh ∈ state.refreshes,
      (if refresh.id = id then ended refresh else refresh).id = refresh.id ∧
      (if refresh.id = id then ended refresh else refresh).isRunning =
        (decide (refresh.id ≠ id) && refresh.isRunning) := by
    intro refresh _
    by_cases acts : refresh.id = id
    · simp [acts, ended, Refresh.isRunning]
    · simp [acts]
  rw [retire, running_tidy, running, modify, running_map alike, running, List.filter_map,
    List.filter_filter]
  rfl

theorem running_schedule (state : Aggregation) (subject : SubjectId) :
    (state.schedule subject).2.running = state.running ++ (state.schedule subject).1.toList := by
  cases flight : state.flight? subject with
  | some id =>
    rw [schedule_of_some flight]
    exact (List.append_nil _).symm
  | none =>
    rw [schedule_of_none flight, running, List.filter_append, List.map_append]
    rfl

theorem running_invalidate (state : Aggregation) (subject : SubjectId) :
    (state.invalidate subject).running = state.running := by
  cases flight : state.flight? subject with
  | none => rw [invalidate_of_none flight]; rfl
  | some id =>
    rw [invalidate_of_some flight]
    have released : ((state.release subject).modify id ({ · with cancelled := true })).running =
        (state.release subject).running := running_modify fun _ _ _ => ⟨rfl, rfl⟩
    exact released

/-! ### What a step does to those that go on -/

/-- A caller makes nothing known about a refresh, and those that go on are joined by the one that
was started. -/
theorem running_of_caller (taken : state.step? action = some (after, events))
    (nobody : action.actor? = none) :
    after.running = state.running ++
        ((started? ⟨state, action, events, after⟩).toList.map Prod.snd) ∧
      events.filter Event.isTerminal = [] := by
  cases action with
  | snapshot subject =>
    obtain ⟨rfl, rfl⟩ := Prod.mk.inj (Option.some.inj taken)
    refine ⟨?_, rfl⟩
    simp only [started?]
    cases found : (state.cached subject).1 with
    | some snapshot =>
      rw [snapshot_of_some found]
      exact (List.append_nil _).symm
    | none =>
      rw [snapshot_of_none found]
      simp only [running_schedule]
      cases ((state.cached subject).2.schedule subject).1 <;> rfl
  | schedule subject =>
    obtain ⟨rfl, rfl⟩ := Prod.mk.inj (Option.some.inj taken)
    refine ⟨?_, rfl⟩
    simp only [started?, running_schedule]
    cases (state.schedule subject).1 <;> rfl
  | invalidate subject =>
    obtain ⟨rfl, rfl⟩ := Prod.mk.inj (Option.some.inj taken)
    exact ⟨(running_invalidate state subject).trans (List.append_nil _).symm, rfl⟩
  | cached | sweep | wait =>
    obtain ⟨rfl, rfl⟩ := Prod.mk.inj (Option.some.inj taken)
    exact ⟨(List.append_nil _).symm, rfl⟩
  | _ => cases nobody

/-- A refresh that acts goes on and makes nothing known, or ends and makes known how. -/
theorem Change.running_of_actor (changed : Change state action events after)
    (orderly : Orderly state) (acts : action.actor? = some id)
    (told : (later? state.now state.ttl).isSome) :
    events = [] ∧ after.running = state.running ∨
      ∃ event, events = [event] ∧ event.isTerminal ∧ id ∈ state.running ∧
        after.running = state.running.filter (· ≠ id) := by
  have goesOn : ∀ {refresh : Refresh} {run : Run}, refresh.stage = .fetching run →
      refresh.isRunning := fun {refresh run} fetching => by simp [Refresh.isRunning, fetching]
  cases changed with
  | quiet nobody => cases nobody.symm.trans acts
  | declined wanted => cases (actor?_of_wants? wanted).symm.trans acts
  | scheduled wanted => cases (actor?_of_wants? wanted).symm.trans acts
  | invalidated => cases acts
  | @begun refresh found scheduled =>
    refine Or.inl ⟨rfl, running_modify fun other present same => ⟨rfl, ?_⟩⟩
    rw [orderly.eq_of_id present (mem_refreshes_of_refresh? found).1 same]
    simp only [Refresh.isRunning, scheduled]
  | @fetched _ _ refresh run change found begun fetching led =>
    have moved : (state.modify refresh.id (·.withRun change)).running = state.running :=
      running_modify fun other _ _ => ⟨rfl, Orderly.isRunning_withRun other change⟩
    rcases led with rfl | rfl
    · exact Or.inl ⟨rfl, moved⟩
    · exact Or.inl ⟨rfl, (running_tidy _).trans moved⟩
  | committed commits =>
    obtain rfl := Option.some.inj acts
    exact Or.inr ⟨_, rfl, rfl, mem_running_of_refresh? commits.found (goesOn commits.fetching),
      running_retire _ _ _ _⟩
  | stranded found fetching assembled flying current untold =>
    rw [untold] at told
    cases told
  | superseded found fetching =>
    obtain rfl := Option.some.inj acts
    exact Or.inr ⟨_, rfl, rfl, mem_running_of_refresh? found (goesOn fetching),
      running_retire _ _ _ _⟩
  | @givenUp _ refresh run error cancel found fetching reason =>
    obtain ⟨flights, -, same⟩ := releaseOwn_eq state refresh
    have number : refresh.id = id := Option.some.inj (reason.actor?_eq.symm.trans acts)
    rw [same, ← number]
    exact Or.inr ⟨_, rfl, rfl, mem_running_of_refresh? found (goesOn fetching),
      running_retire _ _ _ _⟩

/-! ### Which refreshes are started -/

theorem schedule_eq_some {subject : SubjectId}
    (scheduled : (state.schedule subject).1 = some id) :
    id = state.nextId ∧ (state.schedule subject).2.nextId = state.nextId + 1 := by
  cases flight : state.flight? subject with
  | some other =>
    rw [schedule_of_some flight] at scheduled
    cases scheduled
  | none =>
    rw [schedule_of_none flight] at scheduled ⊢
    exact ⟨(Option.some.inj scheduled).symm, rfl⟩

/-- A refresh that is started has the next number, which is then used up. -/
theorem number_of_started (taken : state.step? action = some (after, events))
    (started : started? ⟨state, action, events, after⟩ = some (subject, id)) :
    id = state.nextId ∧ after.nextId = state.nextId + 1 := by
  cases action with
  | snapshot other =>
    obtain ⟨rfl, rfl⟩ := Prod.mk.inj (Option.some.inj taken)
    obtain ⟨number, told, same⟩ := Option.map_eq_some_iff.mp started
    obtain ⟨rfl, rfl⟩ := Prod.mk.inj same
    cases found : (state.cached other).1 with
    | some snapshot =>
      rw [snapshot_of_some found] at told
      cases told
    | none =>
      rw [snapshot_of_none found] at told ⊢
      exact schedule_eq_some told
  | schedule other =>
    obtain ⟨rfl, rfl⟩ := Prod.mk.inj (Option.some.inj taken)
    obtain ⟨number, told, same⟩ := Option.map_eq_some_iff.mp started
    obtain ⟨rfl, rfl⟩ := Prod.mk.inj same
    exact schedule_eq_some told
  | _ => cases started

/-- Whoever is new among the refreshes was started. -/
theorem started_of_fresh (taken : state.step? action = some (after, events))
    (wanted : action.wants? = some subject) (free : state.flight? subject = none)
    (fresh : ∃ refresh ∈ after.refreshes, refresh ∉ state.refreshes) :
    started? ⟨state, action, events, after⟩ = some (subject, state.nextId) := by
  cases action with
  | snapshot other =>
    obtain rfl := Option.some.inj wanted
    obtain ⟨rfl, rfl⟩ := Prod.mk.inj (Option.some.inj taken)
    simp only [started?]
    cases found : (state.cached other).1 with
    | some snapshot =>
      rw [snapshot_of_some found] at fresh
      obtain ⟨refresh, present, new⟩ := fresh
      exact absurd present new
    | none =>
      have grounded : (state.cached other).2.flight? other = none := free
      rw [snapshot_of_none found, schedule_of_none grounded]
      rfl
  | schedule other =>
    obtain rfl := Option.some.inj wanted
    simp only [started?]
    rw [schedule_of_none free]
    rfl
  | _ => cases wanted

/-- No two refreshes are started under one number. -/
theorem starts_nodup (trace : Trace step? start moves state) :
    ((starts moves).map Prod.snd).Nodup ∧
      ∀ id ∈ (starts moves).map Prod.snd, id < state.nextId := by
  induction trace with
  | nil => exact ⟨List.nodup_nil, fun id member => by cases member⟩
  | @snoc moves before after action events trace taken inductionHypothesis =>
    obtain ⟨distinct, given⟩ := inductionHypothesis
    have onward := (change_of_step taken).onward.numbers
    rw [starts_snoc]
    cases started : started? ⟨before, action, events, after⟩ with
    | none =>
      rw [Option.toList_none, List.append_nil]
      exact ⟨distinct, fun id member => Nat.lt_of_lt_of_le (given id member) onward⟩
    | some one =>
      obtain ⟨subject, id⟩ := one
      obtain ⟨rfl, used⟩ := number_of_started taken started
      refine ⟨nodup_snoc distinct fun other member => ?_, fun id member => ?_⟩
      · exact Nat.ne_of_lt (given _ (List.mem_map_of_mem member))
      · rw [used]
        rw [List.map_append] at member
        rcases List.mem_append.mp member with old | new
        · exact Nat.lt_succ_of_lt (given id old)
        · rw [List.mem_singleton.mp new]
          exact Nat.lt_succ_self _

/-! ### Started, going on, and over -/

/-- The refreshes that go on and those that made known how they ended are those that were started,
each counted once. -/
theorem balance_of_trace (orderly : Orderly start) (idle : start.refreshes = [])
    (trace : Trace step? start moves state) (told : (later? state.now state.ttl).isSome) :
    ((starts moves).map Prod.snd).Perm (state.running ++ (outcomes moves).map Prod.fst) ∧
      (outcomes moves).map Prod.snd = (moves.flatMap (·.output)).filter Event.isTerminal := by
  induction trace with
  | nil =>
    rw [running, idle]
    exact ⟨List.Perm.refl _, rfl⟩
  | @snoc moves before after action events trace taken inductionHypothesis =>
    have changed := change_of_step taken
    have earlier : (later? before.now before.ttl).isSome := by
      rw [changed.onward.ttl] at told
      exact later?_isSome_of_le changed.onward.time told
    obtain ⟨balance, terminal⟩ := inductionHypothesis earlier
    rw [starts_snoc, outcomes_snoc, List.map_append, List.map_append, List.map_append,
      List.flatMap_append, List.filter_append, ← terminal, List.flatMap_singleton]
    cases acts : action.actor? with
    | none =>
      obtain ⟨joined, silent⟩ := running_of_caller taken acts
      have nothing : published ⟨before, action, events, after⟩ = [] := by
        simp only [published, acts]
      rw [nothing, joined, silent, List.map_nil, List.append_nil]
      refine ⟨(balance.append_right _).trans ?_, rfl⟩
      rw [List.append_assoc, List.append_assoc]
      exact List.perm_append_comm.append_left _
    | some id =>
      have nobody : started? ⟨before, action, events, after⟩ = none := by
        cases action <;> first | rfl | cases acts
      have tells : published ⟨before, action, events, after⟩ = events.map (id, ·) := by
        simp only [published, acts]
      rw [nobody, tells, Option.toList_none, List.map_nil, List.append_nil]
      rcases changed.running_of_actor (orderly.of_trace trace) acts earlier with
        ⟨rfl, same⟩ | ⟨event, rfl, ends, was, left⟩
      · rw [same, List.map_nil, List.map_nil, List.append_nil]
        exact ⟨balance, rfl⟩
      · -- The refresh that ends moves from those that go on to those that are over.
        have apart : before.running.Perm (id :: before.running.filter (· ≠ id)) := by
          have distinct := running_nodup (orderly.of_trace trace)
          refine (List.perm_cons_erase was).trans ?_
          rw [distinct.erase_eq_filter]
          refine List.Perm.cons _ (List.Perm.of_eq (List.filter_congr fun other _ => ?_))
          rw [bne, decide_not]
          rfl
        refine ⟨balance.trans ((apart.append_right _).trans ?_), ?_⟩
        · rw [left, ← List.append_assoc]
          exact (List.perm_append_singleton id _).symm
        · rw [List.filter_cons_of_pos ends]
          rfl

/-! ### Refreshes that are not started -/

/-- The number that is used up for a refresh that is not started is that of none. -/
theorem number_of_declined (trace : Trace step? start moves state) {move : Move}
    (member : move ∈ moves) (asks : move.action = .schedule subject)
    (declines : (move.before.schedule subject).1 = none) (account : SubjectId) :
    (account, move.before.nextId) ∉ starts moves := by
  intro started
  obtain ⟨starter, present, starts⟩ := List.mem_filterMap.mp started
  obtain ⟨number, used⟩ := number_of_started (trace.taken present) starts
  obtain ⟨earlier, later, rfl⟩ := List.append_of_mem member
  obtain ⟨begun, taken, rest⟩ := trace.split
  rcases List.mem_append.mp present with old | new
  · obtain ⟨sooner, between, rfl⟩ := List.append_of_mem old
    obtain ⟨-, -, on⟩ := begun.split
    have onward := (onward_of_trace on).numbers
    omega
  rcases List.mem_cons.mp new with rfl | next
  · rw [started?, asks] at starts
    simp only [declines, Option.map_none] at starts
    cases starts
  · obtain ⟨between, last, rfl⟩ := List.append_of_mem next
    obtain ⟨on, -, -⟩ := rest.split
    have onward := (onward_of_trace on).numbers
    have wasted : move.after.nextId = move.before.nextId + 1 := by
      rw [asks] at taken
      obtain ⟨led, -⟩ := Prod.mk.inj (Option.some.inj taken)
      rw [← led]
      cases flight : move.before.flight? subject with
      | none =>
        rw [schedule_of_none flight] at declines
        cases declines
      | some other => rw [schedule_of_some flight]
    omega

end Aggregation

end UserDashboard.Dashboard
