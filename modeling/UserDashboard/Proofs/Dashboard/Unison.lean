/-
This file proves that a runner and its mirror stay together as tasks take their turns and time
passes.

Tasks of other accounts take turns of their own, and time stops at their alarms as well. At such a
moment nothing is due in the mirror, so it does not matter that time stops there. The mirror needs
fewer turns and fewer stops. Both have been given enough: nobody can go on after the turns of
either, and as all have begun and called by then, every stop leaves fewer alarms.
-/

import UserDashboard.Proofs.Dashboard.Reflection

namespace UserDashboard.Dashboard

open Aggregation Catalog Time

namespace Runner

variable {decided : Prop} {runner image after : Runner} {subject : SubjectId} {rename : Nat → Nat}
  {task : Task}
  {channels : Broadcast Event × Broadcast Event} {accounts : List SubjectId} {rest : List Task}
  {bound fewer : Nat} {moment target : Moment}

/-! ### Runners with room for all accounts -/

/-- What always holds of a runner with room for the dashboards of all accounts. -/
structure Lodged (accounts : List SubjectId) (runner : Runner) : Prop where
  inHand : runner.InHand
  housed : runner.state.Housed accounts

namespace Lodged

/-- What the task does whose turn it is. -/
theorem does (lodged : runner.Lodged accounts) (waiting : runner.ready = task :: rest) :
    Does task.id task.subject { runner with ready := rest }
      ({ runner with ready := rest }.turn task) :=
  does_turn task (lodged.inHand.subject_of_call
    (lodged.inHand.attributed.ready task (waiting ▸ List.mem_cons_self)))

theorem turn (lodged : runner.Lodged accounts) (waiting : runner.ready = task :: rest) :
    ({ runner with ready := rest }.turn task).Lodged accounts :=
  ⟨(lodged.inHand.turn waiting).1, lodged.inHand.state_turn waiting
    (fun actor taken _ housed => housed.act actor taken) lodged.housed⟩

theorem turns (lodged : runner.Lodged accounts) (bound : Nat) :
    (turns bound runner).Lodged accounts :=
  ⟨lodged.inHand.turns bound, lodged.inHand.state_turns
    (fun actor taken _ housed => housed.act actor taken) lodged.housed bound⟩

theorem settle (lodged : runner.Lodged accounts) : runner.settle.Lodged accounts :=
  lodged.turns _

theorem housed_waitUntil (lodged : runner.Lodged accounts) (moment : Moment) :
    (runner.waitUntil moment).state.Housed accounts := by
  have taken : runner.state.step? (.wait (moment - runner.now).toNat) =
      some ((runner.waitUntil moment).state, []) := rfl
  exact lodged.housed.step taken nofun

theorem ring (lodged : runner.Lodged accounts) (moment : Moment) :
    (runner.waitUntil moment).ring.Lodged accounts := by
  obtain ⟨tasks, later, wakes, -⟩ := (runner.waitUntil moment).wakes_ring
  exact ⟨lodged.inHand.ring moment, wakes.state ▸ lodged.housed_waitUntil moment⟩

theorem runUntil (lodged : runner.Lodged accounts) (target : Moment) (bound : Nat) :
    (Runner.runUntil target bound runner).Lodged accounts := by
  refine ⟨lodged.inHand.runUntil target bound, ?_⟩
  induction bound generalizing runner with
  | zero => exact (lodged.ring target).settle.housed
  | succ bound inductionHypothesis =>
    unfold Runner.runUntil
    split
    · split
      · exact inductionHypothesis (lodged.ring _).settle
      · exact lodged.housed_waitUntil target
    · exact lodged.housed_waitUntil target

theorem reach (lodged : runner.Lodged accounts) (moment : Moment) :
    (runner.reach moment).Lodged accounts :=
  lodged.settle.runUntil _ _

end Lodged

/-! ### Turns -/

theorem turns_of_nil (settled : runner.ready = []) (bound : Nat) : turns bound runner = runner := by
  cases bound with
  | zero => rfl
  | succ bound =>
    unfold turns
    rw [settled]

theorem turns_of_cons (waiting : runner.ready = task :: rest) (bound : Nat) :
    turns (bound + 1) runner = turns bound ({ runner with ready := rest }.turn task) := by
  conv => lhs; unfold turns
  rw [waiting]

/-- However many turns are given until nobody can go on, all comes to the same. -/
theorem turns_eq (settled : (turns bound runner).ready = [])
    (settledToo : (turns fewer runner).ready = []) : turns fewer runner = turns bound runner := by
  induction bound generalizing runner fewer with
  | zero => exact turns_of_nil settled fewer
  | succ bound inductionHypothesis =>
    cases waiting : runner.ready with
    | nil => rw [turns_of_nil waiting, turns_of_nil waiting]
    | cons task rest =>
      cases fewer with
      | zero => cases waiting.symm.trans settledToo
      | succ fewer =>
        rw [turns_of_cons waiting] at settled settledToo ⊢
        rw [turns_of_cons waiting]
        exact inductionHypothesis settled settledToo

namespace Mirrors

theorem ready_eq_nil (mirrors : Mirrors decided subject rename channels runner image)
    (settled : runner.ready = []) : image.ready = [] := by
  rw [mirrors.ready, readyOf, settled]
  rfl

/-- The mirror comes to rest in fewer turns. -/
theorem turns (mirrors : Mirrors decided subject rename channels runner image)
    (injective : rename.Injective) (lodged : runner.Lodged accounts)
    (settled : (turns bound runner).ready = []) :
    ∃ fewer, Mirrors decided subject rename channels (Runner.turns bound runner)
      (Runner.turns fewer image) := by
  induction bound generalizing runner image with
  | zero => exact ⟨0, mirrors⟩
  | succ bound inductionHypothesis =>
    cases waiting : runner.ready with
    | nil =>
      rw [turns_of_nil waiting]
      exact ⟨0, mirrors⟩
    | cons task rest =>
      rw [turns_of_cons waiting] at settled ⊢
      have owns := lodged.inHand.attributed.ready task (waiting ▸ List.mem_cons_self)
      have made := lodged.inHand.subject_of_call owns
      by_cases own : task.subject = subject
      · have reflected : image.ready =
            task.renamed rename ::
              (rest.filter (·.subject = subject)).map (Task.renamed rename) := by
          rw [mirrors.ready, readyOf, waiting, List.filter_cons_of_pos (by simpa using own)]
          rfl
        have popped : Mirrors decided subject rename channels { runner with ready := rest }
            { image with ready := (rest.filter (·.subject = subject)).map (Task.renamed rename) } :=
          { mirrors with ready := rfl }
        have turned := popped.turn injective lodged.housed.orderly own (own ▸ owns) (own ▸ made)
        obtain ⟨fewer, later⟩ := inductionHypothesis turned (lodged.turn waiting) settled
        exact ⟨fewer + 1, turns_of_cons reflected fewer ▸ later⟩
      · have passed : Untouched subject runner { runner with ready := rest } := by
          refine ⟨.refl _ _, rfl, rfl, rfl, ?_, rfl, rfl, rfl, [], rfl,
            fun _ member => by cases member⟩
          unfold readyOf
          rw [waiting, List.filter_cons_of_neg (by simpa using own)]
        have turned := (lodged.does waiting).untouched lodged.housed owns made own
        exact inductionHypothesis (mirrors.of_untouched (passed.trans turned)) (lodged.turn waiting)
          settled

/-- Both come to rest together. -/
theorem settle (mirrors : Mirrors decided subject rename channels runner image)
    (injective : rename.Injective) (lodged : runner.Lodged accounts) (inHand : image.InHand) :
    Mirrors decided subject rename channels runner.settle image.settle := by
  have settled := lodged.inHand.settle.2
  obtain ⟨fewer, later⟩ := mirrors.turns injective lodged settled
  have same : Runner.turns fewer image = image.settle :=
    turns_eq inHand.settle.2 (later.ready_eq_nil settled)
  exact same ▸ later

end Mirrors

/-! ### Alarms -/

theorem alarms_ring (runner : Runner) :
    runner.ring.alarms = runner.alarms.filter fun alarm => runner.now < alarm.1 := by
  rw [ring_eq]
  exact (wakes_wakeAll _ _).alarms

/-- Nothing happens when no alarm is due. -/
theorem ring_of_later (early : ∀ alarm ∈ runner.alarms, runner.now < alarm.1) :
    runner.ring = runner := by
  have none : (runner.alarms.filter fun alarm => alarm.1 ≤ runner.now) = [] := by
    refine List.filter_eq_nil_iff.mpr fun alarm set due => ?_
    exact absurd (of_decide_eq_true due) (Int.not_le.mpr (early alarm set))
  have all : (runner.alarms.filter fun alarm => runner.now < alarm.1) = runner.alarms :=
    List.filter_eq_self.mpr fun alarm set => decide_eq_true (early alarm set)
  rw [ring_eq, none, all]
  rfl

theorem mem_of_nextAlarm? {alarms : List (Moment × Task)} (next : nextAlarm? alarms = some moment) :
    ∃ alarm ∈ alarms, alarm.1 = moment := by
  induction alarms generalizing moment with
  | nil => cases next
  | cons first rest inductionHypothesis =>
    unfold nextAlarm? at next
    split at next
    · obtain rfl := Option.some.inj next
      exact ⟨first, List.mem_cons_self, rfl⟩
    · rename_i other found
      obtain rfl := Option.some.inj next
      rcases Int.le_total first.1 other with sooner | later
      · exact ⟨first, List.mem_cons_self, (Int.min_eq_left sooner).symm⟩
      · obtain ⟨alarm, set, same⟩ := inductionHypothesis found
        exact ⟨alarm, List.mem_cons_of_mem _ set, same.trans (Int.min_eq_right later).symm⟩

/-- Turns set no alarm when all have begun and called. -/
theorem InHand.alarms_turns (inHand : runner.InHand) (calm : runner.state.Calm) (bound : Nat) :
    (Runner.turns bound runner).alarms.Sublist runner.alarms := by
  induction bound generalizing runner with
  | zero => exact List.Sublist.refl _
  | succ bound inductionHypothesis =>
    cases waiting : runner.ready with
    | nil => rw [turns_of_nil waiting]
    | cons task rest =>
      have later := inHand.state_turn waiting (P := Calm)
        (fun actor taken orderly calm => calm.change orderly (change_of_step taken) actor) calm
      have still : { runner with ready := rest }.state.Calm := calm
      rw [turns_of_cons waiting]
      exact (inductionHypothesis (inHand.turn waiting).1 later).trans (alarms_turn still task)

/-- The next stop of a runner on its way. -/
def stop (runner : Runner) (moment : Moment) : Runner :=
  (runner.waitUntil moment).ring.settle

/-- The alarms that are left after a stop were not due at it. -/
theorem InHand.alarms_stop (inHand : runner.InHand) (settled : runner.ready = [])
    (moment : Moment) :
    (runner.stop moment).alarms.Sublist
      (runner.alarms.filter fun alarm => max runner.now moment < alarm.1) := by
  have calm : (runner.waitUntil moment).ring.state.Calm := by
    obtain ⟨tasks, later, wakes, -⟩ := (runner.waitUntil moment).wakes_ring
    rw [wakes.state]
    exact inHand.calm settled
  have left := (inHand.ring moment).alarms_turns calm
  rw [alarms_ring, waitUntil_now] at left
  exact left _

theorem InHand.now_stop (inHand : runner.InHand) (moment : Moment) :
    (runner.stop moment).now = max runner.now moment := by
  obtain ⟨tasks, later, wakes, -⟩ := (runner.waitUntil moment).wakes_ring
  refine (inHand.ring moment).now_settle.trans ?_
  rw [← waitUntil_now]
  exact congrArg Aggregation.now wakes.state

theorem InHand.length_stop_lt (inHand : runner.InHand) (settled : runner.ready = [])
    {alarm : Moment × Task} (set : alarm ∈ runner.alarms) (due : alarm.1 ≤ max runner.now moment) :
    (runner.stop moment).alarms.length < runner.alarms.length := by
  refine Nat.lt_of_le_of_lt (inHand.alarms_stop settled moment).length_le ?_
  refine List.length_filter_lt_length_iff_exists.mpr ⟨alarm, set, fun later => ?_⟩
  exact absurd (of_decide_eq_true later) (Int.not_lt.mpr due)

/-- At a stop before all alarms nothing happens. -/
theorem stop_of_later (settled : runner.ready = [])
    (early : ∀ alarm ∈ runner.alarms, max runner.now moment < alarm.1) :
    runner.stop moment = runner.waitUntil moment := by
  have none : (runner.waitUntil moment).ring = runner.waitUntil moment := by
    refine ring_of_later fun alarm set => ?_
    rw [waitUntil_now]
    exact early alarm set
  have nobody : (runner.waitUntil moment).ready = [] := settled
  rw [stop, none]
  exact turns_of_nil nobody _

theorem runUntil_succ_of_some (next : nextAlarm? runner.alarms = some moment)
    (within : moment ≤ target) (bound : Nat) :
    runUntil target (bound + 1) runner = runUntil target bound (runner.stop moment) := by
  conv => lhs; unfold runUntil
  simp only [next, if_pos within]
  rfl

/-- Nothing happens on the way to a moment before all alarms. -/
theorem runUntil_of_later (settled : runner.ready = [])
    (early : ∀ alarm ∈ runner.alarms, max runner.now target < alarm.1) (bound : Nat) :
    runUntil target bound runner = runner.waitUntil target := by
  cases bound with
  | zero => exact stop_of_later settled early
  | succ bound =>
    unfold runUntil
    split
    · rename_i moment next
      refine if_neg fun within => ?_
      obtain ⟨alarm, set, rfl⟩ := mem_of_nextAlarm? next
      have after := Int.lt_of_le_of_lt (le_max_right runner.now target) (early alarm set)
      exact absurd within (Int.not_le.mpr after)
    · rfl

/-- It does not matter whether time stops before all alarms. -/
theorem runUntil_waitUntil
    (early : ∀ alarm ∈ runner.alarms, max runner.now moment < alarm.1) (before : moment ≤ target)
    (bound : Nat) :
    runUntil target bound (runner.waitUntil moment) = runUntil target bound runner := by
  have again : ∀ {later : Moment}, moment ≤ later →
      (runner.waitUntil moment).waitUntil later = runner.waitUntil later := by
    intro later ordered
    simp only [waitUntil_eq, now]
    rw [max_assoc, max_eq_right ordered]
  cases bound with
  | zero =>
    unfold runUntil
    rw [again before]
  | succ bound =>
    have same : (runner.waitUntil moment).alarms = runner.alarms := rfl
    unfold runUntil
    rw [same]
    split
    · rename_i other next
      obtain ⟨alarm, set, rfl⟩ := mem_of_nextAlarm? next
      have after := Int.lt_of_le_of_lt (le_max_right runner.now moment) (early alarm set)
      rw [again (Int.le_of_lt after), again before]
    · exact again before

/-- Time may stop at a moment before which there is no alarm. -/
theorem InHand.runUntil_stop (inHand : runner.InHand) (settled : runner.ready = [])
    (least : ∀ alarm ∈ runner.alarms, moment ≤ alarm.1) (within : moment ≤ target)
    (early : runner.now ≤ target) (enough : runner.alarms.length ≤ bound) :
    ∃ left, (runner.stop moment).alarms.length ≤ left ∧
      Runner.runUntil target left (runner.stop moment) = Runner.runUntil target bound runner := by
  by_cases due : ∃ alarm ∈ runner.alarms, alarm.1 ≤ max runner.now moment
  · obtain ⟨alarm, set, due⟩ := due
    cases next : nextAlarm? runner.alarms with
    | none => exact nomatch eq_nil_of_nextAlarm? next ▸ set
    | some first =>
      -- The next alarm goes off at that moment, or was due even before it.
      obtain ⟨original, there, same⟩ := mem_of_nextAlarm? next
      have sooner : first ≤ max runner.now moment :=
        Int.le_trans (le_of_nextAlarm? next alarm set) due
      have meets : max runner.now first = max runner.now moment :=
        le_antisymm (max_le (le_max_left _ _) sooner)
          (max_le_max_left _ (same ▸ least original there))
      have stops : runner.stop first = runner.stop moment := by
        unfold stop
        rw [waitUntil_eq, waitUntil_eq, meets]
      have fewer := inHand.length_stop_lt settled set due
      cases bound with
      | zero => omega
      | succ bound =>
        refine ⟨bound, by omega, ?_⟩
        rw [runUntil_succ_of_some next (Int.le_trans sooner (max_le early within)), stops]
  · have later : ∀ alarm ∈ runner.alarms, max runner.now moment < alarm.1 :=
      fun alarm set => Int.not_le.mp fun passed => due ⟨alarm, set, passed⟩
    rw [stop_of_later settled later]
    exact ⟨bound, enough, runUntil_waitUntil later within bound⟩

/-! ### Time -/

namespace Mirrors

theorem waitUntil (mirrors : Mirrors decided subject rename channels runner image)
    (moment : Moment) :
    Mirrors decided subject rename channels (runner.waitUntil moment) (image.waitUntil moment) := by
  rw [waitUntil_eq, waitUntil_eq, mirrors.now]
  have state := mirrors.state
  refine ⟨⟨rfl, state.recentLimit, state.deadline, state.ttl, fun later ordered => ?_, state.flight,
    state.refreshes⟩, mirrors.timeout, mirrors.statistics, mirrors.listings, mirrors.ready,
    mirrors.calls, mirrors.alarms, mirrors.chance, mirrors.told⟩
  exact state.live later (Int.le_trans (le_max_left _ _) ordered)

/-- The alarms that satisfy a condition on their moment. -/
theorem filter_alarms (mirrors : Mirrors decided subject rename channels runner image)
    (condition : Moment → Bool) :
    image.alarms.filter (fun alarm => condition alarm.1) =
      ((runner.alarms.filter fun alarm => condition alarm.1).filter (·.2.subject = subject)).map
        (renamedAlarm rename) := by
  rw [mirrors.alarms, List.filter_map, alarmsOf, List.filter_comm]
  rfl

theorem ring (mirrors : Mirrors decided subject rename channels runner image)
    (injective : rename.Injective) :
    Mirrors decided subject rename channels runner.ring image.ring := by
  rw [ring_eq, ring_eq, mirrors.now]
  have later : Mirrors decided subject rename channels
      { runner with alarms := runner.alarms.filter fun alarm => runner.now < alarm.1 }
      { image with alarms := image.alarms.filter fun alarm => runner.now < alarm.1 } :=
    { mirrors with alarms := mirrors.filter_alarms fun moment => runner.now < moment }
  have due := mirrors.filter_alarms fun moment => moment ≤ runner.now
  have woken : (image.alarms.filter fun alarm => alarm.1 ≤ runner.now).map Prod.snd =
      (((runner.alarms.filter fun alarm => alarm.1 ≤ runner.now).map Prod.snd).filter
        (·.subject = subject)).map (Task.renamed rename) := by
    rw [due, List.map_map, List.filter_map, List.map_map]
    rfl
  rw [woken]
  exact later.wakeAll injective _

theorem stop (mirrors : Mirrors decided subject rename channels runner image)
    (injective : rename.Injective) (lodged : runner.Lodged accounts) (inHand : image.InHand)
    (moment : Moment) :
    Mirrors decided subject rename channels (runner.stop moment) (image.stop moment) :=
  ((mirrors.waitUntil moment).ring injective).settle injective (lodged.ring moment)
    (inHand.ring moment)

/-- The moments of alarms in the mirror are those of alarms of the runner. -/
theorem exists_alarm (mirrors : Mirrors decided subject rename channels runner image)
    {alarm : Moment × Task} (set : alarm ∈ image.alarms) :
    ∃ original ∈ runner.alarms, original.1 = alarm.1 := by
  rw [mirrors.alarms] at set
  obtain ⟨original, own, rfl⟩ := List.mem_map.mp set
  exact ⟨original, (List.mem_filter.mp own).1, rfl⟩

/-- Both arrive together when there is no alarm on the way. -/
theorem arrive (mirrors : Mirrors decided subject rename channels runner image)
    (settled : runner.ready = []) (early : runner.now ≤ target)
    (later : ∀ alarm ∈ runner.alarms, target < alarm.1) (bound fewer : Nat) :
    Mirrors decided subject rename channels (Runner.runUntil target bound runner)
      (Runner.runUntil target fewer image) := by
  rw [runUntil_of_later settled, runUntil_of_later (mirrors.ready_eq_nil settled)]
  · exact mirrors.waitUntil target
  · intro alarm set
    obtain ⟨original, there, same⟩ := mirrors.exists_alarm set
    rw [mirrors.now, max_eq_right early, ← same]
    exact later original there
  · rwa [max_eq_right early]

/-- Both arrive together, however many stops of its own each of them makes. -/
theorem runUntil (mirrors : Mirrors decided subject rename channels runner image)
    (injective : rename.Injective) (lodged : runner.Lodged accounts) (inHand : image.InHand)
    (settled : runner.ready = []) (early : runner.now ≤ target)
    (enough : runner.alarms.length ≤ bound) (enoughToo : image.alarms.length ≤ fewer) :
    Mirrors decided subject rename channels (Runner.runUntil target bound runner)
      (Runner.runUntil target fewer image) := by
  -- At each stop some alarm goes off, and none is set again.
  induction bound generalizing runner image fewer with
  | zero =>
    have none : runner.alarms = [] := List.eq_nil_of_length_eq_zero (Nat.le_zero.mp enough)
    exact mirrors.arrive settled early (fun alarm set => nomatch none ▸ set) _ _
  | succ bound inductionHypothesis =>
    cases next : nextAlarm? runner.alarms with
    | none =>
      have none := eq_nil_of_nextAlarm? next
      exact mirrors.arrive settled early (fun alarm set => nomatch none ▸ set) _ _
    | some moment =>
      have least := le_of_nextAlarm? next
      by_cases within : moment ≤ target
      · obtain ⟨alarm, set, same⟩ := mem_of_nextAlarm? next
        rw [runUntil_succ_of_some next within]
        have stopped := mirrors.stop injective lodged inHand moment
        have rests : (runner.stop moment).ready = [] := (lodged.inHand.ring moment).settle.2
        have onTime : (runner.stop moment).now ≤ target :=
          lodged.inHand.now_stop moment ▸ max_le early within
        have due : alarm.1 ≤ max runner.now moment := same ▸ le_max_right _ _
        have shorter := lodged.inHand.length_stop_lt settled set due
        have leastToo : ∀ alarm ∈ image.alarms, moment ≤ alarm.1 := fun alarm set =>
          have ⟨original, there, same⟩ := mirrors.exists_alarm set
          same ▸ least original there
        obtain ⟨left, enoughLeft, goesOn⟩ := inHand.runUntil_stop (mirrors.ready_eq_nil settled)
          leastToo within (mirrors.now ▸ early) enoughToo
        rw [← goesOn]
        exact inductionHypothesis stopped (lodged.ring moment).settle (inHand.ring moment).settle.1
          rests onTime (by omega) enoughLeft
      · refine mirrors.arrive settled early (fun alarm set => ?_) _ _
        exact Int.lt_of_lt_of_le (Int.not_le.mp within) (least alarm set)

theorem reach (mirrors : Mirrors decided subject rename channels runner image)
    (injective : rename.Injective) (lodged : runner.Lodged accounts) (inHand : image.InHand)
    {moment : Moment} (ahead : runner.now ≤ moment) :
    Mirrors decided subject rename channels (runner.reach moment) (image.reach moment) := by
  have settled := mirrors.settle injective lodged inHand
  have early : runner.settle.now ≤ moment := lodged.inHand.now_settle ▸ ahead
  exact settled.runUntil injective lodged.settle inHand.settle.1 lodged.inHand.settle.2 early
    (Nat.le_refl _) (Nat.le_refl _)

theorem sleep (mirrors : Mirrors decided subject rename channels runner image)
    (injective : rename.Injective) (lodged : runner.Lodged accounts) (inHand : image.InHand)
    (nanos : Nat) :
    Mirrors decided subject rename channels (runner.sleep nanos) (image.sleep nanos) := by
  unfold Runner.sleep
  rw [mirrors.now]
  exact mirrors.reach injective lodged inHand (Int.le_add_of_nonneg_right (Int.natCast_nonneg _))

end Mirrors

end Runner

end UserDashboard.Dashboard
