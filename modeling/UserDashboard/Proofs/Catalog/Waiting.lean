/-
This file proves when those who wait for a call find that it is over, and what they find.

Whoever waits may be woken as often as one likes. Each time they look for the end of the call first
and for that of the timeout second. As long as neither has ended they find nothing and go on
waiting, so it is over when the first of the two has ended. If both have ended by then the call
counts.
-/

import UserDashboard.Catalog.Scripted

namespace UserDashboard.Catalog

open Time

namespace Wait

variable {α : Type} {wait : Wait} {ended : CallResult α} {now : Moment} {moments : List Moment}

/-- Nothing is found exactly as long as neither the call nor the timeout has ended. -/
theorem poll?_eq_none_iff : wait.poll? now ended = none ↔ now < wait.wakesAt := by
  unfold poll? wakesAt
  cases wait.callEnds with
  | none =>
    simp only [Option.any_none, Bool.false_eq_true, if_false, ite_eq_right_iff, reduceCtorEq,
      imp_false]
    exact Int.not_le
  | some ends =>
    simp only [Option.any_some, decide_eq_true_eq, Int.lt_min]
    split
    · rename_i past
      exact ⟨nofun, fun early => absurd past (Int.not_le.mpr early.1)⟩
    · rename_i early
      split
      · rename_i past
        exact ⟨nofun, fun early => absurd past (Int.not_le.mpr early.2)⟩
      · rename_i soon
        exact ⟨fun _ => ⟨Int.not_le.mp early, Int.not_le.mp soon⟩, fun _ => rfl⟩

/-- When the first of the two has ended, the call counts if it has ended. -/
theorem poll?_wakesAt : wait.poll? wait.wakesAt ended =
    some (if wait.callEnds.any (· ≤ wait.givesUp) then ended else .timedOut) := by
  unfold poll? wakesAt
  cases wait.callEnds with
  | none => simp
  | some ends =>
    simp only [Option.any_some, decide_eq_true_eq]
    by_cases inTime : ends ≤ wait.givesUp
    · simp only [Int.min_eq_left inTime, Int.le_refl, if_true, if_pos inTime]
    · have late := Int.le_of_lt (Int.not_le.mp inTime)
      simp only [Int.min_eq_right late, Int.le_refl, if_true, if_neg inTime]

/-- When someone finds that it is over who is woken at one moment after another, and what they
find. -/
def over? (wait : Wait) (ended : CallResult α) (moments : List Moment) :
    Option (Moment × CallResult α) :=
  moments.findSome? fun moment => (wait.poll? moment ended).map (moment, ·)

/-- However often they are woken, they find that it is over when the first of the two has ended, as
long as they are woken then. -/
theorem over?_eq (ordered : moments.Pairwise (· ≤ ·)) (woken : wait.wakesAt ∈ moments) :
    wait.over? ended moments = (wait.poll? wait.wakesAt ended).map (wait.wakesAt, ·) := by
  induction moments with
  | nil => cases woken
  | cons moment rest inductionHypothesis =>
    obtain ⟨first, later⟩ := List.pairwise_cons.mp ordered
    unfold over?
    rw [List.findSome?_cons]
    rcases List.mem_cons.mp woken with now | soon
    · rw [← now, poll?_wakesAt]
      rfl
    · rcases Int.lt_or_eq_of_le (first _ soon) with early | now
      · rw [poll?_eq_none_iff.mpr early]
        exact inductionHypothesis later soon
      · rw [now, poll?_wakesAt]
        rfl

end Wait

namespace Plan

variable {α : Type} {plan : Plan α} {now : Moment} {timeout : Span}

/-- A call that is made at a moment is answered no later than the timeout ends. -/
def Timely (plan : Plan α) (now : Moment) (timeout : Span) : Prop :=
  plan.course = .answer ∧ now + waking plan.delay ≤ timesOut now timeout

/-- When the call or the timeout has ended, whichever comes first. -/
def endsAt (plan : Plan α) (now : Moment) (timeout : Span) : Moment :=
  match plan.delay? with
  | none => timesOut now timeout
  | some delay => min (now + waking delay) (timesOut now timeout)

theorem le_endsAt (plan : Plan α) (now : Moment) (timeout : Span) :
    now ≤ plan.endsAt now timeout := by
  unfold endsAt
  split
  · exact now_le_wakesAt _ _
  · exact Int.le_min.mpr
      ⟨Int.le_add_of_nonneg_right (Int.natCast_nonneg _), now_le_wakesAt _ _⟩

theorem wakesAt_eq (plan : Plan α) (now : Moment) (timeout : Span) :
    (Wait.on now plan.delay? timeout).wakesAt = plan.endsAt now timeout := by
  unfold Wait.on Wait.wakesAt endsAt
  cases plan.delay? <;> rfl

/-- The end of a call counts if it comes no later than that of the timeout. -/
theorem poll?_eq (plan : Plan α) (now : Moment) (timeout : Span) :
    (Wait.on now plan.delay? timeout).poll? (plan.endsAt now timeout) (plan.ending plan.course) =
      some (if now + waking plan.delay ≤ timesOut now timeout then plan.ending plan.course
        else .timedOut) := by
  rw [← wakesAt_eq, Wait.poll?_wakesAt]
  unfold Wait.on delay?
  cases course : plan.course <;> simp [ending]

theorem fetch_eq (plan : Plan α) (now : Moment) (timeout : Span) :
    plan.fetch now timeout = (plan.endsAt now timeout,
      some (if now + waking plan.delay ≤ timesOut now timeout then plan.ending plan.course
        else .timedOut)) := by
  unfold fetch
  dsimp only
  rw [wakesAt_eq, poll?_eq]

theorem fetch_of_timely (timely : plan.Timely now timeout) :
    (plan.fetch now timeout).2 = some (.answered plan.value) := by
  obtain ⟨answered, early⟩ := timely
  rw [fetch_eq, if_pos early, answered]
  rfl

/-- A call that is not answered in time has failed, or took too long. -/
theorem fetch_of_not_timely (ends : plan.course ≠ .crash) (late : ¬plan.Timely now timeout) :
    (plan.fetch now timeout).2 = some .failed ∨ (plan.fetch now timeout).2 = some .timedOut := by
  rw [fetch_eq]
  split
  · rename_i early
    cases course : plan.course with
    | answer => exact absurd ⟨course, early⟩ late
    | fail => exact Or.inl rfl
    | hang => exact Or.inr rfl
    | crash => exact absurd course ends
  · exact Or.inr rfl

/-- A call that does not break off comes to something. -/
theorem exists_outcome (ends : plan.course ≠ .crash) (now : Moment) (timeout : Span) (default : α) :
    ∃ outcome, (plan.fetch now timeout).2.bind (·.outcome? default some) = some outcome := by
  by_cases timely : plan.Timely now timeout
  · rw [fetch_of_timely timely]
    exact ⟨_, rfl⟩
  · rcases fetch_of_not_timely ends timely with failed | timedOut
    · rw [failed]
      exact ⟨_, rfl⟩
    · rw [timedOut]
      exact ⟨_, rfl⟩

/-- Where delays and timeouts are whole milliseconds they are waited for exactly, and a timeout that
the clock cannot tell the end of is one of thirty years. -/
theorem endsAt_of_millis {delay limit : Nat} (whole : plan.delay = delay * nanosPerMilli)
    (wholeToo : timeout.nanos = limit * nanosPerMilli) :
    let patience := if (later? now timeout).isSome then timeout.nanos else farOff
    plan.endsAt now timeout = now + (plan.delay?.map (min · patience)).getD patience ∧
      (plan.Timely now timeout ↔ plan.course = .answer ∧ plan.delay ≤ patience) := by
  intro patience
  have call : waking plan.delay = plan.delay := by rw [whole, waking_millis]
  have timer : timesOut now timeout = now + patience := by
    rw [timesOut_of_millis wholeToo]
    unfold patience
    split
    · rename_i told
      rw [waitsUntil_of_told told]
    · rename_i untold
      rw [waitsUntil_of_untold (Option.not_isSome_iff_eq_none.mp untold)]
  have sooner : ∀ now : Int, min (now + (plan.delay : Int)) (now + (patience : Int)) =
      now + (min plan.delay patience : Nat) := by omega
  constructor
  · unfold endsAt delay?
    cases plan.course <;> simp only [call, timer, sooner now, Option.map_some,
      Option.map_none, Option.getD_some, Option.getD_none]
  · rw [Timely, call, timer]
    exact and_congr_right' ((Int.add_le_add_iff_left now).trans Int.ofNat_le)

end Plan

end UserDashboard.Catalog
