/-
This file proves when a sweeper sweeps and what it leaves.

While it runs its stores are used, time passes in steps of any length, and a tick that is due may
wait until it is answered. Whatever happens, the next tick is due within a period of the last one
that was answered, or of the start: a late tick delays the next one only by as much as it was late
itself. And what the stores hold expires after the last sweep, because a sweep leaves nothing else
and what is stored later lives for a while. So once no tick is due, nothing has been expired for a
whole period.
-/

import UserDashboard.Proofs.Cache.Sweeper
import UserDashboard.Proofs.Trace
import Mathlib.Data.List.Forall2

namespace UserDashboard.Cache

open Time

/-! ### Stores -/

/-- A store of entries that expire, which is used at the moments of a clock. A sweep removes what
has expired and nothing else, and what a use stores lives for a while. -/
class TimedStore (S : Type) (U : outParam Type) extends Sweepable S where
  /-- The store after it was used, if it can be used so. -/
  use? : Moment → S → U → Option S
  /-- How long what is stored lives at most. -/
  ttl : S → Span
  /-- When the entries expire. -/
  expiries : S → List Moment
  removed_sweep : ∀ now store, (sweep now store).1 = (expiries store).countP (· ≤ now)
  expiries_sweep : ∀ now store, expiries (sweep now store).2 = (expiries store).filter (now < ·)
  ttl_sweep : ∀ now store, ttl (sweep now store).2 = ttl store
  ttl_use : ∀ {now store use after}, use? now store use = some after → ttl after = ttl store
  expiries_use : ∀ {now store use after}, use? now store use = some after →
    0 < (ttl store).nanos → ∀ expiry ∈ expiries after, expiry ∈ expiries store ∨ now < expiry

section Sum

variable {S T U V : Type} [TimedStore S U] [TimedStore T V]

/-- The store after it was used, if the use is one of its kind. -/
def useEither? (now : Moment) : S ⊕ T → U ⊕ V → Option (S ⊕ T)
  | .inl store, .inl use => (TimedStore.use? now store use).map .inl
  | .inr store, .inr use => (TimedStore.use? now store use).map .inr
  | .inl _, .inr _ | .inr _, .inl _ => none

theorem of_useEither? {now : Moment} {store after : S ⊕ T} {use : U ⊕ V}
    (led : useEither? now store use = some after) :
    (∃ before kind reached, TimedStore.use? (S := S) now before kind = some reached ∧
      store = .inl before ∧ after = .inl reached) ∨
    ∃ before kind reached, TimedStore.use? (S := T) now before kind = some reached ∧
      store = .inr before ∧ after = .inr reached := by
  cases store with
  | inl before =>
    cases use with
    | inl kind =>
      obtain ⟨reached, worked, rfl⟩ := Option.map_eq_some_iff.mp led
      exact Or.inl ⟨before, kind, reached, worked, rfl, rfl⟩
    | inr kind => cases led
  | inr before =>
    cases use with
    | inl kind => cases led
    | inr kind =>
      obtain ⟨reached, worked, rfl⟩ := Option.map_eq_some_iff.mp led
      exact Or.inr ⟨before, kind, reached, worked, rfl, rfl⟩

/-- There may be stores of two kinds side by side. -/
instance : TimedStore (S ⊕ T) (U ⊕ V) where
  sweep now
    | .inl store => (Sweepable.sweep now store).map id .inl
    | .inr store => (Sweepable.sweep now store).map id .inr
  use? := useEither?
  ttl := Sum.elim TimedStore.ttl TimedStore.ttl
  expiries := Sum.elim TimedStore.expiries TimedStore.expiries
  removed_sweep
    | now, .inl store => TimedStore.removed_sweep now store
    | now, .inr store => TimedStore.removed_sweep now store
  expiries_sweep
    | now, .inl store => TimedStore.expiries_sweep now store
    | now, .inr store => TimedStore.expiries_sweep now store
  ttl_sweep
    | now, .inl store => TimedStore.ttl_sweep now store
    | now, .inr store => TimedStore.ttl_sweep now store
  ttl_use led := by
    rcases of_useEither? led with ⟨_, _, _, worked, rfl, rfl⟩ | ⟨_, _, _, worked, rfl, rfl⟩
    · exact TimedStore.ttl_use worked
    · exact TimedStore.ttl_use worked
  expiries_use led := by
    rcases of_useEither? led with ⟨_, _, _, worked, rfl, rfl⟩ | ⟨_, _, _, worked, rfl, rfl⟩
    · exact TimedStore.expiries_use worked
    · exact TimedStore.expiries_use worked

end Sum

variable {S U : Type} [TimedStore S U]

/-! ### A sweep of all stores -/

/-- A store was swept at a moment. This was counted, and what had not expired is left. -/
structure Swept.ClearedAt (now : Moment) (target cleared : Swept S) : Prop where
  counted : cleared.sweeps = target.sweeps + 1
  left : TimedStore.expiries cleared.store = (TimedStore.expiries target.store).filter (now < ·)
  ttl : TimedStore.ttl cleared.store = TimedStore.ttl target.store

/-- When the entries of all stores expire. -/
def expiriesIn (targets : List (Swept S)) : List Moment :=
  targets.flatMap fun target => TimedStore.expiries target.store

/-- A sweep leaves out none of the stores. -/
theorem cleared_sweepAll (now : Moment) (targets : List (Swept S)) :
    List.Forall₂ (Swept.ClearedAt now) targets (sweepAll now targets).2 := by
  induction targets with
  | nil => exact .nil
  | cons target targets inductionHypothesis =>
    exact .cons ⟨rfl, TimedStore.expiries_sweep _ _, TimedStore.ttl_sweep _ _⟩ inductionHypothesis

theorem removed_sweepAll (now : Moment) (targets : List (Swept S)) :
    (sweepAll now targets).1 = (expiriesIn targets).countP (· ≤ now) := by
  induction targets with
  | nil => rfl
  | cons target targets inductionHypothesis =>
    rw [expiriesIn, List.flatMap_cons, List.countP_append, ← TimedStore.removed_sweep]
    exact congrArg _ inductionHypothesis

theorem expiriesIn_sweepAll (now : Moment) (targets : List (Swept S)) :
    expiriesIn (sweepAll now targets).2 = (expiriesIn targets).filter (now < ·) := by
  have cleared := cleared_sweepAll now targets
  generalize (sweepAll now targets).2 = after at cleared ⊢
  induction cleared with
  | nil => rfl
  | cons first _ inductionHypothesis =>
    simp only [expiriesIn, List.flatMap_cons, List.filter_append] at inductionHypothesis ⊢
    rw [first.left, inductionHypothesis]

namespace Sweeping

/-! ### Runs -/

/-- What can happen to stores while a sweeper runs. -/
inductive Action (U : Type) where
  /-- Someone uses a store. -/
  | use (index : Nat) (use : U)
  /-- Someone else sweeps. -/
  | sweep
  /-- Time passes, and nothing else happens. -/
  | wait (nanos : Nat)
  /-- A tick that is due is answered. -/
  | tick

/-- Whether all stores are swept. -/
def Action.sweeps : Action U → Bool
  | .sweep | .tick => true
  | .use _ _ | .wait _ => false

/-- The state after an action and how many entries a sweep in it removed, if it can happen. -/
def step? (sweeping : Sweeping S) : Action U → Option (Sweeping S × Nat)
  | .use index use =>
    sweeping.targets[index]?.bind fun target =>
      (TimedStore.use? sweeping.now target.store use).map fun store =>
        ({ sweeping with targets := sweeping.targets.set index { target with store } }, 0)
  | .sweep => some (sweeping.sweepOnce.2, sweeping.sweepOnce.1)
  | .wait nanos => some ({ sweeping with now := sweeping.now + nanos }, 0)
  | .tick =>
    match sweeping.handle with
    | some (.running ticker) =>
      if ticker.due ≤ sweeping.now then some (sweeping.tick ticker, sweeping.sweepOnce.1) else none
    | _ => none

/-- What a step does. -/
inductive Change (sweeping : Sweeping S) : Action U → Nat → Sweeping S → Prop where
  /-- A store was used. -/
  | used {index : Nat} {use : U} {target : Swept S} {store : S}
      (found : sweeping.targets[index]? = some target)
      (led : TimedStore.use? sweeping.now target.store use = some store) :
      Change sweeping (.use index use) 0
        { sweeping with targets := sweeping.targets.set index { target with store } }
  /-- All stores were swept. -/
  | swept : Change sweeping .sweep sweeping.sweepOnce.1 sweeping.sweepOnce.2
  /-- Time passed. -/
  | waited (nanos : Nat) :
      Change sweeping (.wait nanos) 0 { sweeping with now := sweeping.now + nanos }
  /-- A tick was answered. -/
  | ticked {ticker : Ticker} (running : sweeping.handle = some (.running ticker))
      (due : ticker.due ≤ sweeping.now) :
      Change sweeping .tick sweeping.sweepOnce.1 (sweeping.tick ticker)

variable {sweeping after : Sweeping S} {action : Action U} {removed : Nat} {start : Moment}
  {period : Span}

theorem change_of_step (taken : sweeping.step? action = some (after, removed)) :
    Change sweeping action removed after := by
  cases action with
  | use index use =>
    obtain ⟨target, found, worked⟩ := Option.bind_eq_some_iff.mp taken
    obtain ⟨store, led, same⟩ := Option.map_eq_some_iff.mp worked
    obtain ⟨rfl, rfl⟩ := Prod.mk.inj same
    exact .used found led
  | sweep =>
    obtain ⟨rfl, rfl⟩ := Prod.mk.inj (Option.some.inj taken)
    exact .swept
  | wait nanos =>
    obtain ⟨rfl, rfl⟩ := Prod.mk.inj (Option.some.inj taken)
    exact .waited nanos
  | tick =>
    simp only [step?] at taken
    split at taken
    · rename_i ticker running
      split at taken
      · rename_i due
        obtain ⟨rfl, rfl⟩ := Prod.mk.inj (Option.some.inj taken)
        exact .ticked running due
      · cases taken
    · cases taken

/-- In all stores, what is stored lives for a while. -/
def Lasting (targets : List (Swept S)) : Prop :=
  ∀ target ∈ targets, 0 < (TimedStore.ttl target.store).nanos

theorem lasting_sweepAll {targets : List (Swept S)} (lasting : Lasting targets) (now : Moment) :
    Lasting (sweepAll now targets).2 := by
  have cleared := cleared_sweepAll now targets
  generalize (sweepAll now targets).2 = after at cleared ⊢
  induction cleared with
  | nil => exact lasting
  | cons first _ inductionHypothesis =>
    obtain ⟨lives, rest⟩ := List.forall_mem_cons.mp lasting
    refine List.forall_mem_cons.mpr ⟨?_, inductionHypothesis rest⟩
    rw [first.ttl]
    exact lives

theorem Change.lasting (changed : Change sweeping action removed after)
    (lasting : Lasting sweeping.targets) : Lasting after.targets := by
  cases changed with
  | @used index use target store found led =>
    intro other member
    rcases List.mem_or_eq_of_mem_set member with old | rfl
    · exact lasting other old
    · rw [TimedStore.ttl_use led]
      exact lasting target (List.mem_of_getElem? found)
  | swept => exact lasting_sweepAll lasting _
  | waited => exact lasting
  | ticked => exact lasting_sweepAll lasting _

theorem Change.le_now (changed : Change sweeping action removed after) :
    sweeping.now ≤ after.now := by
  cases changed with
  | used | swept | ticked => exact Int.le_refl _
  | waited nanos => exact Int.le_add_of_nonneg_right (Int.natCast_nonneg nanos)

/-- Whatever expires after a step expired as late before, or it was just stored and is live. -/
theorem Change.mem_expiriesIn (changed : Change sweeping action removed after)
    (lasting : Lasting sweeping.targets) {expiry : Moment}
    (member : expiry ∈ expiriesIn after.targets) :
    expiry ∈ expiriesIn sweeping.targets ∨ sweeping.now < expiry := by
  cases changed with
  | @used index use target store found led =>
    obtain ⟨other, present, held⟩ := List.mem_flatMap.mp member
    rcases List.mem_or_eq_of_mem_set present with old | rfl
    · exact Or.inl (List.mem_flatMap.mpr ⟨other, old, held⟩)
    · have stored := List.mem_of_getElem? found
      rcases TimedStore.expiries_use led (lasting target stored) expiry held with was | live
      · exact Or.inl (List.mem_flatMap.mpr ⟨target, stored, was⟩)
      · exact Or.inr live
  | swept | ticked =>
    have held := expiriesIn_sweepAll sweeping.now sweeping.targets ▸ member
    exact Or.inl (List.mem_filter.mp held).1
  | waited => exact Or.inl member

/-- A sweep removes what has expired. -/
theorem Change.swept_of_sweeps (changed : Change sweeping action removed after)
    (sweeps : action.sweeps) :
    removed = (expiriesIn sweeping.targets).countP (· ≤ sweeping.now) ∧
      expiriesIn after.targets = (expiriesIn sweeping.targets).filter (sweeping.now < ·) := by
  cases changed with
  | used | waited => cases sweeps
  | swept | ticked => exact ⟨removed_sweepAll _ _, expiriesIn_sweepAll _ _⟩

/-- Whatever is held after a sweep expires later. -/
theorem Change.now_lt_of_sweeps (changed : Change sweeping action removed after)
    (sweeps : action.sweeps) {expiry : Moment} (member : expiry ∈ expiriesIn after.targets) :
    sweeping.now < expiry := by
  rw [(changed.swept_of_sweeps sweeps).2] at member
  exact of_decide_eq_true (List.mem_filter.mp member).2

/-! ### What holds in every state -/

/-- The next tick is due within a period of some moment since the start, and what is held expires
after that moment, unless it had expired before the start. -/
structure Timely (start : Moment) (period : Span) (sweeping : Sweeping S) : Prop where
  positive : 0 < period.nanos
  lasting : Lasting sweeping.targets
  punctual : ∃ ticker last, sweeping.handle = some (.running ticker) ∧ ticker.period = period ∧
    start ≤ last ∧ last ≤ sweeping.now ∧ ticker.due ≤ last + period.nanos ∧
    ∀ expiry ∈ expiriesIn sweeping.targets, last ≤ max expiry start

/-- A sweeper that was just started is so. -/
theorem timely_start (sweeping : Sweeping S) (lasting : Lasting sweeping.targets)
    (running : (sweeping.start period).isFinished? = some false) :
    Timely sweeping.now period (sweeping.start period) := by
  unfold start isFinished? Ticker.start? at running
  unfold start Ticker.start?
  cases told : later? sweeping.now period with
  | none => simp [told] at running
  | some due =>
    by_cases empty : period.nanos = 0
    · simp [told, empty] at running
    · simp only [Option.map_some, if_neg empty]
      exact ⟨Nat.pos_of_ne_zero empty, lasting, _, sweeping.now, rfl, rfl, Int.le_refl _,
        Int.le_refl _, Int.le_of_eq (eq_of_later? told), fun _ _ => Int.le_max_right _ _⟩

/-- Every step keeps it so. -/
theorem Timely.step (timely : Timely start period sweeping)
    (changed : Change sweeping action removed after) : Timely start period after := by
  obtain ⟨positive, lasting, ticker, last, running, same, since, past, soon, held⟩ := timely
  refine ⟨positive, changed.lasting lasting, ?_⟩
  have later : last ≤ after.now := Int.le_trans past changed.le_now
  have heldAfter : ∀ expiry ∈ expiriesIn after.targets, last ≤ max expiry start := by
    intro expiry member
    rcases changed.mem_expiriesIn lasting member with old | live
    · exact held expiry old
    · exact Int.le_trans (Int.le_trans past (Int.le_of_lt live)) (Int.le_max_left _ _)
  cases changed with
  | used | swept | waited => exact ⟨ticker, last, running, same, since, later, soon, heldAfter⟩
  | @ticked other again due =>
    -- The tick is the last one now, and nothing that has expired is left.
    obtain rfl := ticker_eq running again
    refine ⟨other.next sweeping.now, sweeping.now, rfl, same, Int.le_trans since past,
      Int.le_refl _, same ▸ Ticker.due_next_le due, fun expiry member => ?_⟩
    have live := (Change.ticked running due).now_lt_of_sweeps rfl member
    exact Int.le_trans (Int.le_of_lt live) (Int.le_max_left _ _)

/-- Once no tick is due, a period has not passed since anything that is held expired. -/
theorem Timely.now_lt (timely : Timely start period sweeping) (settled : sweeping.Settled)
    {expiry : Moment} (member : expiry ∈ expiriesIn sweeping.targets) :
    sweeping.now < max expiry start + period.nanos := by
  obtain ⟨-, -, ticker, last, running, -, -, -, soon, held⟩ := timely
  obtain ⟨other, again, early⟩ := settled
  obtain rfl := ticker_eq running again
  have bounded := Int.add_le_add_right (held expiry member) period.nanos
  exact Int.lt_of_lt_of_le early (Int.le_trans soon bounded)

/-! ### Sweeps that follow each other -/

section Runs

variable {first state : Sweeping S} {steps : List (Step (Sweeping S) (Action U) Nat)}

/-- If a step swept the stores, whatever they hold expires after it. -/
def Outlives (step : Step (Sweeping S) (Action U) Nat) (sweeping : Sweeping S) : Prop :=
  step.action.sweeps → step.before.now ≤ sweeping.now ∧
    ∀ expiry ∈ expiriesIn sweeping.targets, step.before.now < expiry

theorem outlives_after {step : Step (Sweeping S) (Action U) Nat}
    (taken : step.before.step? step.action = some (step.after, step.output)) :
    Outlives step step.after := by
  intro sweeps
  have changed := change_of_step taken
  exact ⟨changed.le_now, fun expiry member => changed.now_lt_of_sweeps sweeps member⟩

theorem Outlives.step {earlier : Step (Sweeping S) (Action U) Nat}
    (outlives : Outlives earlier sweeping) (changed : Change sweeping action removed after)
    (lasting : Lasting sweeping.targets) : Outlives earlier after := by
  intro sweeps
  obtain ⟨ordered, held⟩ := outlives sweeps
  refine ⟨Int.le_trans ordered changed.le_now, fun expiry member => ?_⟩
  rcases changed.mem_expiriesIn lasting member with old | live
  · exact held expiry old
  · exact Int.lt_of_le_of_lt ordered live

/-- Of two sweeps at one moment the later one removes nothing, whatever happens between them. -/
theorem removed_of_trace (trace : Trace step? first steps state)
    (lasting : Lasting first.targets) :
    steps.Pairwise fun earlier later => earlier.action.sweeps → later.action.sweeps →
      later.before.now = earlier.before.now → later.output = 0 := by
  have outlived := (trace.pairwise Outlives
    (fun step member => outlives_after (trace.taken member))
    (fun earlier step member before => before.step (change_of_step (trace.taken member))
      (trace.invariant_before lasting (fun taken => (change_of_step taken).lasting) member))).1
  refine outlived.imp_of_mem fun {earlier later} _ member outlives swept sweeps same => ?_
  obtain ⟨removed, -⟩ := (change_of_step (trace.taken member)).swept_of_sweeps sweeps
  rw [removed, List.countP_eq_zero]
  intro expiry held
  rw [decide_eq_true_iff, same]
  exact Int.not_le.mpr ((outlives swept).2 expiry held)

/-- Every tick sweeps all stores. -/
theorem cleared_of_tick (changed : Change sweeping action removed after) (ticks : action = .tick) :
    List.Forall₂ (Swept.ClearedAt sweeping.now) sweeping.targets after.targets := by
  cases changed with
  | used | swept | waited => cases ticks
  | ticked => exact cleared_sweepAll _ _

end Runs

/-! ### Time that passes while ticks are answered -/

theorem wait_until {target : Moment} (ahead : sweeping.now ≤ target) :
    sweeping.step? (.wait (target - sweeping.now).toNat) =
      some ({ sweeping with now := target }, 0) := by
  have there : ∀ now : Int, now ≤ target → now + (target - now).toNat = target :=
    fun (now : Int) ahead => by
      rw [Int.toNat_of_nonneg (Int.sub_nonneg.mpr ahead), Int.sub_eq_add_neg, Int.add_left_comm,
        Int.add_right_neg, Int.add_zero]
  simp only [step?, there sweeping.now ahead]

/-- Letting time pass and answering ticks are steps. -/
theorem exists_trace_runUntil {target : Moment} (ahead : sweeping.now ≤ target) (bound : Nat) :
    ∃ steps, Trace step? sweeping steps (sweeping.runUntil target bound) := by
  induction bound generalizing sweeping with
  | zero => exact ⟨_, .snoc .nil (wait_until ahead)⟩
  | succ bound inductionHypothesis =>
    unfold runUntil
    split
    · rename_i ticker running
      dsimp only
      split
      · rename_i soon
        let waited : Sweeping S := { sweeping with now := wakesAt sweeping.now ticker.due }
        have ticked : waited.step? .tick = some (waited.tick ticker, waited.sweepOnce.1) := by
          simp only [step?, waited, running]
          exact if_pos (le_wakesAt _ _)
        have early : (waited.tick ticker).now ≤ target := soon
        obtain ⟨steps, trace⟩ := inductionHypothesis early
        exact ⟨_, (trace.cons ticked).cons (wait_until (now_le_wakesAt _ _))⟩
      · exact ⟨_, .snoc .nil (wait_until ahead)⟩
    · exact ⟨_, .snoc .nil (wait_until ahead)⟩

theorem Timely.settled_sleep (timely : Timely start period sweeping) (nanos : Nat) :
    (sweeping.sleep nanos).Settled := by
  obtain ⟨positive, -, ticker, -, running, rfl, -⟩ := timely
  exact settled_of_tickBound running positive (isWholeAfter_waking _ _) (Int.le_refl _)

theorem Timely.settled_jump (timely : Timely start period sweeping) (millis : Nat) :
    (sweeping.jump millis).Settled := by
  obtain ⟨positive, -, ticker, -, running, rfl, -⟩ := timely
  unfold jump
  rw [settle_eq_runUntil]
  let moved : Sweeping S := { sweeping with now := sweeping.now + (millis * nanosPerMilli : Nat) }
  have goes : moved.handle = some (.running ticker) := running
  have bound : sweeping.tickBound = moved.tickBound := rfl
  rw [bound]
  exact settled_of_tickBound goes positive (.refl _)
    (Int.le_add_of_nonneg_right (Int.natCast_nonneg _))

theorem exists_trace_sleep (sweeping : Sweeping S) (nanos : Nat) :
    ∃ steps, Trace step? sweeping steps (sweeping.sleep nanos) :=
  exists_trace_runUntil (Int.le_add_of_nonneg_right (Int.natCast_nonneg _)) _

theorem exists_trace_jump (sweeping : Sweeping S) (millis : Nat) :
    ∃ steps, Trace step? sweeping steps (sweeping.jump millis) := by
  unfold jump
  rw [settle_eq_runUntil]
  let nanos := millis * nanosPerMilli
  let waited : Sweeping S := { sweeping with now := sweeping.now + nanos }
  have moved : sweeping.step? (.wait nanos) = some (waited, 0) := rfl
  obtain ⟨steps, trace⟩ := exists_trace_runUntil (Int.le_refl waited.now) (sweeping.tickBound nanos)
  exact ⟨_, trace.cons moved⟩

end Sweeping

end UserDashboard.Cache
