/-
This file holds the limit of the clock, and how long those wait who wait for a length of time.

The clock counts its seconds in 64 bits with a sign. A moment beyond its last second cannot be
told, so whoever needs the moment a length of time from now has to be ready for there being none:
lengths of time are counted without a sign and reach twice as far. Whoever would wait beyond the
last second waits for thirty years.

The timer goes by whole milliseconds. Whoever waits until a moment is woken in the first one that is
not too early, and whichever whole millisecond the waiting began in, that is the same one.
-/

import UserDashboard.Time.Span

namespace UserDashboard.Time

open Number

/-- The moment that lies a length of time after another, if the clock can tell it. -/
def later? (now : Moment) (span : Span) : Option Moment :=
  let moment := now + span.nanos
  if moment / nanosPerSecond ≤ int64Max then some moment else none

/-- The moment that the clock tells is the one that lies so much later. -/
theorem eq_of_later? {now moment : Moment} {span : Span} (told : later? now span = some moment) :
    moment = now + span.nanos := by
  simp only [later?] at told
  split at told
  · exact (Option.some.inj told).symm
  · cases told

theorem later?_isSome_iff {now : Moment} {span : Span} :
    (later? now span).isSome ↔ (now + span.nanos) / nanosPerSecond ≤ int64Max := by
  simp only [later?]
  split <;> simp_all

/-- What the clock can tell from a moment on, it could tell from every earlier one on. -/
theorem later?_isSome_of_le {earlier later : Moment} {span : Span} (ordered : earlier ≤ later)
    (told : (later? later span).isSome) : (later? earlier span).isSome := by
  rw [later?_isSome_iff] at told ⊢
  have sooner : earlier + span.nanos ≤ later + span.nanos := Int.add_le_add_right ordered _
  exact Int.le_trans (Int.ediv_le_ediv (by decide) sooner) told

/-- A moment from which on the clock can tell any other one is one that it can tell. -/
theorem later?_zero_isSome {now : Moment} {span : Span} (told : (later? now span).isSome) :
    (later? now .zero).isSome := by
  rw [later?_isSome_iff] at told ⊢
  have sooner : now + (Span.zero).nanos ≤ now + span.nanos :=
    Int.add_le_add_left (Int.ofNat_le.mpr (Nat.zero_le _)) _
  exact Int.le_trans (Int.ediv_le_ediv (by decide) sooner) told

/-! ### Waiting -/

/-- The nanoseconds after which even those give up who would wait for longer than the clock can
tell, which are thirty years of 365 days. -/
def farOff : Nat := 30 * 365 * 86400 * nanosPerSecond

/-- Until when someone waits who waits for a length of time. -/
def waitsUntil (now : Moment) (span : Span) : Moment :=
  (later? now span).getD (now + farOff)

/-- The nanoseconds after which someone is woken who waits for so many of them. -/
def waking (nanos : Nat) : Nat :=
  (nanos + (nanosPerMilli - 1)) / nanosPerMilli * nanosPerMilli

/-- When someone is woken who waits from a moment on until another one. -/
def wakesAt (now due : Moment) : Moment :=
  now + waking (due - now).toNat

/-- When someone is woken who waits for a length of time. -/
def timesOut (now : Moment) (span : Span) : Moment :=
  wakesAt now (waitsUntil now span)

variable {start now due : Moment} {span : Span}

theorem waitsUntil_of_told (told : (later? now span).isSome) :
    waitsUntil now span = now + span.nanos := by
  obtain ⟨moment, told⟩ := Option.isSome_iff_exists.mp told
  rw [waitsUntil, told, Option.getD_some, eq_of_later? told]

theorem waitsUntil_of_untold (untold : later? now span = none) :
    waitsUntil now span = now + farOff := by
  rw [waitsUntil, untold, Option.getD_none]

/-- At a moment that the clock can tell nobody has waited for longer than they would. -/
theorem lt_of_lt_waitsUntil (tells : (later? now .zero).isSome)
    (waits : now < waitsUntil start span) :
    now < start + span.nanos := by
  cases told : later? start span with
  | some moment =>
    rwa [waitsUntil_of_told (Option.isSome_of_eq_some told)] at waits
  | none =>
    have beyond : ¬(start + span.nanos) / nanosPerSecond ≤ int64Max := by
      rw [← later?_isSome_iff, told]
      nofun
    rw [later?_isSome_iff] at tells
    have here : now + (Span.zero).nanos = now := Int.add_zero now
    rw [here] at tells
    refine Int.not_le.mp fun past => beyond (Int.le_trans ?_ tells)
    exact Int.ediv_le_ediv (by decide) past

/-- Nobody is woken early. -/
theorem le_waking (nanos : Nat) : nanos ≤ waking nanos := by
  simp only [waking, nanosPerMilli]
  omega

/-- Nobody is woken a whole millisecond late. -/
theorem waking_lt (nanos : Nat) : waking nanos < nanos + nanosPerMilli := by
  simp only [waking, nanosPerMilli]
  omega

/-- Whole milliseconds are waited for exactly. -/
theorem waking_millis (millis : Nat) :
    waking (millis * nanosPerMilli) = millis * nanosPerMilli := by
  simp only [waking, nanosPerMilli]
  omega

theorem waking_le_waking_iff {nanos other : Nat} :
    waking nanos ≤ waking other ↔ nanos ≤ waking other := by
  simp only [waking, nanosPerMilli]
  omega

theorem le_wakesAt (now due : Int) : due ≤ wakesAt now due := by
  have later := le_waking (due - now).toNat
  unfold wakesAt
  omega

theorem now_le_wakesAt (now due : Moment) : now ≤ wakesAt now due :=
  Int.le_add_of_nonneg_right (Int.natCast_nonneg _)

/-- What is past is not waited for. -/
theorem wakesAt_of_le (past : due ≤ now) : wakesAt now due = now := by
  rw [wakesAt, Int.toNat_of_nonpos (Int.sub_nonpos_of_le past)]
  exact Int.add_zero now

theorem wakesAt_mono {now due later : Int} (ordered : due ≤ later) :
    wakesAt now due ≤ wakesAt now later := by
  refine Int.add_le_add_left (Int.ofNat_le.mpr (waking_le_waking_iff.mpr ?_)) now
  exact Nat.le_trans (by omega) (le_waking (later - now).toNat)

theorem wakesAt_lt {now due : Int} (ahead : now ≤ due) : wakesAt now due < due + nanosPerMilli := by
  have soon : (waking (due - now).toNat : Int) < (due - now).toNat + nanosPerMilli :=
    Int.ofNat_lt.mpr (waking_lt _)
  have there : now + (due - now).toNat = due := by omega
  rw [wakesAt, ← there, Int.add_assoc, there]
  exact Int.add_lt_add_left soon now

theorem wakesAt_millis (now : Moment) (millis : Nat) :
    wakesAt now (now + (millis * nanosPerMilli : Nat)) = now + (millis * nanosPerMilli : Nat) := by
  have there : (now + (millis * nanosPerMilli : Nat) - now).toNat = millis * nanosPerMilli := by
    rw [Int.add_comm, Int.add_sub_cancel, Int.toNat_natCast]
  rw [wakesAt, there, waking_millis]

/-- Whoever waits for whole milliseconds waits exactly as long. -/
theorem timesOut_of_millis {millis : Nat} (whole : span.nanos = millis * nanosPerMilli) :
    timesOut now span = waitsUntil now span := by
  rw [timesOut]
  cases told : later? now span with
  | some moment =>
    rw [waitsUntil_of_told (Option.isSome_of_eq_some told), whole, wakesAt_millis]
  | none =>
    have whole : farOff = 30 * 365 * 86400 * 1000 * nanosPerMilli := by
      simp only [farOff, nanosPerSecond, nanosPerMilli]
    rw [waitsUntil_of_untold told, whole, wakesAt_millis]

/-! ### Whole milliseconds -/

/-- A moment lies whole milliseconds after another. -/
def IsWholeAfter (now moment : Moment) : Prop :=
  ∃ millis : Nat, moment = now + (millis * nanosPerMilli : Nat)

theorem IsWholeAfter.refl (now : Moment) : IsWholeAfter now now :=
  ⟨0, (Int.add_zero now).symm⟩

theorem IsWholeAfter.trans {start now moment : Moment} (sooner : IsWholeAfter start now)
    (later : IsWholeAfter now moment) : IsWholeAfter start moment := by
  obtain ⟨fewer, rfl⟩ := sooner
  obtain ⟨more, rfl⟩ := later
  exact ⟨fewer + more, by rw [Nat.add_mul, Int.natCast_add, Int.add_assoc]⟩

theorem isWholeAfter_waking (now : Moment) (nanos : Nat) : IsWholeAfter now (now + waking nanos) :=
  ⟨_, rfl⟩

theorem isWholeAfter_wakesAt (now due : Moment) : IsWholeAfter now (wakesAt now due) :=
  isWholeAfter_waking now _

theorem IsWholeAfter.le {now moment : Moment} (whole : IsWholeAfter now moment) : now ≤ moment := by
  obtain ⟨millis, rfl⟩ := whole
  exact Int.le_add_of_nonneg_right (Int.natCast_nonneg _)

/-- Whatever is due until a whole millisecond is noticed until then. -/
theorem IsWholeAfter.wakesAt_le_iff {now moment due : Int} (whole : IsWholeAfter now moment) :
    wakesAt now due ≤ moment ↔ due ≤ moment := by
  obtain ⟨millis, rfl⟩ := whole
  constructor
  · exact Int.le_trans (le_wakesAt now due)
  · intro soon
    have within : (due - now).toNat ≤ millis * nanosPerMilli :=
      Int.toNat_le.mpr (Int.sub_left_le_of_le_add soon)
    rw [← waking_millis] at within ⊢
    exact Int.add_le_add_left (Int.ofNat_le.mpr (waking_le_waking_iff.mpr within)) now

/-- It does not matter from which whole millisecond on the timer is counted. -/
theorem IsWholeAfter.wakesAt_eq {start now due : Int} (whole : IsWholeAfter start now)
    (ahead : now ≤ due) : wakesAt now due = wakesAt start due := by
  obtain ⟨millis, rfl⟩ := whole
  obtain ⟨rest, rfl⟩ := Int.le.dest ahead
  have fromThere : (start + (millis * nanosPerMilli : Nat) + rest -
      (start + (millis * nanosPerMilli : Nat))).toNat = rest := by omega
  have fromStart : (start + (millis * nanosPerMilli : Nat) + rest - start).toNat =
      millis * nanosPerMilli + rest := by omega
  have same : waking (millis * nanosPerMilli + rest) = millis * nanosPerMilli + waking rest := by
    simp only [waking, nanosPerMilli]
    omega
  rw [wakesAt, wakesAt, fromThere, fromStart, same, Int.natCast_add, Int.add_assoc]

/-- What is left of whole milliseconds after some of them are whole milliseconds. -/
theorem IsWholeAfter.of_le {start now moment : Int} (some : IsWholeAfter start now)
    (all : IsWholeAfter start moment) (ordered : now ≤ moment) : IsWholeAfter now moment := by
  obtain ⟨fewer, rfl⟩ := some
  obtain ⟨more, rfl⟩ := all
  have within : fewer ≤ more := by
    have cut := Int.ofNat_le.mp (Int.le_of_add_le_add_left ordered)
    exact Nat.le_of_mul_le_mul_right cut (by decide)
  refine ⟨more - fewer, ?_⟩
  rw [Int.add_assoc, ← Int.natCast_add, ← Nat.add_mul, Nat.add_sub_cancel' within]

end UserDashboard.Time
