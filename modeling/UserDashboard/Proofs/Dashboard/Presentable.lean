/-
This file proves that every dashboard that is remembered can be written.

The times in a dashboard come from three places. The catalog tells some as texts, and what is read
from a text can be written again. Others are made up, a minute earlier for each place in the
selection, and stay close to the clock as long as the selection is not too long. And the dashboard
itself was put together at a moment of the clock. So a clock between the years 1970 and 9999 keeps
every time within the years that have a written form.
-/

import UserDashboard.Proofs.Dashboard.Provenance
import UserDashboard.Proofs.Wire

namespace UserDashboard.Dashboard

open Cache Catalog Json Time Timestamp

/-- The most listings that a dashboard may be asked to show. -/
def mostRecent : Nat := 1000000

/-- Whether a dashboard has a written form, in which the time of each of its activities is a text
that is read as this time. -/
def Snapshot.Presents (snapshot : Snapshot) (json : Json) : Prop :=
  snapshot.toJson? = some json ∧ ∃ records, json.get "recentActivity" = .array records ∧
    List.Forall₂ (fun activity record => ∃ text, record.get "timestamp" = .string text ∧
      Timestamp.read? text = some activity.timestamp) snapshot.activity records

/-! ### Writing -/

theorem Activity.exists_records {activities : List Activity}
    (writable : ∀ activity ∈ activities, activity.timestamp.Writable) :
    ∃ records, activities.mapM Activity.toJson? = some records ∧
      List.Forall₂ (fun activity record => ∃ text, record.get "timestamp" = .string text ∧
        Timestamp.read? text = some activity.timestamp) activities records := by
  induction activities with
  | nil => exact ⟨[], rfl, .nil⟩
  | cons activity activities inductionHypothesis =>
    obtain ⟨text, written, returned⟩ := Timestamp.exists_text (writable _ List.mem_cons_self)
    obtain ⟨records, all, told⟩ := inductionHypothesis
      fun other later => writable other (List.mem_cons_of_mem _ later)
    refine ⟨activity.jsonWith text :: records, ?_, .cons ⟨text, rfl, returned⟩ told⟩
    rw [List.mapM_cons, Activity.toJson?_eq_jsonWith written, all]
    rfl

/-- A dashboard whose times can be written can be written. -/
theorem Snapshot.Writable.presents {snapshot : Snapshot} (writable : snapshot.Writable) :
    ∃ json, snapshot.Presents json := by
  obtain ⟨records, all, told⟩ := Activity.exists_records writable.activity
  obtain ⟨text, stamped, -⟩ := Timestamp.exists_text writable.generatedAt
  have written : snapshot.toJson? = some (.object ([("stats", snapshot.statistics.toJson),
      ("recentListings", .array (snapshot.listings.map Listing.toJson)),
      ("recentActivity", .array records), ("generatedAt", .string text),
      ("loading", .bool snapshot.loading)] ++ member? "message" .string snapshot.message)) := by
    simp only [Snapshot.toJson?, all, stamped, Option.bind_eq_bind, Option.bind_some]
  refine ⟨_, written, records, ?_, told⟩
  cases snapshot.message <;> rfl

/-! ### The times in a dashboard -/

theorem Snapshot.writable_placeholder {now : Moment} (first : 0 ≤ yearAt now)
    (last : yearAt now ≤ 9999) : (Snapshot.placeholder now).Writable :=
  ⟨nofun, writable_utc first last⟩

/-- A time that the catalog tells can be written, and so can the one that stands in for it. -/
theorem Activity.writable_registered {listing : Listing} {fallback : Timestamp}
    (made : fallback.Writable) : (Activity.registered listing fallback).timestamp.Writable := by
  show ((listing.createdAt.bind Timestamp.read?).getD fallback).Writable
  cases told : listing.createdAt.bind Timestamp.read? with
  | none => exact made
  | some timestamp =>
    obtain ⟨text, -, read⟩ := Option.bind_eq_some_iff.mp told
    exact Timestamp.writable_of_read? read

/-- The times that are made up lie in the years since 1968. -/
theorem writable_of_minutesBefore? {moment : Moment} {minutes : Nat} {timestamp : Timestamp}
    (first : 1970 ≤ yearAt moment) (last : yearAt moment ≤ 9999) (few : minutes ≤ mostRecent)
    (made : (utc moment).minutesBefore? minutes = some timestamp) : timestamp.Writable := by
  unfold minutesBefore? at made
  dsimp only at made
  split at made
  next =>
    cases made
    have near (nanos : Int) (count : Nat) (low : 0 * 86400000000000 ≤ nanos)
        (few : count ≤ 1000000) :
        -719528 * 86400000000000 ≤ nanos - count * 60 * 1000000000 ∧
          nanos - count * 60 * 1000000000 ≤ nanos := by omega
    obtain ⟨above, below⟩ := near moment minutes (le_yearAt_iff.mp first) few
    exact writable_utc (le_yearAt_iff.mpr above) (Int.le_trans (yearAt_mono below) last)
  next => cases made

theorem recordsFrom?_writable {moment : Moment} {place : Nat} {listings : List Listing}
    {records : List Activity} (first : 1970 ≤ yearAt moment) (last : yearAt moment ≤ 9999)
    (few : place + listings.length ≤ mostRecent)
    (told : recordsFrom? (utc moment) place listings = some records) :
    ∀ record ∈ records, record.timestamp.Writable := by
  induction listings generalizing place records with
  | nil =>
    cases told
    nofun
  | cons listing listings inductionHypothesis =>
    simp only [recordsFrom?, Option.bind_eq_bind, Option.bind_eq_some_iff] at told
    obtain ⟨fallback, made, others, later, same⟩ := told
    cases same
    rw [List.length_cons] at few
    refine List.forall_mem_cons.mpr ⟨Activity.writable_registered ?_, ?_⟩
    · exact writable_of_minutesBefore? first last (by omega) made
    · exact inductionHypothesis (by omega) later

/-- The times of all activity can be written, if it was told in the years from 1970 to 9999 and
there is not too much of it. -/
theorem recentActivity?_writable {limit : Nat} {moment : Moment} {listings : List Listing}
    {records : List Activity} (first : 1970 ≤ yearAt moment) (last : yearAt moment ≤ 9999)
    (few : limit ≤ mostRecent) (told : recentActivity? limit (utc moment) listings = some records) :
    ∀ record ∈ records, record.timestamp.Writable := by
  have short := recentListings_length_le limit listings
  exact recordsFrom?_writable first last (by omega) told

/-! ### Dashboards that are remembered -/

namespace Aggregation

variable {start state : Aggregation} {moves : List Move} {subject : SubjectId}

/-- A step was taken after the beginning and before the end. -/
theorem now_of_member (trace : Trace step? start moves state) {move : Move}
    (member : move ∈ moves) :
    start.now ≤ move.before.now ∧ move.before.now ≤ state.now := by
  obtain ⟨earlier, later, rfl⟩ := List.append_of_mem member
  obtain ⟨before, taken, after⟩ := trace.split
  exact ⟨(onward_of_trace before).time,
    Int.le_trans (change_of_step taken).onward.time (onward_of_trace after).time⟩

/-- Every dashboard that is remembered can be written. -/
theorem writable_of_stored (orderly : Orderly start) (empty : start.refreshes = [])
    (nothing : start.stores = []) (few : start.recentLimit ≤ mostRecent)
    (first : 1970 ≤ yearAt start.now) (trace : Trace step? start moves state)
    (last : yearAt state.now ≤ 9999) {entry : Entry Snapshot}
    (stored : (subject, entry) ∈ state.stores) : entry.value.Writable := by
  obtain ⟨origin, -, -⟩ := origin_of_stored orderly empty nothing trace stored
  obtain ⟨caller, answer, -, ⟨listings, -, told⟩, ordered⟩ := origin.activityTold
  have begun : origin.beginner ∈ origin.earlier := ordered.subset (by simp)
  have member : origin.beginner ∈ moves := by
    have among := List.mem_append_left (origin.writer :: origin.later) begun
    rwa [← origin.split] at among
  obtain ⟨since, before⟩ := now_of_member trace member
  have sinceYear := yearAt_mono since
  have beforeYear := yearAt_mono before
  rw [origin.assembled]
  refine ⟨?_, ?_⟩
  · exact recentActivity?_writable (by omega) (by omega) few told
  · exact writable_utc (by omega) (by omega)

end Aggregation

end UserDashboard.Dashboard
