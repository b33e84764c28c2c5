/-
This file proves which listings a dashboard shows, and what its feed tells of them.

The listings shown are the first ones in an order of those that the catalog knows. Listings that say
when they were created come before those that do not, the greatest text first, and what this leaves
undecided is left as the catalog has it. There is only one such order: the texts alone say which
text stands at which place, and the listings of one text stand in one row that nothing may turn. The
feed tells of the same listings at the same places.
-/

import Mathlib.Data.String.Basic
import UserDashboard.Proofs.Dashboard.Provenance

namespace UserDashboard.Dashboard

open Catalog Time

/-! ### The order of the selection -/

/-- Whether something may come before something else, the greatest first: it is not less, and
nothing at all comes last. -/
def Leads {α : Type} [LE α] (first second : Option α) : Prop :=
  ∀ less, second = some less → ∃ greater, first = some greater ∧ less ≤ greater

theorem Leads.antisymm {first second : Option String} (leads : Leads first second)
    (follows : Leads second first) : first = second := by
  cases second with
  | some text =>
    obtain ⟨greater, rfl, less⟩ := leads text rfl
    obtain ⟨other, same, back⟩ := follows greater rfl
    obtain rfl := Option.some.inj same
    rw [String.le_antisymm back less]
  | none =>
    cases first with
    | none => rfl
    | some greater =>
      obtain ⟨other, impossible, -⟩ := follows greater rfl
      cases impossible

theorem mayPrecede_iff {first second : Listing} :
    mayPrecede first second = true ↔ Leads first.createdAt second.createdAt := by
  unfold mayPrecede Leads
  cases second.createdAt with
  | none => cases first.createdAt <;> simp
  | some text =>
    cases first.createdAt with
    | none => simp
    | some greater =>
      simp only [Bool.not_eq_true', decide_eq_false_iff_not, String.not_lt, Option.some.injEq,
        forall_eq', exists_eq_left']

theorem mayPrecede_trans (first second third : Listing) (one : mayPrecede first second = true)
    (two : mayPrecede second third = true) : mayPrecede first third = true := by
  rw [mayPrecede_iff] at one two ⊢
  intro text same
  obtain ⟨between, sameBetween, less⟩ := two text same
  obtain ⟨greater, sameGreater, more⟩ := one between sameBetween
  exact ⟨greater, sameGreater, String.le_trans less more⟩

theorem mayPrecede_total (first second : Listing) :
    (mayPrecede first second || mayPrecede second first) = true := by
  unfold mayPrecede
  cases first.createdAt with
  | none => cases second.createdAt <;> rfl
  | some text =>
    cases second.createdAt with
    | none => rfl
    | some other =>
      have total := String.le_total text other
      simp only [Bool.or_eq_true, Bool.not_eq_true', decide_eq_false_iff_not, String.not_lt]
      exact total.symm

/-! ### The one order there is -/

/-- The listings of a catalog in the order in which they are selected. -/
structure Ranked (listings ranked : List Listing) : Prop where
  /-- They are the catalog's, each as often as the catalog has it. -/
  perm : ranked.Perm listings
  /-- Those that say when they were created come first, the greatest text first. -/
  ordered : ranked.Pairwise fun first second => Leads first.createdAt second.createdAt
  /-- Listings with the same text, and those without one, are left in the catalog's order. -/
  stable : ∀ createdAt, ranked.filter (·.createdAt = createdAt) =
    listings.filter (·.createdAt = createdAt)

/-- Sorting selects. -/
theorem ranked_mergeSort (listings : List Listing) :
    Ranked listings (listings.mergeSort mayPrecede) where
  perm := List.mergeSort_perm _ _
  ordered := by
    refine (List.pairwise_mergeSort mayPrecede_trans mayPrecede_total listings).imp ?_
    exact fun may => mayPrecede_iff.mp may
  stable := by
    intro createdAt
    -- A row of listings with one text is in order, so sorting keeps it.
    have row : (listings.filter (·.createdAt = createdAt)).Pairwise
        fun first second => mayPrecede first second = true := by
      refine List.pairwise_of_forall_mem_list fun first inRow second alsoInRow => ?_
      have sameFirst := of_decide_eq_true (List.mem_filter.mp inRow).2
      have sameSecond := of_decide_eq_true (List.mem_filter.mp alsoInRow).2
      rw [mayPrecede_iff, sameFirst, sameSecond]
      exact fun text same => ⟨text, same, String.le_refl text⟩
    have kept := (List.sublist_mergeSort mayPrecede_trans mayPrecede_total row
      List.filter_sublist).filter (·.createdAt = createdAt)
    simp only [List.filter_filter, Bool.and_self] at kept
    exact (kept.eq_of_length
      ((List.mergeSort_perm listings mayPrecede).filter _).length_eq.symm).symm

/-- Two lists are the same when their members have the same keys at the same places, and the
members of each key are in the same row in both. -/
theorem eq_of_rows {α β : Type} [DecidableEq β] {key : α → β} {first second : List α}
    (keys : first.map key = second.map key)
    (rows : ∀ value, first.filter (key · = value) = second.filter (key · = value)) :
    first = second := by
  induction first generalizing second with
  | nil => exact (List.map_eq_nil_iff.mp keys.symm).symm
  | cons member rest inductionHypothesis =>
    obtain ⟨other, others, rfl, sameKey, sameKeys⟩ := List.map_eq_cons_iff.mp keys.symm
    have row := rows (key member)
    rw [List.filter_cons_of_pos (by simp), List.filter_cons_of_pos (by simp [sameKey])] at row
    obtain ⟨rfl, -⟩ := List.cons.inj row
    refine congrArg (member :: ·) (inductionHypothesis sameKeys.symm fun value => ?_)
    have row := rows value
    by_cases same : key member = value
    · rw [List.filter_cons_of_pos (by simpa using same),
        List.filter_cons_of_pos (by simpa using same)] at row
      exact (List.cons.inj row).2
    · rwa [List.filter_cons_of_neg (by simpa using same),
        List.filter_cons_of_neg (by simpa using same)] at row

variable {limit : Nat} {listings ranked : List Listing}

theorem Ranked.unique {other : List Listing} (held : Ranked listings ranked)
    (too : Ranked listings other) : other = ranked := by
  have keys : other.map Listing.createdAt = ranked.map Listing.createdAt :=
    ((too.perm.trans held.perm.symm).map _).eq_of_pairwise
      (fun _ _ _ _ leads follows => leads.antisymm follows)
      (List.pairwise_map.mpr too.ordered) (List.pairwise_map.mpr held.ordered)
  exact eq_of_rows keys fun createdAt => (too.stable createdAt).trans (held.stable createdAt).symm

/-- The listings shown are the first ones in the order of the selection. -/
theorem recentListings_eq (limit : Nat) (held : Ranked listings ranked) :
    recentListings limit listings = ranked.take (min limit listings.length) := by
  rw [recentListings, held.unique (ranked_mergeSort listings), ← held.perm.length_eq]
  exact List.take_eq_take_min

/-- The listings shown and those left out are in the order of the selection. -/
theorem exists_ranked_append (limit : Nat) (listings : List Listing) :
    ∃ left, Ranked listings (recentListings limit listings ++ left) := by
  refine ⟨(listings.mergeSort mayPrecede).drop limit, ?_⟩
  rw [recentListings, List.take_append_drop]
  exact ranked_mergeSort listings

/-! ### What the feed tells of it -/

/-- The moment that is made up for a place of the feed: a minute earlier for each place, told at the
same distance from universal time. -/
def madeUp (generatedAt : Timestamp) (place : Nat) : Timestamp :=
  { generatedAt with moment := generatedAt.moment - place * 60 * nanosPerSecond }

/-- Whether there are dates early enough for the moments made up for the first places of a feed. -/
def HasDates (generatedAt : Timestamp) (places : Nat) : Prop :=
  ∀ place < places, firstSecond * nanosPerSecond ≤ (madeUp generatedAt place).moment

instance (generatedAt : Timestamp) (places : Nat) : Decidable (HasDates generatedAt places) :=
  inferInstanceAs (Decidable (∀ place < places, _))

/-- What a record at a place of the feed tells of a listing. -/
structure TellsOf (generatedAt : Timestamp) (place : Nat) (listing : Listing) (record : Activity) :
    Prop where
  /-- The product was registered. -/
  kind : record.kind = Activity.productRegistered
  /-- The product is that of the listing. -/
  product : record.product = listing.product
  /-- It is called by its title. -/
  message : record.message = "Registered '" ++ listing.title ++ "'"
  /-- It was registered when the listing says that it was created, if that can be read. -/
  dated : ∀ timestamp, listing.createdAt.bind Timestamp.read? = some timestamp →
    record.timestamp = timestamp
  /-- Otherwise the moment is made up. -/
  undated : listing.createdAt.bind Timestamp.read? = none →
    record.timestamp = madeUp generatedAt place

theorem tellsOf_registered (generatedAt : Timestamp) (place : Nat) (listing : Listing) :
    TellsOf generatedAt place listing
      (Activity.registered listing (madeUp generatedAt place)) where
  kind := rfl
  product := rfl
  message := rfl
  dated timestamp read := by rw [Activity.registered, read, Option.getD_some]
  undated unread := by rw [Activity.registered, unread, Option.getD_none]

variable {generatedAt : Timestamp} {records : List Activity} {first : Nat}

/-- There is a moment for a place exactly when the one made up is not before all dates. -/
theorem minutesBefore?_eq_some_iff {place : Nat} {timestamp : Timestamp} :
    generatedAt.minutesBefore? place = some timestamp ↔
      firstSecond * nanosPerSecond ≤ (madeUp generatedAt place).moment ∧
        madeUp generatedAt place = timestamp := by
  simp only [Timestamp.minutesBefore?, madeUp, Option.ite_none_right_eq_some, Option.some.injEq]

/-- The feed of some listings, the first of which stands at a place, has a record for each of them
and exists when all its moments do. -/
theorem recordsFrom?_eq_some_iff :
    recordsFrom? generatedAt first listings = some records ↔
      (∀ place < listings.length,
        firstSecond * nanosPerSecond ≤ (madeUp generatedAt (first + place)).moment) ∧
      records = listings.mapIdx fun place listing =>
        Activity.registered listing (madeUp generatedAt (first + place)) := by
  induction listings generalizing first records with
  | nil => simp [recordsFrom?, eq_comm]
  | cons listing listings inductionHypothesis =>
    simp only [recordsFrom?, bind, Option.bind_eq_some_iff, minutesBefore?_eq_some_iff,
      inductionHypothesis, List.length_cons, List.mapIdx_cons, Nat.forall_lt_succ_left,
      Option.some.injEq, Nat.add_zero, Nat.add_assoc, Nat.add_comm 1]
    constructor
    · rintro ⟨_, ⟨early, rfl⟩, _, ⟨others, rfl⟩, rfl⟩
      exact ⟨⟨early, others⟩, rfl⟩
    · rintro ⟨⟨early, others⟩, rfl⟩
      exact ⟨_, ⟨early, rfl⟩, _, ⟨others, rfl⟩, rfl⟩

/-- The feed tells of each listing shown at its place. -/
theorem recentActivity?_eq_some_iff :
    recentActivity? limit generatedAt listings = some records ↔
      HasDates generatedAt (recentListings limit listings).length ∧
      records = (recentListings limit listings).mapIdx fun place listing =>
        Activity.registered listing (madeUp generatedAt place) := by
  rw [recentActivity?, recordsFrom?_eq_some_iff]
  simp only [Nat.zero_add, HasDates]

/-- Of a catalog's answer the dashboard shows the first listings, as many as it may, in the one
order in which those that say when they were created come first, the greatest text first, and all
others stay as they were. Nothing is shown that is not in the answer, nor more often than it is
there. Of the same answer the feed tells at each place what the listing shown there says, provided
there are dates early enough for the moments that are made up. -/
theorem selection_told (limit : Nat) (listings : List Listing) :
    ∃ ranked, (Ranked listings ranked ∧ ∀ other, Ranked listings other → other = ranked) ∧
      (CallResult.answered listings).outcome? []
          (fun answer => some (recentListings limit answer)) =
        some (.fresh (ranked.take (min limit listings.length))) ∧
      (∀ listing,
        (ranked.take (min limit listings.length)).count listing ≤ listings.count listing) ∧
      ∀ generatedAt, HasDates generatedAt (min limit listings.length) →
        ∃ records, (CallResult.answered listings).outcome? [] (recentActivity? limit generatedAt) =
            some (.fresh records) ∧
          records.length = (ranked.take (min limit listings.length)).length ∧
          ∀ place listing, (ranked.take (min limit listings.length))[place]? = some listing →
            ∃ record, records[place]? = some record ∧
              TellsOf generatedAt place listing record := by
  have held := ranked_mergeSort listings
  have shown := recentListings_eq limit held
  refine ⟨_, ⟨held, fun other too => held.unique too⟩, ?_, fun listing => ?_,
    fun generatedAt early => ?_⟩
  · rw [← shown]
    rfl
  · rw [← held.perm.count_eq listing]
    exact (List.take_sublist _ _).count_le listing
  · rw [← shown]
    have short : (recentListings limit listings).length = min limit listings.length := by
      rw [shown, List.length_take, held.perm.length_eq, Nat.min_assoc, Nat.min_self]
    obtain ⟨records, made⟩ : ∃ records, records = (recentListings limit listings).mapIdx
        fun place listing => Activity.registered listing (madeUp generatedAt place) := ⟨_, rfl⟩
    have told := recentActivity?_eq_some_iff.mpr ⟨short ▸ early, made⟩
    refine ⟨records, ?_, ?_, fun place listing found => ?_⟩
    · rw [CallResult.outcome?, told]
      rfl
    · rw [made, List.length_mapIdx]
    · refine ⟨_, ?_, tellsOf_registered generatedAt place listing⟩
      rw [made, List.getElem?_mapIdx, found]
      rfl

end UserDashboard.Dashboard
