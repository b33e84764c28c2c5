/-
This file proves when the feed of a dashboard is in the order of its moments.

Each record tells either the moment that its listing tells or one that is made up for its place, a
minute earlier for each place. The moments made up are in order among themselves, and nothing else
keeps the feed in order: a moment made up for a place lies shortly before the feed was made, however
old the listings before it are. So the feed is in order exactly when the moments told are and each
moment made up fits between those told before and after it. If all texts can be read and are in the
order of their moments, then the silent listings come last, and what counts is whether the others
are hardly older than the feed.
-/

import UserDashboard.Proofs.Dashboard.Newest

namespace UserDashboard.Dashboard

open Catalog Time

/-- Whether the records of a feed are in the order of their moments, the newest first. -/
def FeedOrdered (records : List Activity) : Prop :=
  records.Pairwise fun first second => second.timestamp.moment ≤ first.timestamp.moment

/-- Whether the moments made up for the silent ones of some listings fit between those that the
others tell. -/
structure InSequence (generatedAt : Timestamp) (shown : List Listing) : Prop where
  /-- The moments told are in order themselves. -/
  told : (shown.filterMap toldAt?).Pairwise fun first second => second ≤ first
  /-- A moment made up is not after those told before its place. -/
  before : ∀ place listing, shown[place]? = some listing → toldAt? listing = none →
    ∀ moment ∈ (shown.take place).filterMap toldAt?, (madeUp generatedAt place).moment ≤ moment
  /-- Nor is it before those told after it. -/
  after : ∀ place listing, shown[place]? = some listing → toldAt? listing = none →
    ∀ moment ∈ (shown.drop place).filterMap toldAt?, moment ≤ (madeUp generatedAt place).moment

variable {generatedAt : Timestamp} {limit : Nat} {listings shown : List Listing}
  {records : List Activity}

/-- The moment of the record at a place of a feed. -/
def shownAt (generatedAt : Timestamp) (place : Nat) (listing : Listing) : Moment :=
  (toldAt? listing).getD (madeUp generatedAt place).moment

theorem moment_registered (place : Nat) (listing : Listing) :
    (Activity.registered listing (madeUp generatedAt place)).timestamp.moment =
      shownAt generatedAt place listing := by
  unfold Activity.registered shownAt toldAt?
  cases listing.createdAt.bind Timestamp.read? <;> rfl

/-- A place later is a minute earlier. -/
theorem madeUp_le {place later : Nat} (before : place ≤ later) :
    (madeUp generatedAt later).moment ≤ (madeUp generatedAt place).moment := by
  have minutes : (place : Int) * 60 * nanosPerSecond ≤ later * 60 * nanosPerSecond := by
    simp only [nanosPerSecond]
    omega
  exact Int.sub_le_sub_left minutes _

/-- A feed is in order when no record is newer than one at an earlier place. -/
theorem feedOrdered_iff_places
    (made : records = shown.mapIdx fun place listing =>
      Activity.registered listing (madeUp generatedAt place)) :
    FeedOrdered records ↔ ∀ place later one other, place < later → shown[place]? = some one →
      shown[later]? = some other →
        shownAt generatedAt later other ≤ shownAt generatedAt place one := by
  rw [made, FeedOrdered, List.pairwise_iff_getElem]
  constructor
  · intro ordered place later one other before found foundLater
    obtain ⟨inside, rfl⟩ := List.getElem?_eq_some_iff.mp found
    obtain ⟨insideToo, rfl⟩ := List.getElem?_eq_some_iff.mp foundLater
    have le := ordered place later (by rwa [List.length_mapIdx]) (by rwa [List.length_mapIdx])
      before
    rwa [List.getElem_mapIdx, List.getElem_mapIdx, moment_registered, moment_registered] at le
  · intro places place later inside insideToo before
    rw [List.length_mapIdx] at inside insideToo
    rw [List.getElem_mapIdx, List.getElem_mapIdx, moment_registered, moment_registered]
    exact places place later _ _ before (List.getElem?_eq_getElem inside)
      (List.getElem?_eq_getElem insideToo)

theorem mem_toldBefore_iff {place : Nat} {moment : Moment} :
    moment ∈ (shown.take place).filterMap toldAt? ↔
      ∃ earlier listing, earlier < place ∧ shown[earlier]? = some listing ∧
        toldAt? listing = some moment := by
  rw [List.mem_filterMap]
  simp only [List.mem_iff_getElem?, List.getElem?_take, Option.ite_none_right_eq_some]
  constructor
  · rintro ⟨listing, ⟨earlier, before, found⟩, told⟩
    exact ⟨earlier, listing, before, found, told⟩
  · rintro ⟨earlier, listing, before, found, told⟩
    exact ⟨listing, ⟨earlier, before, found⟩, told⟩

theorem mem_toldSince_iff {place : Nat} {moment : Moment} :
    moment ∈ (shown.drop place).filterMap toldAt? ↔
      ∃ later listing, place ≤ later ∧ shown[later]? = some listing ∧
        toldAt? listing = some moment := by
  rw [List.mem_filterMap]
  simp only [List.mem_iff_getElem?, List.getElem?_drop]
  constructor
  · rintro ⟨listing, ⟨steps, found⟩, told⟩
    exact ⟨place + steps, listing, Nat.le_add_right _ _, found, told⟩
  · rintro ⟨later, listing, since, found, told⟩
    exact ⟨listing, ⟨later - place, by rwa [Nat.add_sub_cancel' since]⟩, told⟩

/-- A feed is in order exactly when the moments told are and those made up fit between them. -/
theorem feedOrdered_iff_inSequence
    (made : records = shown.mapIdx fun place listing =>
      Activity.registered listing (madeUp generatedAt place)) :
    FeedOrdered records ↔ InSequence generatedAt shown := by
  rw [feedOrdered_iff_places made]
  constructor
  · intro places
    refine ⟨?_, fun place listing found silent moment told => ?_,
      fun place listing found silent moment told => ?_⟩
    · rw [List.pairwise_filterMap, List.pairwise_iff_getElem]
      intro place later inside insideToo before moment told other toldToo
      have le := places place later _ _ before (List.getElem?_eq_getElem inside)
        (List.getElem?_eq_getElem insideToo)
      rwa [shownAt, shownAt, told, toldToo] at le
    · obtain ⟨earlier, one, before, foundOne, toldOne⟩ := mem_toldBefore_iff.mp told
      have le := places earlier place one listing before foundOne found
      rwa [shownAt, shownAt, silent, toldOne] at le
    · obtain ⟨later, one, since, foundOne, toldOne⟩ := mem_toldSince_iff.mp told
      rcases Nat.eq_or_lt_of_le since with rfl | after
      · cases found.symm.trans foundOne
        cases silent.symm.trans toldOne
      · have le := places place later listing one after found foundOne
        rwa [shownAt, shownAt, silent, toldOne] at le
  · intro held place later one other before found foundLater
    unfold shownAt
    cases told : toldAt? one with
    | none =>
      cases toldToo : toldAt? other with
      | none => exact madeUp_le before.le
      | some moment =>
        exact held.after place one found told moment
          (mem_toldSince_iff.mpr ⟨later, other, before.le, foundLater, toldToo⟩)
    | some moment =>
      cases toldToo : toldAt? other with
      | none =>
        exact held.before later other foundLater toldToo moment
          (mem_toldBefore_iff.mpr ⟨place, one, before, found, told⟩)
      | some less =>
        obtain ⟨inside, rfl⟩ := List.getElem?_eq_some_iff.mp found
        obtain ⟨insideToo, rfl⟩ := List.getElem?_eq_some_iff.mp foundLater
        exact List.pairwise_iff_getElem.mp (List.pairwise_filterMap.mp held.told) place later inside
          insideToo before moment told less toldToo

/-! ### Listings that can all be read -/

/-- Listings of which those that tell a moment come first are a row that tells and a silent one. -/
theorem exists_silent_last
    (first : shown.Pairwise fun one other => toldAt? one = none → toldAt? other = none) :
    ∃ tellers silent, shown = tellers ++ silent ∧
      (∀ listing ∈ tellers, toldAt? listing ≠ none) ∧
      ∀ listing ∈ silent, toldAt? listing = none := by
  induction shown with
  | nil => exact ⟨[], [], rfl, by simp, by simp⟩
  | cons listing shown inductionHypothesis =>
    obtain ⟨ofFirst, ofRest⟩ := List.pairwise_cons.mp first
    by_cases told : toldAt? listing = none
    · exact ⟨[], listing :: shown, rfl, by simp,
        List.forall_mem_cons.mpr ⟨told, fun other member => ofFirst other member told⟩⟩
    · obtain ⟨tellers, silent, rfl, tell, tellNot⟩ := inductionHypothesis ofRest
      exact ⟨listing :: tellers, silent, rfl, List.forall_mem_cons.mpr ⟨told, tell⟩, tellNot⟩

/-- When the silent listings come last, the first of the moments made up has to fit. -/
theorem inSequence_append_iff {tellers silent : List Listing}
    (ordered : (tellers.filterMap toldAt?).Pairwise fun first second => second ≤ first)
    (tell : ∀ listing ∈ tellers, toldAt? listing ≠ none)
    (tellNot : ∀ listing ∈ silent, toldAt? listing = none) :
    InSequence generatedAt (tellers ++ silent) ↔ silent = [] ∨
      ∀ moment ∈ tellers.filterMap toldAt?,
        (madeUp generatedAt tellers.length).moment ≤ moment := by
  have nothing : silent.filterMap toldAt? = [] := List.filterMap_eq_nil_iff.mpr tellNot
  constructor
  · intro held
    cases silent with
    | nil => exact Or.inl rfl
    | cons listing silent =>
      right
      intro moment told
      refine held.before tellers.length listing ?_ (tellNot listing List.mem_cons_self) moment ?_
      · rw [List.getElem?_append_right (Nat.le_refl _), Nat.sub_self]
        rfl
      · rwa [List.take_left]
  · intro fits
    -- A silent listing stands behind all those that tell a moment.
    have behind {place : Nat} {listing : Listing}
        (found : (tellers ++ silent)[place]? = some listing) (tellsNot : toldAt? listing = none) :
        tellers.length ≤ place := by
      by_contra inside
      rw [List.getElem?_append_left (Nat.lt_of_not_le inside)] at found
      exact tell listing (List.mem_of_getElem? found) tellsNot
    refine ⟨?_, fun place listing found tellsNot moment told => ?_,
      fun place listing found tellsNot moment told => ?_⟩
    · rwa [List.filterMap_append, nothing, List.append_nil]
    · have ofTellers : moment ∈ tellers.filterMap toldAt? := by
        have ofAll := (List.take_sublist place (tellers ++ silent)).filterMap toldAt? |>.subset told
        rwa [List.filterMap_append, nothing, List.append_nil] at ofAll
      rcases fits with rfl | fits
      · have inside : place < (tellers ++ []).length := (List.getElem?_eq_some_iff.mp found).1
        rw [List.append_nil] at inside
        exact absurd inside (Nat.not_lt.mpr (behind found tellsNot))
      · exact (madeUp_le (behind found tellsNot)).trans (fits moment ofTellers)
    · obtain ⟨later, one, since, foundOne, toldOne⟩ := mem_toldSince_iff.mp told
      rw [List.getElem?_append_right ((behind found tellsNot).trans since)] at foundOne
      cases (tellNot one (List.mem_of_getElem? foundOne)).symm.trans toldOne

/-- When the texts of a catalog are in the order of their moments, so are the moments that the
listings shown tell. -/
theorem told_ordered {left : List Listing} (held : Ranked listings (shown ++ left))
    (inTime : TextsInTime listings shown) :
    (shown.filterMap toldAt?).Pairwise fun first second => second ≤ first := by
  rw [List.pairwise_filterMap]
  refine (held.newestShown_iff.mpr inTime).ordered.imp fun noOlder moment told other toldToo => ?_
  obtain ⟨greater, same, le⟩ := noOlder other toldToo
  cases told.symm.trans same
  exact le

/-- When all texts of a catalog can be read, the listings shown that tell no moment come last. -/
theorem silent_last {left : List Listing} (held : Ranked listings (shown ++ left))
    (readable : ∀ listing ∈ listings, listing.createdAt ≠ none → toldAt? listing ≠ none) :
    shown.Pairwise fun one other => toldAt? one = none → toldAt? other = none := by
  obtain ⟨orderedShown, -, -⟩ := List.pairwise_append.mp held.ordered
  refine orderedShown.imp_of_mem fun {one other} isOne _ leads silent => ?_
  have undated : one.createdAt = none := not_not.mp
    fun dated => readable one (held.perm.subset (List.mem_append_left _ isOne)) dated silent
  cases dated : other.createdAt with
  | none => rw [toldAt?, dated]; rfl
  | some text =>
    obtain ⟨greater, same, -⟩ := leads text dated
    cases undated.symm.trans same

/-- The feed is in the order of its moments exactly when the moments that the listings shown tell
are, and each moment made up fits between those told before and after it. If all texts of the
answer can be read and are in the order of their moments, this means that the listings shown all
tell a moment, or none that is earlier than the first of those made up. -/
theorem feed_ordered_iff
    (fresh : (CallResult.answered listings).outcome? [] (recentActivity? limit generatedAt) =
      some (.fresh records)) :
    (FeedOrdered records ↔ InSequence generatedAt (recentListings limit listings)) ∧
    ∀ told, told = (recentListings limit listings).filterMap toldAt? →
      (∀ listing ∈ listings, listing.createdAt ≠ none → toldAt? listing ≠ none) →
      TextsInTime listings (recentListings limit listings) →
        (FeedOrdered records ↔ told.length = (recentListings limit listings).length ∨
          ∀ moment ∈ told, (madeUp generatedAt told.length).moment ≤ moment) := by
  obtain ⟨_, told, same⟩ := Option.map_eq_some_iff.mp fresh
  cases same
  have ordered := feedOrdered_iff_inSequence (recentActivity?_eq_some_iff.mp told).2
  refine ⟨ordered, ?_⟩
  rintro _ rfl readable inTime
  obtain ⟨left, held⟩ := exists_ranked_append limit listings
  have inOrder := told_ordered held inTime
  obtain ⟨tellers, silent, split, tell, tellNot⟩ := exists_silent_last (silent_last held readable)
  rw [split, List.filterMap_append, List.filterMap_eq_nil_iff.mpr tellNot, List.append_nil]
    at inOrder
  have length : (tellers.filterMap toldAt?).length = tellers.length :=
    List.filterMap_length_eq_length.mpr
      fun listing member => Option.isSome_iff_ne_none.mpr (tell listing member)
  rw [ordered, split, inSequence_append_iff inOrder tell tellNot, List.filterMap_append,
    List.filterMap_eq_nil_iff.mpr tellNot, List.append_nil, length, List.length_append]
  simp

/-! ### A listing that tells a moment before a silent one -/

/-- Noon of a day in May. -/
def noon : Timestamp :=
  .utc 1714564800000000000

/-- A listing made thirty seconds before. -/
def recent : Listing :=
  listedAt 1 (some "2024-05-01T11:59:30Z")

/-- A listing made on New Year's Day. -/
def aged : Listing :=
  listedAt 1 (some "2024-01-01T00:00:00Z")

/-- A listing that does not say when it was made. -/
def undated : Listing :=
  listedAt 2 none

theorem recentListings_undated {listing : Listing} (dated : listing.createdAt.isSome = true) :
    recentListings 5 [listing, undated] = [listing, undated] := by
  obtain ⟨text, dated⟩ := Option.isSome_iff_exists.mp dated
  refine congrArg (List.take 5) (List.mergeSort_of_pairwise (List.pairwise_pair.mpr ?_))
  rw [mayPrecede, dated]
  rfl

/-- The silent listing is told a minute before noon. -/
theorem fed_undated {listing : Listing} (dated : listing.createdAt.isSome = true) :
    (CallResult.answered [listing, undated]).outcome? [] (recentActivity? 5 noon) =
      some (.fresh [Activity.registered listing (madeUp noon 0),
        Activity.registered undated (madeUp noon 1)]) := by
  have early : HasDates noon 2 := by decide
  have shown := recentListings_undated dated
  have told : recentActivity? 5 noon [listing, undated] =
      some [Activity.registered listing (madeUp noon 0),
        Activity.registered undated (madeUp noon 1)] := by
    rw [recentActivity?_eq_some_iff, shown]
    exact ⟨early, rfl⟩
  rw [CallResult.outcome?, told]
  rfl

/-- This is before the recent listing was made. -/
theorem recent_feed_ordered :
    (CallResult.answered [recent, undated]).outcome? [] (recentActivity? 5 noon) =
        some (.fresh [Activity.registered recent (madeUp noon 0),
          Activity.registered undated (madeUp noon 1)]) ∧
      FeedOrdered [Activity.registered recent (madeUp noon 0),
        Activity.registered undated (madeUp noon 1)] := by
  have dated : recent.createdAt.isSome = true := rfl
  have fed := fed_undated dated
  have shown : recentListings 5 [recent, undated] = [recent, undated] :=
    recentListings_undated dated
  refine ⟨fed, ((feed_ordered_iff fed).2 _ rfl (by decide) ?_).mpr (Or.inr ?_)⟩
  · have one : ∀ listing ∈ [recent, undated], ∀ text, listing.createdAt = some text →
        text = "2024-05-01T11:59:30Z" := by
      simp [recent, undated, listedAt, eq_comm]
    intro kept isKept other isOther text lesser dated datedOther less
    rw [one kept (shown ▸ isKept) text dated, one other isOther lesser datedOther] at less
    exact absurd less (lt_irrefl _)
  · rw [shown]
    decide

/-- It is after the aged one was, and the feed shows them the other way around. -/
theorem aged_feed_not_ordered :
    (∀ listing ∈ [aged, undated], ∀ timestamp,
      listing.createdAt.bind Timestamp.read? = some timestamp →
        timestamp.offset = 0 ∧ timestamp.subsecond = 0 ∧ timestamp.moment ≤ noon.moment) ∧
    ∃ records, (CallResult.answered [aged, undated]).outcome? [] (recentActivity? 5 noon) =
        some (.fresh records) ∧
      ¬FeedOrdered records := by
  refine ⟨?_, _, fed_undated rfl, ?_⟩
  · have read : aged.createdAt.bind Timestamp.read? = some (.utc 1704067200000000000) := by decide
    have silent : undated.createdAt.bind Timestamp.read? = none := rfl
    simp only [List.forall_mem_cons, read, silent, Option.some.injEq, forall_eq']
    exact ⟨⟨rfl, rfl, by decide⟩, by simp⟩
  · unfold FeedOrdered
    decide

end UserDashboard.Dashboard
