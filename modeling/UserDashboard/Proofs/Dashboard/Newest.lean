/-
This file proves when the listings a dashboard shows are the newest ones.

They are selected by the texts of their creation times, and texts are not in the order of the
moments that they tell: a clock ahead of universal time shows a later hour at the same moment, a
fraction may be left out, and the letters may be of either case. So the newest listings are shown
exactly when no listing shown has a greater text than another one of the catalog and tells an
earlier moment. This is so for a catalog that writes all its times in one form.
-/

import UserDashboard.Proofs.Dashboard.Selection
import UserDashboard.Proofs.Time.Spelling

namespace UserDashboard.Dashboard

open Catalog Time

/-! ### The moments that listings tell -/

/-- The moment at which a listing says that it was created, if this can be read. -/
def toldAt? (listing : Listing) : Option Moment :=
  (listing.createdAt.bind Timestamp.read?).map (·.moment)

/-- Whether a listing tells a moment not before that of another one, or the other one tells none. -/
def NoOlder (first second : Listing) : Prop :=
  Leads (toldAt? first) (toldAt? second)

/-- Whether some listings of a catalog are its newest ones. -/
structure NewestShown (listings shown : List Listing) : Prop where
  /-- The newest come first, and those that tell no moment come last. -/
  ordered : shown.Pairwise NoOlder
  /-- None of those left out is newer than one of them. -/
  complete : ∀ left, (shown ++ left).Perm listings →
    ∀ kept ∈ shown, ∀ other ∈ left, NoOlder kept other

/-- Whether no listing shown tells an earlier moment than one of the catalog with a lesser text. -/
def TextsInTime (listings shown : List Listing) : Prop :=
  ∀ kept ∈ shown, ∀ other ∈ listings, ∀ text lesser, kept.createdAt = some text →
    other.createdAt = some lesser → lesser < text → NoOlder kept other

variable {listings shown left : List Listing} {first second : Listing}

/-- Of listings with one text each is as old as the other, so only those with lesser texts have to
be compared. -/
theorem noOlder_of_leads (leads : Leads first.createdAt second.createdAt)
    (inTime : ∀ text lesser, first.createdAt = some text → second.createdAt = some lesser →
      lesser < text → NoOlder first second) : NoOlder first second := by
  intro moment told
  cases dated : second.createdAt with
  | none =>
    rw [toldAt?, dated] at told
    cases told
  | some lesser =>
    obtain ⟨text, datedToo, le⟩ := leads lesser dated
    rcases le.lt_or_eq with less | rfl
    · exact inTime text lesser datedToo dated less moment told
    · rw [toldAt?, dated] at told
      exact ⟨moment, by rw [toldAt?, datedToo, told], Int.le_refl moment⟩

/-- The listings selected are the newest ones exactly when their texts are in the order of the
moments that they tell. -/
theorem Ranked.newestShown_iff (held : Ranked listings (shown ++ left)) :
    NewestShown listings shown ↔ TextsInTime listings shown := by
  obtain ⟨orderedShown, -, across⟩ := List.pairwise_append.mp held.ordered
  constructor
  · intro newest kept isKept other isOther text lesser dated datedOther less
    rcases List.mem_append.mp (held.perm.mem_iff.mpr isOther) with shownToo | leftOut
    · obtain ⟨place, inShown, rfl⟩ := List.mem_iff_getElem.mp isKept
      obtain ⟨otherPlace, alsoInShown, rfl⟩ := List.mem_iff_getElem.mp shownToo
      -- Of two listings shown the one with the greater text stands before the other.
      rcases Nat.lt_trichotomy place otherPlace with before | rfl | after
      · exact List.pairwise_iff_getElem.mp newest.ordered _ _ inShown alsoInShown before
      · cases dated.symm.trans datedOther
        exact absurd less (lt_irrefl _)
      · obtain ⟨greater, same, le⟩ := List.pairwise_iff_getElem.mp orderedShown _ _ alsoInShown
          inShown after text dated
        cases same.symm.trans datedOther
        exact absurd less (not_lt.mpr le)
    · exact newest.complete left held.perm kept isKept other leftOut
  · intro inTime
    refine ⟨orderedShown.imp_of_mem fun isKept isOther leads => ?_, fun others perm => ?_⟩
    · exact noOlder_of_leads leads
        (inTime _ isKept _ (held.perm.subset (List.mem_append_left _ isOther)))
    · intro kept isKept other isOther
      have same : others.Perm left :=
        (List.perm_append_left_iff shown).mp (perm.trans held.perm.symm)
      have leftOut : other ∈ left := same.subset isOther
      exact noOlder_of_leads (across kept isKept other leftOut)
        (inTime kept isKept other (held.perm.subset (List.mem_append_right _ leftOut)))

/-- Listings whose texts differ in nothing but digits are in the order of their texts. -/
theorem noOlder_of_spelledAlike {text lesser : String} (dated : first.createdAt = some text)
    (datedToo : second.createdAt = some lesser) (alike : Timestamp.SpelledAlike lesser text)
    (less : lesser < text) : NoOlder first second := by
  intro moment told
  rw [toldAt?, datedToo] at told
  obtain ⟨timestamp, read, rfl⟩ := Option.map_eq_some_iff.mp told
  have read : Timestamp.read? lesser = some timestamp := read
  obtain ⟨newer, readToo, -⟩ : ∃ newer, Timestamp.read? text = some newer ∧
      newer.offset = timestamp.offset := by
    simpa [read, eq_comm] using alike.offset
  exact ⟨newer.moment, by rw [toldAt?, dated, Option.bind_some, readToo]; rfl,
    alike.moment_le read readToo less.le⟩

theorem textsInTime_of_spelledAlike (held : Ranked listings (shown ++ left))
    (alike : ∀ one ∈ listings, ∀ two ∈ listings, ∀ text lesser, one.createdAt = some text →
      two.createdAt = some lesser → Timestamp.SpelledAlike lesser text) :
    TextsInTime listings shown := by
  intro kept isKept other isOther text lesser dated datedOther less
  have inAnswer : kept ∈ listings := held.perm.subset (List.mem_append_left _ isKept)
  exact noOlder_of_spelledAlike dated datedOther
    (alike kept inAnswer other isOther text lesser dated datedOther) less

/-- The dashboard shows the newest listings of a catalog's answer exactly when no listing shown has
a greater text than another one and tells an earlier moment. It does whenever the texts of the
answer differ in nothing but digits. -/
theorem newest_shown_iff (limit : Nat) (listings : List Listing) :
    ∃ shown, (CallResult.answered listings).outcome? []
          (fun answer => some (recentListings limit answer)) = some (.fresh shown) ∧
      (NewestShown listings shown ↔ TextsInTime listings shown) ∧
      ((∀ one ∈ listings, ∀ two ∈ listings, ∀ text lesser, one.createdAt = some text →
        two.createdAt = some lesser → Timestamp.SpelledAlike lesser text) →
          NewestShown listings shown) := by
  obtain ⟨left, held⟩ := exists_ranked_append limit listings
  exact ⟨recentListings limit listings, rfl, held.newestShown_iff,
    fun alike => held.newestShown_iff.mpr (textsInTime_of_spelledAlike held alike)⟩

/-! ### A clock ahead of universal time -/

/-- A listing that says nothing but when it was created. -/
def listedAt (product : Int64) (createdAt : Option String) : Listing :=
  ⟨product, "", none, none, none, none, createdAt⟩

/-- Nine o'clock in the morning where it is nine hours later than in universal time. -/
def abroad : Listing :=
  listedAt 1 (some "2024-05-01T09:00:00+09:00")

/-- Eight o'clock in universal time, which is eight hours after that. -/
def home : Listing :=
  listedAt 2 (some "2024-05-01T08:00:00Z")

/-- The earlier of the two is shown first. -/
theorem abroad_shown_first :
    (∀ listing ∈ [abroad, home], ∀ text, listing.createdAt = some text →
      (Timestamp.read? text).isSome = true) ∧
    ∃ shown, (CallResult.answered [abroad, home]).outcome? []
        (fun answer => some (recentListings 5 answer)) = some (.fresh shown) ∧
      ¬shown.Pairwise NoOlder := by
  have toldAbroad : toldAt? abroad = some 1714521600000000000 := by decide
  have toldHome : toldAt? home = some 1714550400000000000 := by decide
  have shown : recentListings 5 [abroad, home] = [abroad, home] :=
    congrArg (List.take 5) (List.mergeSort_of_pairwise (by decide))
  refine ⟨?_, [abroad, home], congrArg (fun list => some (Outcome.fresh list)) shown,
    fun ordered => ?_⟩
  · simp only [List.forall_mem_cons, abroad, home, listedAt, Option.some.injEq, forall_eq']
    exact ⟨by decide, by decide, by simp⟩
  · have older : NoOlder abroad home :=
      List.rel_of_pairwise_cons ordered (List.mem_singleton_self _)
    obtain ⟨moment, same, le⟩ := older _ toldHome
    cases toldAbroad.symm.trans same
    exact absurd le (by decide)

end UserDashboard.Dashboard
