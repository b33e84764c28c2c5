/-
This file selects the newest of an account's listings and tells its activity from them.

Listings are ordered by the text of their creation time, the greatest first. Those without one come
last, and listings that this does not separate keep the order of the catalog. The feed has a record
for each selected listing, in the same order. A listing that does not say when it was created is
given a moment of its own, one minute earlier for each place in the selection.
-/

import UserDashboard.Dashboard.Activity

namespace UserDashboard.Dashboard

open Catalog Time

/-- Whether a listing may stand before another one. -/
def mayPrecede (first second : Listing) : Bool :=
  match first.createdAt, second.createdAt with
  | some earlier, some later => !(earlier < later)
  | some _, none => true
  | none, some _ => false
  | none, none => true

/-- The newest listings, at most `limit` of them. -/
def recentListings (limit : Nat) (listings : List Listing) : List Listing :=
  (listings.mergeSort mayPrecede).take limit

/-- The records of listings, the first of which stands at a place in the selection. There are none
when a moment that has to be made up would lie before all dates. -/
def recordsFrom? (generatedAt : Timestamp) : Nat → List Listing → Option (List Activity)
  | _, [] => some []
  | place, listing :: rest => do
    let fallback ← generatedAt.minutesBefore? place
    let records ← recordsFrom? generatedAt (place + 1) rest
    some (Activity.registered listing fallback :: records)

/-- The activity told from the newest listings. -/
def recentActivity? (limit : Nat) (generatedAt : Timestamp) (listings : List Listing) :
    Option (List Activity) :=
  recordsFrom? generatedAt 0 (recentListings limit listings)

end UserDashboard.Dashboard
