/-
This file holds the records of an account's activity.

The only activity so far is the registration of a product, which is told from its listing. It
happened when the listing was created, if the catalog says so in a way that can be read, and else
at a moment that whoever asks has to supply.
-/

import UserDashboard.Catalog.Listing
import UserDashboard.Json.Times

namespace UserDashboard.Dashboard

open Catalog Time

/-- Something that an account did. -/
structure Activity where
  /-- The kind of activity. -/
  kind : String
  /-- What is shown of it. -/
  message : String
  /-- The number of the product. -/
  product : Int64
  /-- When it happened. -/
  timestamp : Timestamp
  deriving DecidableEq

namespace Activity

/-- The kind of a registration. -/
def productRegistered : String := "product_registered"

/-- The registration of a listed product, at the given moment unless the listing says when. -/
def registered (listing : Listing) (fallback : Timestamp) : Activity :=
  ⟨productRegistered, "Registered '" ++ listing.title ++ "'", listing.product,
    (listing.createdAt.bind Timestamp.read?).getD fallback⟩

/-- Reads a record from JSON. -/
def ofJson? (json : Json) : Option Activity := do
  let record ← json.record? ["type", "message", "productId", "timestamp"]
  let kind ← record.required "type" Json.readText?
  let message ← record.required "message" Json.readText?
  let product ← record.required "productId" Listing.readNumber?
  let timestamp ← record.required "timestamp" Timestamp.ofJson?
  some ⟨kind, message, product, timestamp⟩

/-- A record as JSON, unless its timestamp cannot be written. -/
def toJson? (activity : Activity) : Option Json := do
  let timestamp ← activity.timestamp.toJson?
  some (.object [("type", .string activity.kind), ("message", .string activity.message),
    ("productId", Listing.numberJson activity.product), ("timestamp", timestamp)])

end Activity

end UserDashboard.Dashboard
