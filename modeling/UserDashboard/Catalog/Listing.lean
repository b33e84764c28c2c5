/-
This file holds the listings of the catalog.

A listing has the number of its product, which may also be written as plain `id`, and a title,
which may be null and then is empty. Everything else may be missing, and is left out again when the
listing is written. When a listing was created is kept as the catalog wrote it.
-/

import UserDashboard.Identity

namespace UserDashboard.Catalog

open Number

/-- A product on offer. -/
structure Listing where
  /-- The number of the product. -/
  product : Int64
  /-- Its title. -/
  title : String
  /-- What it costs. -/
  price : Option Binary64
  /-- Where the sale stands. -/
  status : Option String
  /-- The account that sells it. -/
  seller : Option Int64
  /-- The account that it belongs to. -/
  owner : Option Int64
  /-- When it was created. -/
  createdAt : Option String
  deriving DecidableEq

namespace Listing

/-- The names of the fields in JSON. -/
def fields : List Json.FieldName :=
  [⟨"productId", ["id"]⟩, "title", "price", "status", "sellerId", "userId", "createdAt"]

/-- Reads a number of an account or a product. -/
def readNumber? (json : Json) : Option Int64 :=
  json.readInt64?.map Int64.ofInt

/-- Reads a listing from JSON. -/
def ofJson? (json : Json) : Option Listing := do
  let record ← json.record? fields
  let optional {α : Type} (name : String) (read : Json → Option α) : Option (Option α) :=
    record.defaulted name none (Json.readNullable? read)
  let product ← record.required "productId" readNumber?
  let title ← optional "title" Json.readText?
  let price ← optional "price" Json.readReal?
  let status ← optional "status" Json.readText?
  let seller ← optional "sellerId" readNumber?
  let owner ← optional "userId" readNumber?
  let createdAt ← optional "createdAt" Json.readText?
  some ⟨product, title.getD "", price, status, seller, owner, createdAt⟩

/-- A number of an account or a product as JSON. -/
def numberJson (number : Int64) : Json :=
  .integer number.toInt

/-- A listing as JSON. -/
def toJson (listing : Listing) : Json :=
  .object ([("productId", numberJson listing.product), ("title", .string listing.title)] ++
    Json.member? "price" .real listing.price ++ Json.member? "status" .string listing.status ++
    Json.member? "sellerId" numberJson listing.seller ++
    Json.member? "userId" numberJson listing.owner ++
    Json.member? "createdAt" .string listing.createdAt)

end Listing

/-- Whether a raw listing belongs to an account: one of the two numbers that name an account is
its own. Nothing else about the listing matters. -/
def isOwnedBy (subject : SubjectId) (raw : Json) : Bool :=
  ["sellerId", "userId"].any fun name => (raw.get name).readInt64? = some subject.value.toInt

end UserDashboard.Catalog
