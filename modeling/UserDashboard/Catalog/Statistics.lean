/-
This file holds what the catalog counts for an account. A count that the catalog leaves out is
zero.
-/

import UserDashboard.Json.Record

namespace UserDashboard.Catalog

open Number

/-- The counts and amounts of an account. -/
structure Statistics where
  /-- The products it registered. -/
  registered : UInt64
  /-- The products it bought. -/
  purchased : UInt64
  /-- The products it sold. -/
  sold : UInt64
  /-- All its transactions. -/
  transactions : UInt64
  /-- What it was paid in all. -/
  salesAmount : Binary64
  /-- What it paid in all. -/
  purchaseAmount : Binary64
  deriving DecidableEq

namespace Statistics

/-- Nothing counted. -/
def zero : Statistics :=
  ⟨0, 0, 0, 0, Binary64.zero false, Binary64.zero false⟩

instance : Inhabited Statistics := ⟨zero⟩

/-- The names of the fields in JSON. -/
def fields : List Json.FieldName :=
  ["registeredCount", "purchasedCount", "soldCount", "totalTransactions", "totalSalesAmount",
    "totalPurchaseAmount"]

/-- Reads a count. -/
def readCount? (json : Json) : Option UInt64 :=
  json.readNat64?.map UInt64.ofNat

/-- Reads statistics from JSON. -/
def ofJson? (json : Json) : Option Statistics := do
  let record ← json.record? fields
  let count (name : String) : Option UInt64 := record.defaulted name 0 readCount?
  let amount (name : String) : Option Binary64 :=
    record.defaulted name (Binary64.zero false) Json.readReal?
  some ⟨← count "registeredCount", ← count "purchasedCount", ← count "soldCount",
    ← count "totalTransactions", ← amount "totalSalesAmount", ← amount "totalPurchaseAmount"⟩

/-- Statistics as JSON. -/
def toJson (statistics : Statistics) : Json :=
  .object [("registeredCount", .nat statistics.registered.toNat),
    ("purchasedCount", .nat statistics.purchased.toNat),
    ("soldCount", .nat statistics.sold.toNat),
    ("totalTransactions", .nat statistics.transactions.toNat),
    ("totalSalesAmount", .real statistics.salesAmount),
    ("totalPurchaseAmount", .real statistics.purchaseAmount)]

end Statistics

end UserDashboard.Catalog
