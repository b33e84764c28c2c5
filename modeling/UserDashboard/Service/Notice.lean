/-
This file holds the notices by which the marketplace tells the service that accounts have changed.

Each kind of notice names one account or two, whose dashboards are out of date. What else it says
is kept as it came and is not needed to act on it.
-/

import UserDashboard.Catalog.Listing

namespace UserDashboard.Service

open Number Catalog

/-- The kinds of notices. -/
inductive NoticeKind where
  | productRegistered
  | productPurchased
  | productStatusChanged
  | dashboardRefresh
  deriving DecidableEq, Repr

/-- A notice. -/
inductive Notice where
  /-- An account registered a product. -/
  | productRegistered (user : SubjectId) (product : Option Int64) (name : Option String)
  /-- An account bought a product of another one. -/
  | productPurchased (seller buyer : SubjectId) (product : Option Int64) (name : Option String)
    (price : Option Binary64)
  /-- The sale of a product stands elsewhere than before. -/
  | productStatusChanged (user : SubjectId) (name before after : Option String)
  /-- An account's dashboard is to be dropped. -/
  | dashboardRefresh (user : SubjectId) (reason : Option String)
  deriving DecidableEq

namespace Notice

/-- The accounts whose dashboards are out of date. -/
def subjects : Notice → List SubjectId
  | .productRegistered user _ _ => [user]
  | .productPurchased seller buyer _ _ _ => [seller, buyer]
  | .productStatusChanged user _ _ _ => [user]
  | .dashboardRefresh user _ => [user]

/-- Reads a notice of a kind from JSON. -/
def ofJson? (kind : NoticeKind) (json : Json) : Option Notice :=
  match kind with
  | .productRegistered => do
    let record ← json.record? ["userId", "productId", "productName"]
    some (.productRegistered (← record.required "userId" SubjectId.ofJson?)
      (← record.nullable "productId" Listing.readNumber?)
      (← record.nullable "productName" Json.readText?))
  | .productPurchased => do
    let record ← json.record? ["sellerId", "buyerId", "productId", "productName", "price"]
    some (.productPurchased (← record.required "sellerId" SubjectId.ofJson?)
      (← record.required "buyerId" SubjectId.ofJson?)
      (← record.nullable "productId" Listing.readNumber?)
      (← record.nullable "productName" Json.readText?)
      (← record.nullable "price" Json.readReal?))
  | .productStatusChanged => do
    let record ← json.record? ["userId", "productName", "oldStatus", "newStatus"]
    some (.productStatusChanged (← record.required "userId" SubjectId.ofJson?)
      (← record.nullable "productName" Json.readText?)
      (← record.nullable "oldStatus" Json.readText?)
      (← record.nullable "newStatus" Json.readText?))
  | .dashboardRefresh => do
    let record ← json.record? ["userId", "eventType"]
    some (.dashboardRefresh (← record.required "userId" SubjectId.ofJson?)
      (← record.nullable "eventType" Json.readText?))

/-- What a notice says, in the order of its fields. -/
def toJson : Notice → Json
  | .productRegistered user product name =>
    .array [user.toJson, Json.ofOption Listing.numberJson product, Json.ofOption .string name]
  | .productPurchased seller buyer product name price =>
    .array [seller.toJson, buyer.toJson, Json.ofOption Listing.numberJson product,
      Json.ofOption .string name, Json.ofOption .real price]
  | .productStatusChanged user name before after =>
    .array [user.toJson, Json.ofOption .string name, Json.ofOption .string before,
      Json.ofOption .string after]
  | .dashboardRefresh user reason =>
    .array [user.toJson, Json.ofOption .string reason]

end Notice

end UserDashboard.Service
