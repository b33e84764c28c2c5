/-
This file asks a catalog over the network.

A catalog answers below its address, with an envelope that says whether the call had success and
holds the data. Listings are read in two steps. The whole answer has to be plain data, but only
the listings of the account asked for have to be listings, and of those the ones that are not are
passed over: what others offer cannot hide what the account offers.
-/

import UserDashboard.Catalog.Error
import UserDashboard.Catalog.Listing
import UserDashboard.Catalog.Statistics
import UserDashboard.Json.Reader

namespace UserDashboard.Catalog

open Net Number

/-- What became of a request. -/
inductive Exchange where
  /-- It was answered with a status and a body. -/
  | answered (status : Nat) (body : List UInt8)
  /-- It was not answered. -/
  | broken
  /-- It was not answered in time. -/
  | late
  deriving DecidableEq

/-- A catalog on the network. -/
structure Remote where
  /-- The address below which it answers, with a slash at its end. -/
  base : Url
  deriving DecidableEq

namespace Remote

/-- The catalog at an address. -/
def below (address : Url) : Remote :=
  ⟨address.asDirectory⟩

/-- The catalog at an address that is still to be read. -/
def ofText (text : String) : Except CatalogError Remote :=
  match Url.read text with
  | .ok address => .ok (Remote.below address)
  | .error error => .error (.configuration (.address text error))

/-! ### Envelopes -/

/-- What an envelope says. -/
structure Envelope (α : Type) where
  /-- Whether the call had success. -/
  success : Bool
  /-- The data. -/
  data : Option α

/-- Reads an envelope from JSON. A call had no success unless it says so. -/
def Envelope.ofJson? {α : Type} (read : Json → Option α) (json : Json) :
    Option (Envelope α) := do
  let record ← json.record? ["success", "data"]
  let success ← record.defaulted "success" false Json.readBool?
  let data ← record.nullable "data" read
  some ⟨success, data⟩

/-! ### Requests -/

/-- The address of a call. -/
def endpoint (remote : Remote) (steps : List (List Char)) : Except CatalogError Url :=
  match remote.base.resolve steps with
  | .ok address => .ok address
  | .error error => .error (.configuration (.path (Text.joined '/' steps) error))

/-- Whether a user's name and password can be read, so that they travel apart from the address. -/
def hasReadableUser (authority : Authority) : Bool :=
  let readable (text : List Char) : Bool := (Text.textOfOctets? (resolved text)).isSome
  readable authority.user &&
    (!authority.user.isEmpty || authority.password.elim false readable)

/-- The address that a request is sent to. -/
def requested (address : Url) : Url :=
  if address.authority.elim false hasReadableUser then address.withoutUser else address

/-- Whether a request can be sent to an address: its scheme is of the web and its host has only
characters that a request may hold. -/
def isSendable (address : Url) : Bool :=
  ["http", "https"].contains address.scheme &&
    address.authority.elim false fun authority =>
      authority.host.text.all fun c => c.isAlphanum || "!$&'()*+,-.:;=@[]_~".toList.contains c

/-- Reads the answer to a call. -/
def readAnswer {α : Type} (read : Json → Option α) (address : Url) (status : Nat)
    (body : List UInt8) : Except CatalogError α :=
  if 200 ≤ status ∧ status ≤ 299 then
    match (Json.parseOctets? body).bind (Envelope.ofJson? read) with
    | some ⟨true, some data⟩ => .ok data
    | some ⟨false, _⟩ => .error (.unavailable (.unsuccessful address))
    | some ⟨true, none⟩ => .error (.unavailable (.empty address))
    | none => .error (.unavailable .unreadable)
  else .error (.unavailable (.status address status))

/-- A call: what comes of asking at an address, where `ask` says what becomes of requests. -/
def call {α : Type} (remote : Remote) (ask : Url → Exchange) (steps : List (List Char))
    (read : Json → Option α) : Except CatalogError α :=
  match remote.endpoint steps with
  | .error error => .error error
  | .ok address =>
    let target := requested address
    if isSendable target then
      match ask target with
      | .answered status body => readAnswer read address status body
      | .broken => .error (.unavailable (.broken target))
      | .late => .error (.unavailable (.late target))
    else .error (.unavailable (.unsendable target))

/-! ### Calls -/

/-- The statistics of an account. -/
def statistics (remote : Remote) (ask : Url → Exchange) (subject : SubjectId) :
    Except CatalogError Statistics :=
  remote.call ask ["api".toList, "products".toList, "stats".toList, subject.text.toList]
    Statistics.ofJson?

/-- The deepest nesting of a listing: the envelope and the list around it count as well. -/
def deepestListing : Nat := Json.deepest - 2

/-- Reads a list of listings as plain data. -/
def readRaw? : Json → Option (List Json) :=
  Json.readList? (Json.plain? deepestListing)

/-- The listings of an account among those of a catalog, in the catalog's order. -/
def owned (subject : SubjectId) (raw : List Json) : List Listing :=
  (raw.filter (isOwnedBy subject)).filterMap Listing.ofJson?

/-- The listings of an account. -/
def ownedListings (remote : Remote) (ask : Url → Exchange) (subject : SubjectId) :
    Except CatalogError (List Listing) :=
  (remote.call ask ["api".toList, "products".toList] readRaw?).map (owned subject)

end Remote

end UserDashboard.Catalog
