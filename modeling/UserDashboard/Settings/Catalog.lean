/-
This file holds the settings by which the catalog is asked.
-/

import UserDashboard.Catalog.Error
import UserDashboard.Settings.Form

namespace UserDashboard.Settings

open Catalog Net Time

/-- How the catalog is asked. -/
structure CatalogSettings where
  /-- The address below which it answers. -/
  address : String := "http://product-service:8082"
  /-- How long a refresh waits for a call. -/
  fetchTimeout : Span := .ofSeconds 2
  /-- How long whoever asks for listings waits. -/
  listingTimeout : Span := .ofSeconds 5
  deriving DecidableEq

namespace CatalogSettings

/-- The names of the fields. -/
def fields : List String :=
  ["base_url", "fetch_timeout", "listing_timeout"]

/-- Reads the settings. -/
def read? {V : Type} (form : Form V) (value : V) : Option CatalogSettings := do
  let field ← form.fields? fields value
  let default : CatalogSettings := {}
  some {
    address := ← Form.field field "base_url" default.address form.text?
    fetchTimeout := ← Form.field field "fetch_timeout" default.fetchTimeout form.span?
    listingTimeout := ← Form.field field "listing_timeout" default.listingTimeout form.span? }

/-- The settings as JSON. -/
def toJson (settings : CatalogSettings) : Json :=
  .object [("base_url", .string settings.address),
    ("fetch_timeout", settings.fetchTimeout.toJson),
    ("listing_timeout", settings.listingTimeout.toJson)]

/-- Whether the settings can be used. -/
def check (settings : CatalogSettings) : Except CatalogError Unit :=
  match Url.read settings.address with
  | .error error => .error (.configuration (.address settings.address error))
  | .ok address =>
    if ¬["http", "https"].contains address.scheme then
      .error (.configuration (.scheme address.scheme))
    else if settings.fetchTimeout.nanos = 0 ∨ settings.listingTimeout.nanos = 0 then
      .error (.configuration .zeroTimeout)
    else .ok ()

end CatalogSettings

end UserDashboard.Settings
