/-
This file holds what a credential claims about its bearer, and until when.

The number of the account may be missing from the claims, so that a token without it can be told
from one that cannot be read. Times are in seconds since the beginning of 1970.
-/

import UserDashboard.Credential.Error
import UserDashboard.Identity
import UserDashboard.Time.Timestamp

namespace UserDashboard.Credential

open Time

/-- What a credential claims. -/
structure Claims where
  /-- The address of the account. -/
  email : String
  /-- The number of the account. -/
  account : Option Int64
  /-- The name it shows to others. -/
  displayName : String
  /-- When the credential was issued. -/
  issuedAt : Int64
  /-- When it stops being valid. -/
  expiresAt : Int64
  deriving DecidableEq, Repr

namespace Claims

/-- The seconds a credential is valid unless it says otherwise. -/
def lifetime : Int64 := 3600

/-- Claims issued at a moment and valid for the usual time. -/
def issue (now : Moment) (email : String) (account : Int64) (displayName : String) : Claims :=
  let second := Int64.ofInt (now / nanosPerSecond)
  ⟨email, some account, displayName, second, second + lifetime⟩

/-- The claims with an expiry so many seconds after they were issued. -/
def expiringIn (claims : Claims) (seconds : Int64) : Claims :=
  { claims with expiresAt := claims.issuedAt + seconds }

/-- The account that the claims speak of. -/
def identity (claims : Claims) : Except TokenError Identity :=
  match claims.account with
  | some account => .ok ⟨⟨account⟩, claims.email, claims.displayName⟩
  | none => .error (.missingClaim "userId")

/-- The moment at which the credential stops being valid, which has to be a date with a year of
four digits. -/
def expiry (claims : Claims) : Except TokenError Moment :=
  let second := claims.expiresAt.toInt
  if firstSecond ≤ second ∧ second ≤ lastSecond then .ok (momentAt second 0)
  else .error (.invalidClaims "exp out of range: timestamp was not in range")

/-! ### Written form -/

/-- Claims as JSON. -/
def toJson (claims : Claims) : Json :=
  .object ([("sub", .string claims.email)] ++
    Json.member? "userId" (fun account => .integer account.toInt) claims.account ++
    [("nickname", .string claims.displayName), ("iat", .integer claims.issuedAt.toInt),
      ("exp", .integer claims.expiresAt.toInt)])

/-- Reads claims from JSON. -/
def ofJson? (json : Json) : Option Claims := do
  let record ← json.record? ["sub", "userId", "nickname", "iat", "exp"]
  let email ← record.required "sub" Json.readText?
  let account ← record.nullable "userId" Json.readInt64?
  let displayName ← record.defaulted "nickname" "" Json.readText?
  let issuedAt ← record.required "iat" Json.readInt64?
  let expiresAt ← record.required "exp" Json.readInt64?
  some ⟨email, account.map Int64.ofInt, displayName, Int64.ofInt issuedAt, Int64.ofInt expiresAt⟩

end Claims

end UserDashboard.Credential
