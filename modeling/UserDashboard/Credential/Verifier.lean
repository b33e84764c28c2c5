/-
This file signs and verifies tokens.

A token is three texts with points between them: a header that names the algorithm, the claims,
and a code that authenticates the first two under the service's secret. It is accepted when the
header names the service's algorithm, the code is the one that the service would have written, the
claims can be read, the expiry is not in the past, and the token is not meant for an audience of
its own. An expiry in the running second is not in the past: seconds are compared whole.

The claims are read twice. The second reading looks only at the registered claims, finds the expiry
only in an object and only if it is not negative, and checks the form of claims that the first one
passed over.
-/

import UserDashboard.Credential.Claims
import UserDashboard.Credential.Header
import UserDashboard.Crypto.Base64Url
import UserDashboard.Json.Printer
import UserDashboard.Json.Reader

namespace UserDashboard.Credential

open Crypto Time Text

/-! ### Tokens as text -/

/-- The text before and after the last point. -/
def splitAtLastPoint? (text : List Char) : Option (List Char × List Char) :=
  let tail := (text.reverse.takeWhile (· ≠ '.')).reverse
  match text.reverse.dropWhile (· ≠ '.') with
  | [] => none
  | _ :: front => some (front.reverse, tail)

/-- The three parts of a token. Points beyond the second stay in the header. -/
structure Parts where
  /-- The header. -/
  header : List Char
  /-- The claims. -/
  payload : List Char
  /-- The code that authenticates them. -/
  signature : List Char
  deriving DecidableEq

/-- The text that is authenticated: header and claims with a point between them. -/
def Parts.signed (parts : Parts) : List Char :=
  parts.header ++ '.' :: parts.payload

/-- Takes a token apart. -/
def Parts.ofText? (text : String) : Option Parts := do
  let (signed, signature) ← splitAtLastPoint? text.toList
  let (header, payload) ← splitAtLastPoint? signed
  some ⟨header, payload, signature⟩

/-- The octets of a text. -/
def octetsOf (characters : List Char) : List UInt8 :=
  (String.ofList characters).toUTF8.toList

/-- The text of a JSON value in the URL-safe alphabet. -/
def encodedJson (json : Json) : List Char :=
  Base64Url.encode (octetsOf json.print)

/-- The JSON value of a text in the URL-safe alphabet. -/
def decodedJson (text : List Char) : Except TokenError Json :=
  match Base64Url.decode? text with
  | none => .error (.decoding .alphabet)
  | some octets =>
    match Json.parseOctets? octets with
    | none => .error (.decoding .json)
    | some json => .ok json

/-! ### Registered claims -/

/-- What the registered claims say. -/
structure Registered where
  /-- The expiry, if there is a usable one. -/
  expiry : Option Nat
  /-- Whether the token is meant for an audience. -/
  hasAudience : Bool

/-- Whether a value names an audience: one text or a list of texts. -/
def namesAudience : Json → Bool
  | .string _ => true
  | .array items => items.all fun item => item.readText?.isSome
  | _ => false

/-- Whether a claim that should be a number can be passed over: anything that is read to its end,
which a filled list or object is not. -/
def isSkippable : Json → Bool
  | .array items => items.isEmpty
  | .object members => members.isEmpty
  | .unreadable atEnd => atEnd
  | _ => true

/-- A claim that should be text, or a list of texts, as plain data. One that cannot be read counts as
none if it is passed over. -/
def tried? : Json → Option Json
  | .unreadable atEnd => if atEnd then some .null else none
  | claim => claim.plain? (Json.deepest - 1)

/-- Reads the registered claims. None may occur twice. -/
def Registered.ofJson? : Json → Option Registered
  | .object members => do
    let record ← (Json.object members).record? ["exp", "nbf", "sub", "iss", "aud"]
    let _ ← record.defaulted "iss" .null tried?
    let audience ← record.defaulted "aud" .null tried?
    let notBefore ← record.defaulted "nbf" .null some
    if isSkippable notBefore then
      some ⟨record.required "exp" Json.readNat64?, namesAudience audience⟩
    else none
  | _ => some ⟨none, false⟩

/-! ### Verification -/

/-- A service that signs and verifies tokens. -/
structure Verifier where
  /-- The algorithm it signs with. -/
  algorithm : Algorithm
  /-- The secret it shares with whoever else may sign. -/
  secret : List UInt8

/-- What a verified credential says. -/
structure Verified where
  /-- Who bears it. -/
  identity : Identity
  /-- When it stops being valid. -/
  expiresAt : Moment
  deriving DecidableEq

namespace Verifier

/-- The code that authenticates a text. -/
def sign (verifier : Verifier) (text : List Char) : List UInt8 :=
  verifier.algorithm.hash.hmac verifier.secret (octetsOf text)

/-- The token of claims. -/
def encode (verifier : Verifier) (claims : Claims) : String :=
  let signed := encodedJson (Header.toJson verifier.algorithm) ++ '.' :: encodedJson claims.toJson
  String.ofList (signed ++ '.' :: Base64Url.encode (verifier.sign signed))

/-- Whether the header of a token is one of this service. -/
def checkHeader (verifier : Verifier) (parts : Parts) : Except TokenError Unit := do
  let header ← decodedJson parts.header
  match Header.ofJson? header with
  | none => .error (.decoding .json)
  | some algorithm =>
    if algorithm = .own verifier.algorithm then .ok () else .error (.decoding .algorithm)

/-- Whether a token carries the code that this service would have written. -/
def checkSignature (verifier : Verifier) (parts : Parts) : Except TokenError Unit :=
  match Base64Url.decode? parts.signature with
  | none => .error (.decoding .alphabet)
  | some signature =>
    if signature = verifier.sign parts.signed then .ok () else .error .invalidSignature

/-- Whether the registered claims allow the token to be used at a moment. -/
def checkRegistered (now : Moment) (registered : Registered) : Except TokenError Unit :=
  match registered.expiry with
  | none => .error (.missingClaim "exp")
  | some expiry =>
    if (expiry : Int) < now / nanosPerSecond then .error .expired
    else if registered.hasAudience then .error (.decoding .audience)
    else .ok ()

/-- The claims of a token, if it is accepted at a moment. -/
def decode (verifier : Verifier) (now : Moment) (token : String) : Except TokenError Claims := do
  match Parts.ofText? token with
  | none => .error (.decoding .parts)
  | some parts =>
    verifier.checkHeader parts
    verifier.checkSignature parts
    let payload ← decodedJson parts.payload
    match Claims.ofJson? payload, Registered.ofJson? payload with
    | some claims, some registered =>
      checkRegistered now registered
      .ok claims
    | _, _ => .error (.decoding .json)

/-- What a token says, if it is accepted at a moment. -/
def verify (verifier : Verifier) (now : Moment) (token : String) : Except TokenError Verified := do
  let claims ← verifier.decode now token
  let identity ← claims.identity
  let expiresAt ← claims.expiry
  .ok ⟨identity, expiresAt⟩

end Verifier

end UserDashboard.Credential
