/-
This file holds responses.

Every body with content is an envelope that says whether the request had success, what is to be
said about it, and the data asked for, if there is any. A credential that is not accepted is the
client's fault, unless the configuration is to blame, of which no more is told than that.
-/

import UserDashboard.Credential.Error
import UserDashboard.Json.Basic

namespace UserDashboard.Http

open Credential

/-- A response. -/
structure Response where
  /-- How the request went. -/
  status : Nat
  /-- What else is said. -/
  headers : List (String × String)
  /-- The content, if there is any. -/
  body : Option Json

namespace Response

/-- A response without content. -/
def empty (status : Nat) : Response :=
  ⟨status, [], none⟩

/-- A response with one more header. -/
def withHeader (response : Response) (name value : String) : Response :=
  { response with headers := response.headers ++ [(name, value)] }

/-- The envelope of a body. -/
def envelope (success : Bool) (message : String) (data : Option Json) : Json :=
  .object ([("success", .bool success), ("message", .string message)] ++
    Json.member? "data" id data)

/-- A response with an envelope. -/
def enveloped (status : Nat) (body : Json) : Response :=
  ⟨status, [("content-type", "application/json")], some body⟩

/-- The response to a request that had success, with the data asked for. -/
def success (message : String) (data : Json) : Response :=
  enveloped 200 (envelope true message (some data))

/-- The response to a request that had success and asked for no data. -/
def done (message : String) : Response :=
  enveloped 200 (envelope true message none)

/-- The status of a credential that is not accepted. -/
def errorStatus : CredentialError → Nat
  | .malformed _ => 400
  | .invalid _ => 401
  | .configuration _ => 500

/-- What the client is told about a credential that is not accepted. -/
def errorMessage (error : CredentialError) : String :=
  if error.isClientError then error.message else "Internal server error"

/-- How the client may prove who it is. -/
def challenge : String := "Bearer error=\"invalid_token\""

/-- The response to a credential that is not accepted. -/
def refused (error : CredentialError) : Response :=
  let response := enveloped (errorStatus error) (envelope false (errorMessage error) none)
  if response.status = 401 then response.withHeader "www-authenticate" challenge else response

end Response

end UserDashboard.Http
