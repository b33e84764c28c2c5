/-
This file says why a credential is not accepted.

A token fails for a reason of its own; whoever presented it is told that the credential was
malformed, when there was nothing to verify, or invalid, with the token's reason as the detail.
Only a faulty configuration is not the presenter's fault.
-/
namespace UserDashboard.Credential

/-! ### Tokens -/

/-- Why a token cannot be taken apart or does not fit the service. -/
inductive DecodingFault where
  /-- It does not have three parts. -/
  | parts
  /-- It was signed with another algorithm. -/
  | algorithm
  /-- It is meant for some audience. -/
  | audience
  /-- A part is not text of the expected JSON form. -/
  | json
  /-- A part is not in the URL-safe alphabet. -/
  | alphabet
  /-- A fault reported by someone else. -/
  | reported (detail : String)
  deriving DecidableEq

/-- What is said about the fault. -/
def DecodingFault.message : DecodingFault → String
  | .parts => "InvalidToken"
  | .algorithm => "InvalidAlgorithm"
  | .audience => "InvalidAudience"
  | .json => "JSON error"
  | .alphabet => "Base64 error"
  | .reported detail => detail

/-- Why a token is not accepted or cannot be written. -/
inductive TokenError where
  /-- The claims cannot be written. -/
  | encoding (detail : String)
  /-- The token cannot be taken apart or does not fit the service. -/
  | decoding (fault : DecodingFault)
  /-- The token is past its expiry. -/
  | expired
  /-- The signature is not the service's own. -/
  | invalidSignature
  /-- A claim has a value that cannot be used. -/
  | invalidClaims (detail : String)
  /-- A claim that is needed is missing. -/
  | missingClaim (name : String)
  deriving DecidableEq

/-- What is said about a token. -/
def TokenError.message : TokenError → String
  | .encoding detail => "Failed to encode token: " ++ detail
  | .decoding fault => "Failed to decode token: " ++ fault.message
  | .expired => "Token expired"
  | .invalidSignature => "Invalid signature"
  | .invalidClaims detail => "Invalid claims: " ++ detail
  | .missingClaim name => "Missing required claim: " ++ name

/-! ### Credentials -/

/-- Why a credential is not accepted. -/
inductive CredentialError where
  /-- There is nothing to verify. -/
  | malformed (detail : String)
  /-- The verification failed. -/
  | invalid (detail : String)
  /-- The configuration cannot be used. -/
  | configuration (detail : String)
  deriving DecidableEq

namespace CredentialError

/-- A token that was not accepted makes an invalid credential. -/
def ofToken (error : TokenError) : CredentialError :=
  .invalid error.message

/-- Whether whoever presented the credential is to blame. -/
def isClientError : CredentialError → Bool
  | .malformed _ => true
  | .invalid _ => true
  | .configuration _ => false

/-- The detail alone. -/
def detail : CredentialError → String
  | .malformed detail => detail
  | .invalid detail => detail
  | .configuration detail => detail

/-- What is said about a credential. -/
def message : CredentialError → String
  | .malformed detail => "Malformed credential: " ++ detail
  | .invalid detail => "Invalid credential: " ++ detail
  | .configuration detail => "Configuration error: " ++ detail

end CredentialError

end UserDashboard.Credential
