/-
This file names credentials without holding them.

A fingerprint is the SHA-256 digest of a token. It stands for the token where it is remembered, and
its first digits for it where something is shown.
-/

import UserDashboard.Crypto.Sha256

namespace UserDashboard.Credential

/-- The digest of a token. -/
structure Fingerprint where
  /-- Its octets. -/
  octets : List UInt8
  deriving DecidableEq

/-- The two hexadecimal digits of an octet, in lower case. -/
def hexDigits (octet : UInt8) : List Char :=
  [Nat.digitChar (octet.toNat / 16), Nat.digitChar (octet.toNat % 16)]

namespace Fingerprint

/-- The fingerprint of a token. -/
def of (token : String) : Fingerprint :=
  ⟨Crypto.Sha256.digest token.toUTF8.toList⟩

/-- All digits. -/
def text (fingerprint : Fingerprint) : String :=
  String.ofList (fingerprint.octets.flatMap hexDigits)

/-- The first twelve digits. -/
def short (fingerprint : Fingerprint) : String :=
  String.ofList ((fingerprint.octets.take 6).flatMap hexDigits)

/-- The form in which it is shown to whoever looks for a fault, which never has all digits. -/
def shown (fingerprint : Fingerprint) : String :=
  "Fingerprint(" ++ fingerprint.short ++ "..)"

end Fingerprint

end UserDashboard.Credential
