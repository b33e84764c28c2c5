/-
This file authenticates messages with a shared secret: HMAC over a hash, as FIPS 198-1 defines it.
-/

import UserDashboard.Crypto.Sha256
import UserDashboard.Crypto.Sha512

namespace UserDashboard.Crypto

/-- A hash and the size of the blocks it works on. -/
structure Hash where
  /-- The octets of a block. -/
  blockSize : Nat
  /-- The digest of a message. -/
  digest : List UInt8 → List UInt8

/-- SHA-256. -/
def Hash.sha256 : Hash := ⟨64, Sha256.digest⟩

/-- SHA-384. -/
def Hash.sha384 : Hash := ⟨128, Sha512.digest384⟩

/-- SHA-512. -/
def Hash.sha512 : Hash := ⟨128, Sha512.digest512⟩

/-- The secret as one block: hashed if it is longer, filled with zeros if it is shorter. -/
def Hash.keyBlock (hash : Hash) (secret : List UInt8) : List UInt8 :=
  let key := if hash.blockSize < secret.length then hash.digest secret else secret
  key ++ List.replicate (hash.blockSize - key.length) 0

/-- The code that authenticates a message under a secret. -/
def Hash.hmac (hash : Hash) (secret message : List UInt8) : List UInt8 :=
  let key := hash.keyBlock secret
  let inner := hash.digest (key.map (· ^^^ 0x36) ++ message)
  hash.digest (key.map (· ^^^ 0x5C) ++ inner)

end UserDashboard.Crypto
