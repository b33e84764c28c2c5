/-
This file computes SHA-512 and SHA-384 digests, as FIPS 180-4 defines them. The two share their
rounds; the shorter digest begins with other words and drops the last two of the result.
-/

import UserDashboard.Crypto.Octets
import UserDashboard.Crypto.Roots

namespace UserDashboard.Crypto.Sha512

/-- A word turned right by a number of bits below 64. -/
def rotate (word bits : UInt64) : UInt64 :=
  (word >>> bits) ||| (word <<< (64 - bits))

/-- The eight words that a digest is made of. -/
structure State where
  (a b c d e f g h : UInt64)

/-- The word added in each of the 80 rounds. -/
def roundWords : List UInt64 :=
  primes.map fun prime => UInt64.ofNat (rootFraction 3 64 prime)

/-- The words taken from the square roots of eight prime numbers. -/
def stateOfRoots (eightPrimes : List Nat) : State :=
  match eightPrimes.map fun prime => UInt64.ofNat (rootFraction 2 64 prime) with
  | [a, b, c, d, e, f, g, h] => ⟨a, b, c, d, e, f, g, h⟩
  | _ => ⟨0, 0, 0, 0, 0, 0, 0, 0⟩

/-- The words that hashing to 64 octets begins with. -/
def initial512 : State :=
  stateOfRoots (primes.take 8)

/-- The words that hashing to 48 octets begins with. -/
def initial384 : State :=
  stateOfRoots ((primes.drop 8).take 8)

/-- The schedule of a block grown by `count` words. It is held with the newest word first. -/
def extend : Nat → List UInt64 → List UInt64
  | 0, schedule => schedule
  | count + 1, schedule =>
    let back (distance : Nat) : UInt64 := schedule.getD (distance - 1) 0
    let low := rotate (back 15) 1 ^^^ rotate (back 15) 8 ^^^ (back 15 >>> 7)
    let high := rotate (back 2) 19 ^^^ rotate (back 2) 61 ^^^ (back 2 >>> 6)
    extend count ((back 16 + low + back 7 + high) :: schedule)

/-- The 80 words of a block's schedule. -/
def schedule (block : List UInt8) : List UInt64 :=
  (extend 64 ((pieces 8 16 block).map fun octets => UInt64.ofNat (bigEndian octets)).reverse).reverse

/-- One round. -/
def round (state : State) (roundWord scheduled : UInt64) : State :=
  let high := rotate state.e 14 ^^^ rotate state.e 18 ^^^ rotate state.e 41
  let choice := (state.e &&& state.f) ^^^ (~~~state.e &&& state.g)
  let first := state.h + high + choice + roundWord + scheduled
  let low := rotate state.a 28 ^^^ rotate state.a 34 ^^^ rotate state.a 39
  let majority := (state.a &&& state.b) ^^^ (state.a &&& state.c) ^^^ (state.b &&& state.c)
  ⟨first + (low + majority), state.a, state.b, state.c, state.d + first, state.e, state.f, state.g⟩

/-- The state after one more block. -/
def compress (state : State) (block : List UInt8) : State :=
  let after := (roundWords.zip (schedule block)).foldl
    (fun state (roundWord, scheduled) => round state roundWord scheduled) state
  ⟨state.a + after.a, state.b + after.b, state.c + after.c, state.d + after.d,
    state.e + after.e, state.f + after.f, state.g + after.g, state.h + after.h⟩

/-- The octets of the eight words. -/
def State.octets (state : State) : List UInt8 :=
  [state.a, state.b, state.c, state.d, state.e, state.f, state.g, state.h].flatMap
    fun word => toBigEndian 8 word.toNat

/-- The digest of a message, 64 octets. -/
def digest512 (message : List UInt8) : List UInt8 :=
  ((blocks 128 16 message).foldl compress initial512).octets

/-- The short digest of a message, 48 octets. -/
def digest384 (message : List UInt8) : List UInt8 :=
  (((blocks 128 16 message).foldl compress initial384).octets).take 48

end UserDashboard.Crypto.Sha512
