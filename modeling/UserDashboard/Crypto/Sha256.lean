/-
This file computes SHA-256 digests, as FIPS 180-4 defines them.
-/

import UserDashboard.Crypto.Octets
import UserDashboard.Crypto.Roots

namespace UserDashboard.Crypto.Sha256

/-- A word turned right by a number of bits below 32. -/
def rotate (word bits : UInt32) : UInt32 :=
  (word >>> bits) ||| (word <<< (32 - bits))

/-- The eight words that a digest is made of. -/
structure State where
  (a b c d e f g h : UInt32)

/-- The word added in each of the 64 rounds. -/
def roundWords : List UInt32 :=
  (primes.take 64).map fun prime => UInt32.ofNat (rootFraction 3 32 prime)

/-- The words that hashing begins with. -/
def initial : State :=
  match (primes.take 8).map fun prime => UInt32.ofNat (rootFraction 2 32 prime) with
  | [a, b, c, d, e, f, g, h] => ⟨a, b, c, d, e, f, g, h⟩
  | _ => ⟨0, 0, 0, 0, 0, 0, 0, 0⟩

/-- The schedule of a block grown by `count` words. It is held with the newest word first. -/
def extend : Nat → List UInt32 → List UInt32
  | 0, schedule => schedule
  | count + 1, schedule =>
    let back (distance : Nat) : UInt32 := schedule.getD (distance - 1) 0
    let low := rotate (back 15) 7 ^^^ rotate (back 15) 18 ^^^ (back 15 >>> 3)
    let high := rotate (back 2) 17 ^^^ rotate (back 2) 19 ^^^ (back 2 >>> 10)
    extend count ((back 16 + low + back 7 + high) :: schedule)

/-- The 64 words of a block's schedule. -/
def schedule (block : List UInt8) : List UInt32 :=
  (extend 48 ((pieces 4 16 block).map fun octets => UInt32.ofNat (bigEndian octets)).reverse).reverse

/-- One round. -/
def round (state : State) (roundWord scheduled : UInt32) : State :=
  let high := rotate state.e 6 ^^^ rotate state.e 11 ^^^ rotate state.e 25
  let choice := (state.e &&& state.f) ^^^ (~~~state.e &&& state.g)
  let first := state.h + high + choice + roundWord + scheduled
  let low := rotate state.a 2 ^^^ rotate state.a 13 ^^^ rotate state.a 22
  let majority := (state.a &&& state.b) ^^^ (state.a &&& state.c) ^^^ (state.b &&& state.c)
  ⟨first + (low + majority), state.a, state.b, state.c, state.d + first, state.e, state.f, state.g⟩

/-- The state after one more block. -/
def compress (state : State) (block : List UInt8) : State :=
  let after := (roundWords.zip (schedule block)).foldl
    (fun state (roundWord, scheduled) => round state roundWord scheduled) state
  ⟨state.a + after.a, state.b + after.b, state.c + after.c, state.d + after.d,
    state.e + after.e, state.f + after.f, state.g + after.g, state.h + after.h⟩

/-- The octets of the eight words. -/
def State.octets (state : State) : List UInt8 :=
  [state.a, state.b, state.c, state.d, state.e, state.f, state.g, state.h].flatMap
    fun word => toBigEndian 4 word.toNat

/-- The digest of a message, 32 octets. -/
def digest (message : List UInt8) : List UInt8 :=
  ((blocks 64 8 message).foldl compress initial).octets

end UserDashboard.Crypto.Sha256
