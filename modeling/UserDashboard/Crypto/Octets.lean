/-
This file cuts messages into the blocks and words that hashing works on.

Numbers stand in messages with their most significant octet first. A message is padded by one bit,
zeros, and its length in bits, so that it fills whole blocks and no two messages pad to the same
blocks.
-/
namespace UserDashboard.Crypto

/-- The number that octets spell, the most significant first. -/
def bigEndian (octets : List UInt8) : Nat :=
  octets.foldl (fun value octet => value * 256 + octet.toNat) 0

/-- A number in `count` octets, the most significant first. -/
def toBigEndian : Nat → Nat → List UInt8
  | 0, _ => []
  | count + 1, value => UInt8.ofNat (value / Nat.pow 256 count) :: toBigEndian count value

/-- A list cut into pieces of `size`, the last of which may be shorter. The bound is on the number
of pieces. -/
def pieces {α : Type} (size : Nat) : Nat → List α → List (List α)
  | 0, _ => []
  | _, [] => []
  | bound + 1, items => items.take size :: pieces size bound (items.drop size)

/-- The octets that pad a message of `length` octets to whole blocks, the last `lengthSize` of
which hold its length in bits. -/
def padding (blockSize lengthSize length : Nat) : List UInt8 :=
  let filled := (length + 1 + lengthSize) % blockSize
  0x80 :: List.replicate (if filled = 0 then 0 else blockSize - filled) 0 ++
    toBigEndian lengthSize (8 * length)

/-- The padded blocks of a message. -/
def blocks (blockSize lengthSize : Nat) (message : List UInt8) : List (List UInt8) :=
  let padded := message ++ padding blockSize lengthSize message.length
  pieces blockSize (padded.length / blockSize) padded

end UserDashboard.Crypto
