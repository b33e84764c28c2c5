/-
This file derives the constants of the SHA-2 family.

The family's constants are no table but a rule: the first bits after the point of the square and
cube roots of the first prime numbers. A root with `bits` bits after the point is the whole root
of the number moved up by that many bits for each factor, and the bits after the point are what
remains of it modulo a power of two.
-/
namespace UserDashboard.Crypto

/-- The largest number of at most `bits` bits, added to `root`, whose power does not exceed the
bound. -/
def extendRoot (degree bound : Nat) : Nat → Nat → Nat
  | 0, root => root
  | bits + 1, root =>
    let candidate := root + Nat.pow 2 bits
    extendRoot degree bound bits (if Nat.pow candidate degree ≤ bound then candidate else root)

/-- Whether a number has no divisor between two and itself. -/
def isPrime (number : Nat) : Bool :=
  2 ≤ number && (List.range number).all fun divisor => divisor < 2 || number % divisor ≠ 0

/-- The first prime numbers, eighty of them. -/
def primes : List Nat :=
  (List.range 410).filter isPrime

/-- The first bits after the point of a prime number's root. -/
def rootFraction (degree bits prime : Nat) : Nat :=
  extendRoot degree (prime * Nat.pow 2 (degree * bits)) (bits + 5) 0 %
    Nat.pow 2 bits

end UserDashboard.Crypto
