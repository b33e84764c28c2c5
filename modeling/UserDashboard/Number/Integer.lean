/-
This file reads whole numbers written in decimal digits.

There is one grammar, an optional sign and at least one ASCII digit, and the readers differ only
in the range they allow. Digits of other scripts are refused, leading zeros are not. The digits of
hexadecimal numbers are here as well, for the escapes and addresses that are written with them.
-/
namespace UserDashboard.Number

/-- The value of an ASCII decimal digit. -/
def digit? (c : Char) : Option Nat :=
  if '0' ≤ c && c ≤ '9' then some (c.toNat - '0'.toNat) else none

/-- The value of a run of digits, each one shifting those before it by ten. -/
def ofDigits (digits : List Nat) : Nat :=
  digits.foldl (fun value digit => value * 10 + digit) 0

/-- A non-empty run of ASCII digits. -/
def readNat? (characters : List Char) : Option Nat :=
  if characters.isEmpty then none else (characters.mapM digit?).map ofDigits

/-- An optional sign and a non-empty run of ASCII digits, between `low` and `high`. -/
def readInt? (low high : Int) (characters : List Char) : Option Int := do
  let value : Int ← match characters with
    | '+' :: digits => (readNat? digits).map Int.ofNat
    | '-' :: digits => (readNat? digits).map fun magnitude => -Int.ofNat magnitude
    | digits => (readNat? digits).map Int.ofNat
  if low ≤ value ∧ value ≤ high then some value else none

/-- The value of a hexadecimal digit of either case. -/
def hexDigit? (c : Char) : Option Nat :=
  if '0' ≤ c && c ≤ '9' then some (c.toNat - '0'.toNat)
  else if 'a' ≤ c && c ≤ 'f' then some (c.toNat - 'a'.toNat + 10)
  else if 'A' ≤ c && c ≤ 'F' then some (c.toNat - 'A'.toNat + 10)
  else none

/-- The value of a run of hexadecimal digits. -/
def ofHexDigits (digits : List Nat) : Nat :=
  digits.foldl (fun value digit => value * 16 + digit) 0

/-- The largest number of 32 bits with a sign. -/
def int32Max : Int := 2147483647

/-- The smallest number of 64 bits with a sign. -/
def int64Min : Int := -9223372036854775808

/-- The largest number of 64 bits with a sign. -/
def int64Max : Int := 9223372036854775807

/-- The largest number of 64 bits without a sign. -/
def nat64Max : Nat := 18446744073709551615

/-- The digits of a number, the most significant first. -/
def digits (value : Nat) : List Char :=
  Nat.toDigits 10 value

/-- A number in at least `width` digits, with zeros in front where it has fewer. -/
def padded (width value : Nat) : List Char :=
  List.replicate (width - (digits value).length) '0' ++ digits value

end UserDashboard.Number
