/-
This file reads JSON text.

The grammar is the strict one: four blanks, no comments, no trailing commas, no leading zeros, a
digit on both sides of a point, no raw control characters in a string. A number that is no integer
is read in two steps, as its digits and as a power of ten: the digits that fit 64 bits are rounded
to a binary number, which is then scaled once by the rounded power. For up to fifteen digits and
powers up to ten to the twenty-second that is the nearest binary number; beyond, it may be a
neighbour of it.

The reader works on glyphs, so that a fault in the octets of a part that is skipped does no harm.
A string with such a fault, or with half of a surrogate pair, is read as `Json.unreadable`.
-/

import UserDashboard.Json.Basic
import UserDashboard.Number.Integer
import UserDashboard.Text.Utf8

namespace UserDashboard.Json

open Number Text

/-! ### Blanks and literals -/

/-- The four blanks of the grammar. -/
def isGap (c : Char) : Bool :=
  c == ' ' || c == '\n' || c == '\t' || c == '\r'

/-- What follows the blanks at the beginning. -/
def skipGaps : List Glyph → List Glyph
  | some c :: rest => if isGap c then skipGaps rest else some c :: rest
  | rest => rest

/-- What follows a literal, if it stands at the beginning. -/
def literal? : List Char → List Glyph → Option (List Glyph)
  | [], rest => some rest
  | expected :: more, some c :: rest => if c = expected then literal? more rest else none
  | _ :: _, _ => none

/-! ### Numbers -/

/-- The digits at the beginning, and what follows them. -/
def takeDigits : List Glyph → List Nat × List Glyph
  | some c :: rest =>
    match digit? c with
    | some digit => let (digits, after) := takeDigits rest; (digit :: digits, after)
    | none => ([], some c :: rest)
  | rest => ([], rest)

/-- The digits that fit 64 bits as one number, and how many were left over. -/
def leading (significand : Nat) : List Nat → Nat × Nat
  | [] => (significand, 0)
  | digit :: digits =>
    if nat64Max < significand * 10 + digit then (significand, digits.length + 1)
    else leading (significand * 10 + digit) digits

/-- A rounded power of ten, for powers up to 308. -/
def powerOfTen (power : Nat) : Binary64 :=
  (Binary64.ofDecimal? false 1 power).getD (Binary64.zero false)

/-- A binary number divided by ten to the `power`, in steps of at most 308. -/
def scaledDown (value : Binary64) (power : Nat) : Option Binary64 :=
  if power ≤ 308 then value.div? (powerOfTen power)
  else do
    let once ← value.div? (powerOfTen 308)
    if power - 308 ≤ 308 then once.div? (powerOfTen (power - 308))
    else some (Binary64.zero value.negative)

/-- The rounded significand scaled once by the rounded power of ten. -/
def scaled (negative : Bool) (significand : Nat) (exponent : Int) : Option Binary64 := do
  let value ← Binary64.nearest? negative significand 1
  if exponent < 0 then scaledDown value (-exponent).toNat
  else if exponent ≤ 308 then value.mul? (powerOfTen exponent.toNat)
  else if value.isZero then some value
  else none

/-- A number as it is written: a sign, the digits before the point, those after it, and the power
of ten. -/
structure Numeral where
  /-- Whether it begins with a minus sign. -/
  negative : Bool
  /-- The digits before the point. -/
  whole : List Nat
  /-- The digits after the point, if it has one. -/
  fraction : Option (List Nat)
  /-- The power of ten after the letter, if it has one. -/
  power : Option Int

/-- The value of a numeral that is no integer. -/
def Numeral.real? (numeral : Numeral) : Option Binary64 :=
  let (significand, dropped) := leading 0 numeral.whole
  let fraction := numeral.fraction.getD []
  let (significand, unused) := leading significand fraction
  let exponent : Int := dropped - (fraction.length - unused : Nat) + numeral.power.getD 0
  scaled numeral.negative significand exponent

/-- Whether a numeral is read to its end even if it is too large. A power of ten is given up with
the first of its digits that makes it too large for 32 bits. -/
def Numeral.isReadToEnd (numeral : Numeral) : Bool :=
  numeral.power.getD 0 / 10 ≤ int32Max

/-- The value of a numeral that is no integer, or that there is none. -/
def Numeral.realValue (numeral : Numeral) : Json :=
  match numeral.real? with
  | some value => .real value
  | none => .unreadable numeral.isReadToEnd

/-- The value of a numeral: an integer if it is written as one and fits 64 bits. A minus sign before
zero makes it no integer. -/
def Numeral.value (numeral : Numeral) : Json :=
  let magnitude := ofDigits numeral.whole
  match numeral.fraction, numeral.power, numeral.negative with
  | none, none, false =>
    if magnitude ≤ nat64Max then .integer magnitude else numeral.realValue
  | none, none, true =>
    if 0 < magnitude ∧ int64Min ≤ -magnitude then .integer (-magnitude) else numeral.realValue
  | _, _, _ => numeral.realValue

/-- The digits before the point: a zero alone, or digits that begin with another one. -/
def whole? (source : List Glyph) : Option (List Nat × List Glyph) :=
  match takeDigits source with
  | ([], _) => none
  | ([0], rest) => some ([0], rest)
  | (0 :: _ :: _, _) => none
  | (digits, rest) => some (digits, rest)

/-- The point and the digits after it. -/
def fraction? : List Glyph → Option (Option (List Nat) × List Glyph)
  | some '.' :: rest =>
    match takeDigits rest with
    | ([], _) => none
    | (digits, after) => some (some digits, after)
  | rest => some (none, rest)

/-- The digits of a power of ten, with the sign already read. -/
def powerDigits? (negative : Bool) (source : List Glyph) : Option (Option Int × List Glyph) :=
  match takeDigits source with
  | ([], _) => none
  | (digits, rest) =>
    let power : Int := ofDigits digits
    some (some (if negative then -power else power), rest)

/-- The letter and the power of ten after it. -/
def power? : List Glyph → Option (Option Int × List Glyph)
  | some 'e' :: some '-' :: rest => powerDigits? true rest
  | some 'E' :: some '-' :: rest => powerDigits? true rest
  | some 'e' :: some '+' :: rest => powerDigits? false rest
  | some 'E' :: some '+' :: rest => powerDigits? false rest
  | some 'e' :: rest => powerDigits? false rest
  | some 'E' :: rest => powerDigits? false rest
  | rest => some (none, rest)

/-- A number without its sign. -/
def unsigned? (negative : Bool) (source : List Glyph) : Option (Json × List Glyph) := do
  let (whole, rest) ← whole? source
  let (fraction, rest) ← fraction? rest
  let (power, rest) ← power? rest
  some (Numeral.value ⟨negative, whole, fraction, power⟩, rest)

/-- A number. -/
def number? : List Glyph → Option (Json × List Glyph)
  | some '-' :: rest => unsigned? true rest
  | rest => unsigned? false rest

/-! ### Strings -/

/-- The number that four hexadecimal digits spell. -/
def fourHex? (a b c d : Char) : Option Nat := do
  let a ← hexDigit? a
  let b ← hexDigit? b
  let c ← hexDigit? c
  let d ← hexDigit? d
  some (((a * 16 + b) * 16 + c) * 16 + d)

/-- The character of an escape of one letter. -/
def escape? : Char → Option Char
  | '"' => some '"'
  | '\\' => some '\\'
  | '/' => some '/'
  | 'b' => some '\x08'
  | 'f' => some '\x0c'
  | 'n' => some '\n'
  | 'r' => some '\r'
  | 't' => some '\t'
  | _ => none

/-- One unit of a string: a character, or half of a surrogate pair or an octet without a
character, neither of which is text. -/
inductive Unit where
  | character (c : Char)
  | high (code : Nat)
  | low (code : Nat)
  | fault

/-- The unit of a four-digit escape. -/
def Unit.ofCode (code : Nat) : Unit :=
  if 0xD800 ≤ code ∧ code < 0xDC00 then .high code
  else if 0xDC00 ≤ code ∧ code < 0xE000 then .low code
  else .character (Char.ofNat code)

/-- The units of a string up to its closing quote, and what follows it. -/
def units? : List Glyph → Option (List Unit × List Glyph)
  | [] => none
  | none :: rest => do
    let (units, after) ← units? rest
    some (.fault :: units, after)
  | some '"' :: rest => some ([], rest)
  | some '\\' :: some 'u' :: some a :: some b :: some c :: some d :: rest => do
    let code ← fourHex? a b c d
    let (units, after) ← units? rest
    some (.ofCode code :: units, after)
  | some '\\' :: some letter :: rest => do
    let c ← escape? letter
    let (units, after) ← units? rest
    some (.character c :: units, after)
  | some '\\' :: _ => none
  | some c :: rest =>
    if c.toNat < 0x20 then none
    else do
      let (units, after) ← units? rest
      some (.character c :: units, after)

/-- The text of a string's units, a surrogate pair being one character. -/
def text? : List Unit → Option (List Char)
  | [] => some []
  | .character c :: rest => (text? rest).map (c :: ·)
  | .high high :: .low low :: rest =>
    (text? rest).map (Char.ofNat (0x10000 + (high - 0xD800) * 0x400 + (low - 0xDC00)) :: ·)
  | _ => none

/-- Whether a string is read to its end even if it is no text. Octets that are no characters are
found out there, halves of surrogate pairs on the way, except for a first half that comes last: who
looks for the second one has read the closing quote. -/
def isReadToEnd : List Unit → Bool
  | [] => true
  | .character _ :: rest => isReadToEnd rest
  | .fault :: rest => isReadToEnd rest
  | .high _ :: .low _ :: rest => isReadToEnd rest
  | [.high _] => true
  | _ => false

/-- The value of a string's units. -/
def ofUnits (units : List Unit) : Json :=
  match text? units with
  | some text => .string (String.ofList text)
  | none => .unreadable (isReadToEnd units)

/-! ### Values -/

/-- What follows the blanks and then one given character. -/
def expect? (expected : Char) (source : List Glyph) : Option (List Glyph) :=
  match skipGaps source with
  | some c :: rest => if c = expected then some rest else none
  | _ => none

/-- An object with a name that is no text cannot be used. -/
def objectOf (members : List (Option (List Char) × Json)) : Json :=
  match members.mapM fun (name, value) => name.map fun name => (String.ofList name, value) with
  | some members => .object members
  | none => .unreadable false

mutual

/-- A value, and what follows it. The first argument bounds the recursion: two for each glyph are
always enough. -/
def value? : Nat → List Glyph → Option (Json × List Glyph)
  | 0, _ => none
  | bound + 1, source =>
    match skipGaps source with
    | some '"' :: rest => do
      let (units, after) ← units? rest
      some (ofUnits units, after)
    | some '[' :: rest =>
      match skipGaps rest with
      | some ']' :: after => some (.array [], after)
      | _ => do
        let (items, after) ← items? bound rest
        some (.array items, after)
    | some '{' :: rest =>
      match skipGaps rest with
      | some '}' :: after => some (.object [], after)
      | _ => do
        let (members, after) ← members? bound rest
        some (objectOf members, after)
    | some 'n' :: rest => (literal? ['u', 'l', 'l'] rest).map (.null, ·)
    | some 't' :: rest => (literal? ['r', 'u', 'e'] rest).map (.bool true, ·)
    | some 'f' :: rest => (literal? ['a', 'l', 's', 'e'] rest).map (.bool false, ·)
    | rest => number? rest

/-- One or more items with commas between them, up to the closing bracket. -/
def items? : Nat → List Glyph → Option (List Json × List Glyph)
  | 0, _ => none
  | bound + 1, source => do
    let (item, rest) ← value? bound source
    match skipGaps rest with
    | some ',' :: more => do
      let (items, after) ← items? bound more
      some (item :: items, after)
    | some ']' :: after => some ([item], after)
    | _ => none

/-- One or more members with commas between them, up to the closing brace. -/
def members? : Nat → List Glyph → Option (List (Option (List Char) × Json) × List Glyph)
  | 0, _ => none
  | bound + 1, source => do
    let rest ← expect? '"' source
    let (units, rest) ← units? rest
    let rest ← expect? ':' rest
    let (value, rest) ← value? bound rest
    match skipGaps rest with
    | some ',' :: more => do
      let (members, after) ← members? bound more
      some ((text? units, value) :: members, after)
    | some '}' :: after => some ([(text? units, value)], after)
    | _ => none

end

/-- A whole text that is one value. -/
def ofGlyphs? (source : List Glyph) : Option Json :=
  match value? (2 * source.length + 2) source with
  | some (value, rest) => if (skipGaps rest).isEmpty then some value else none
  | none => none

/-- A text that is one value. -/
def parse? (text : String) : Option Json :=
  ofGlyphs? (glyphs text)

/-- Octets that are one value. -/
def parseOctets? (octets : List UInt8) : Option Json :=
  ofGlyphs? (glyphsOfOctets octets)

end UserDashboard.Json
