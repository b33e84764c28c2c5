/-
This file writes JSON text.

The text is compact: no blanks, members in the order they are held in. In a string only the quote,
the backslash and the control characters are escaped, the five that have a letter by that letter
and the others by four hexadecimal digits in lower case.
-/

import UserDashboard.Json.Basic
import UserDashboard.Number.Shortest

namespace UserDashboard.Json

open Number

/-- A hexadecimal digit in lower case. -/
def hexDigit (value : Nat) : Char :=
  if value < 10 then Char.ofNat ('0'.toNat + value) else Char.ofNat ('a'.toNat + (value - 10))

/-- A character as it stands in a string. -/
def escaped (c : Char) : List Char :=
  if c = '"' then ['\\', '"']
  else if c = '\\' then ['\\', '\\']
  else if c = '\x08' then ['\\', 'b']
  else if c = '\x0c' then ['\\', 'f']
  else if c = '\n' then ['\\', 'n']
  else if c = '\r' then ['\\', 'r']
  else if c = '\t' then ['\\', 't']
  else if c.toNat < 0x20 then
    ['\\', 'u', '0', '0', hexDigit (c.toNat / 16), hexDigit (c.toNat % 16)]
  else [c]

/-- A string between its quotes. -/
def quoted (text : String) : List Char :=
  '"' :: (text.toList.flatMap escaped ++ ['"'])

/-- The digits of an integer, with a minus sign before a negative one. -/
def integerText (value : Int) : List Char :=
  if value < 0 then '-' :: Nat.toDigits 10 value.natAbs else Nat.toDigits 10 value.natAbs

mutual

/-- The text of a value. An unreadable part has none of its own and is written as null. -/
def print : Json → List Char
  | .null => ['n', 'u', 'l', 'l']
  | .bool true => ['t', 'r', 'u', 'e']
  | .bool false => ['f', 'a', 'l', 's', 'e']
  | .integer value => integerText value
  | .real value => value.jsonText
  | .string text => quoted text
  | .array items => '[' :: (printItems items ++ [']'])
  | .object members => '{' :: (printMembers members ++ ['}'])
  | .unreadable _ => ['n', 'u', 'l', 'l']

/-- Items with commas between them. -/
def printItems : List Json → List Char
  | [] => []
  | [item] => print item
  | item :: items => print item ++ ',' :: printItems items

/-- Members with commas between them. -/
def printMembers : List (String × Json) → List Char
  | [] => []
  | [(name, value)] => quoted name ++ ':' :: print value
  | (name, value) :: members => quoted name ++ ':' :: print value ++ ',' :: printMembers members

end

/-- The compact text of a value. -/
def render (json : Json) : String :=
  String.ofList json.print

end UserDashboard.Json
