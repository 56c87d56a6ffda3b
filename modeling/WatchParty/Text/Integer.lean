/-
# Integers in text

Integers in addresses, queries, cursors and settings are written as ASCII digits after an optional
sign, leading zeros allowed, and are refused outside the range of their type. The reader sees the
whole text or nothing: what is not a digit makes it fail.
-/

namespace WatchParty.Text

/-- Whether a character is an ASCII digit. -/
def isDigit (c : Char) : Bool := '0' ≤ c && c ≤ '9'

/-- The value of a digit. -/
def digitValue (c : Char) : Nat := c.toNat - '0'.toNat

/-- The number whose decimal digits are given, most significant first. -/
def ofDigits (digits : List Char) : Nat :=
  digits.foldl (fun value digit => 10 * value + digitValue digit) 0

/-- The value of one or more ASCII digits. -/
def readDigits? (chars : List Char) : Option Nat :=
  if chars.isEmpty then none
  else if chars.all isDigit then some (ofDigits chars) else none

/-- A natural number up to a limit, after an optional plus sign. -/
def readNat? (limit : Nat) (chars : List Char) : Option Nat :=
  let digits := match chars with
    | '+' :: rest => rest
    | _ => chars
  (readDigits? digits).filter (· ≤ limit)

/-- An integer after an optional sign, from the given number of values, half of them negative. -/
def readInt? (values : Nat) (chars : List Char) : Option Int :=
  let number? := match chars with
    | '+' :: rest => (readDigits? rest).map Int.ofNat
    | '-' :: rest => (readDigits? rest).map fun value => -Int.ofNat value
    | _ => (readDigits? chars).map Int.ofNat
  number?.filter fun number => -(values / 2 : Nat) ≤ number && number < (values / 2 : Nat)

/-- An integer of 32 bits, such as an identifier. -/
def readInt32? (chars : List Char) : Option Int := readInt? (Nat.pow 2 32) chars

/-- An integer of 64 bits. -/
def readInt64? (chars : List Char) : Option Int := readInt? (Nat.pow 2 64) chars

end WatchParty.Text
