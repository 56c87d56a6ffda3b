/-
# Numbers in JSON text

A number is a sign, digits, perhaps a fraction and perhaps an exponent. Without fraction and
exponent it is an integer, if it fits 64 bits. Everything else is read through a significand of 64
bits: digits are taken as long as they fit; integer digits that do not fit count as zeros, and
fraction digits that do not fit are dropped. A number too large for binary64 is refused.
-/

import WatchParty.Binary64.Decimal
import WatchParty.Json
import WatchParty.Text.Integer

namespace WatchParty.Json

/-- The parts of a number as they are written. -/
structure NumberText where
  negative : Bool
  /-- The digits before the point: one zero, or digits that do not begin with zero. -/
  whole : List Char
  /-- The digits after the point, if there is one. -/
  fraction : Option (List Char)
  /-- The exponent, with its sign, if there is one. -/
  exponent : Option (Bool × List Char)

/-- Digits of which there has to be at least one, and what follows them. -/
def takeDigits? (chars : List Char) : Option (List Char × List Char) :=
  match chars.takeWhile Text.isDigit with
  | [] => none
  | digits => some (digits, chars.dropWhile Text.isDigit)

/-- The digits before the point. A zero stands alone. -/
def takeWhole? (chars : List Char) : Option (List Char × List Char) :=
  match takeDigits? chars with
  | some ('0' :: _ :: _, _) => none
  | taken => taken

/-- The digits after the point, if there is a point. -/
def takeFraction? (chars : List Char) : Option (Option (List Char) × List Char) :=
  match chars with
  | '.' :: rest => (takeDigits? rest).map fun taken => (some taken.1, taken.2)
  | _ => some (none, chars)

/-- The exponent after its letter; without a sign it is positive. -/
def takeSignedDigits? (chars : List Char) : Option (Option (Bool × List Char) × List Char) :=
  let (negative, rest) := match chars with
    | '-' :: rest => (true, rest)
    | '+' :: rest => (false, rest)
    | _ => (false, chars)
  (takeDigits? rest).map fun taken => (some (negative, taken.1), taken.2)

/-- The exponent, if there is one. -/
def takeExponent? (chars : List Char) : Option (Option (Bool × List Char) × List Char) :=
  match chars with
  | 'e' :: rest => takeSignedDigits? rest
  | 'E' :: rest => takeSignedDigits? rest
  | _ => some (none, chars)

/-- The parts of the number that a text begins with, and what follows it. -/
def takeNumber? (chars : List Char) : Option (NumberText × List Char) := do
  let (negative, chars) := match chars with
    | '-' :: rest => (true, rest)
    | _ => (false, chars)
  let (whole, chars) ← takeWhole? chars
  let (fraction, chars) ← takeFraction? chars
  let (exponent, chars) ← takeExponent? chars
  return ({ negative, whole, fraction, exponent }, chars)

/-- The largest significand. -/
def maxSignificand : Nat := Nat.pow 2 64 - 1

/-- Digits taken into a significand as long as they fit, and how many did not. -/
def fillSignificand (significand : Nat) : List Char → Nat × Nat
  | [] => (significand, 0)
  | digit :: rest =>
    let longer := significand * 10 + Text.digitValue digit
    if longer ≤ maxSignificand then fillSignificand longer rest
    else (significand, (digit :: rest).length)

/-- The largest exponent that is told apart from larger ones. -/
def maxExponent : Nat := Nat.pow 2 31 - 1

namespace NumberText

/-- The significand and the exponent of ten of the written digits. -/
def scaled (number : NumberText) : Nat × Int :=
  let (significand, zeros) := fillSignificand 0 number.whole
  let fraction := number.fraction.getD []
  let (longer, dropped) := fillSignificand significand fraction
  (longer, (zeros : Int) - (fraction.length - dropped : Nat))

/-- The number without its sign, as a binary64 number, if it is not too large. -/
def magnitude? (number : NumberText) : Option Binary64 :=
  let (significand, exponent) := number.scaled
  match number.exponent with
  | none => Binary64.ofSignificand? significand exponent
  | some (negative, digits) =>
    let written := Text.ofDigits digits
    if maxExponent < written then
      if significand ≠ 0 && !negative then none else some .zero
    else
      Binary64.ofSignificand? significand
        (if negative then exponent - written else exponent + written)

/-- Whether the number is written without fraction and exponent and fits 64 bits: between zero and
`2 ^ 64 - 1` without a sign, and between minus one and `-2 ^ 63` with one. -/
def integer? (number : NumberText) : Option Int :=
  if number.fraction.isNone && number.exponent.isNone then
    let value := Text.ofDigits number.whole
    if number.negative then
      if 0 < value && value ≤ Nat.pow 2 63 then some (-value) else none
    else if value ≤ maxSignificand then some value
    else none
  else none

/-- The value of a written number, if it is not too large. -/
def value? (number : NumberText) : Option Json :=
  match number.integer? with
  | some value => some (.integer value)
  | none =>
    number.magnitude?.map fun magnitude =>
      .decimal (if number.negative then -magnitude else magnitude)

end NumberText

end WatchParty.Json
