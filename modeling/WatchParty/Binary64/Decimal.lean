/-
# Decimal text of binary64 numbers

Two rules of writing and reading numbers in decimal. Text with a fixed number of places rounds the
exact value, a tie going to the even digit. A number written as digits and a power of ten is
scaled by a rounded power of ten, which is one rounding more than the nearest number needs; the
module states that scaling and does not claim the result to be nearest.
-/

import WatchParty.Binary64

namespace WatchParty.Binary64

/-- A quotient rounded to the nearest integer, a tie going to the even one. -/
def roundHalfEven (numerator denominator : Nat) : Nat :=
  let quotient := numerator / denominator
  let twice := 2 * (numerator % denominator)
  if twice < denominator then quotient
  else if denominator < twice then quotient + 1
  else if quotient % 2 = 0 then quotient else quotient + 1

/-- A quotient rounded to the nearest integer, a tie going away from zero. -/
def roundHalfUp (numerator denominator : Nat) : Nat :=
  (2 * numerator + denominator) / (2 * denominator)

/-- Decimal digits padded with zeros on the left to a width. -/
def padZeros (width : Nat) (digits : List Char) : List Char :=
  List.replicate (width - digits.length) '0' ++ digits

/-- The text of a number with a fixed, positive number of decimal places. -/
def toFixed (places : Nat) (value : Binary64) : String :=
  match value.exactUnits? with
  | none =>
    if value.isNan then "NaN" else if value.sign < 0 then "-inf" else "inf"
  | some exact =>
    let scaled := roundHalfEven (exact.natAbs * Nat.pow 10 places) one
    let digits := padZeros (places + 1) (Nat.toDigits 10 scaled)
    let whole := digits.take (digits.length - places)
    let fraction := digits.drop (digits.length - places)
    (if exact < 0 then "-" else "") ++ String.ofList whole ++ "." ++ String.ofList fraction

/-- The nearest integer to a finite number, a half going away from zero. -/
def toNearestInt? (value : Binary64) : Option Int :=
  value.exactUnits?.map fun exact => exact.sign * roundHalfUp exact.natAbs one

/-- The power of ten as a binary64 number. -/
def powerOfTen (exponent : Nat) : Binary64 := ofDecimal 1 exponent

/-- The largest power of ten that is finite. -/
def maxPowerOfTen : Nat := 308

/-- Scale a number down by powers of ten, the largest one as often as it fits. A number that has
become zero stays so. -/
def scaleDown (value : Binary64) (exponent : Nat) : Binary64 :=
  if exponent ≤ maxPowerOfTen then value / powerOfTen exponent
  else if value = zero then value
  else scaleDown (value / powerOfTen maxPowerOfTen) (exponent - maxPowerOfTen)
termination_by exponent
decreasing_by
  unfold maxPowerOfTen at *
  omega

/-- A non-negative number written as digits and a power of ten: the digits are rounded first, then
multiplied or divided by rounded powers of ten. Nothing is returned where the number overflows. -/
def ofSignificand? (digits : Nat) (exponent : Int) : Option Binary64 :=
  let rounded := ofInt digits
  if exponent < 0 then some (scaleDown rounded (-exponent).toNat)
  else if exponent ≤ maxPowerOfTen then
    let scaled := rounded * powerOfTen exponent.toNat
    if scaled.isFinite then some scaled else none
  else if rounded = zero then some rounded
  else none

end WatchParty.Binary64
