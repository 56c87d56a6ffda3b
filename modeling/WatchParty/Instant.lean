/-
# Instants

The server's time is a whole number of microseconds since the Unix epoch, negative before it. This
module says how much time lies between two instants, how a clock that is set by hand moves, and
how an instant is written as text. Instants are integers, so their order is that of the integers.

Whole microseconds stand for times that the service may take from a finer clock. The unit counts
only where time is measured in seconds, read or written; none of the laws of playback clocks depends
on it.
-/

import WatchParty.Binary64.Decimal

namespace WatchParty

/-- Microseconds since the Unix epoch. -/
abbrev Instant := Int

namespace Instant

/-- The seconds from one instant to another, negative if the second is earlier. The difference is
cut off to whole milliseconds, towards zero, before it becomes a binary64 number. -/
def secondsBetween (start finish : Instant) : Binary64 :=
  .ofInt ((finish - start).tdiv 1000) / .ofInt 1000

/-- The largest number of milliseconds by which a clock can be moved at once. -/
def maxMilliseconds : Int := Int.pow 2 63 - 1

/-- The whole milliseconds in a number of seconds, a half rounding away from zero. Nothing that
is not a number moves a clock, and an infinite time is as long as a clock can count. -/
def millisecondsOf (seconds : Binary64) : Int :=
  let scaled := seconds * .ofInt 1000
  match scaled.toNearestInt? with
  | some whole => max (-maxMilliseconds - 1) (min whole maxMilliseconds)
  | none =>
    if scaled.isNan then 0
    else if scaled.sign < 0 then -maxMilliseconds - 1
    else maxMilliseconds

/-- The instant after a number of seconds, taken to the nearest millisecond. -/
def advance (now : Instant) (seconds : Binary64) : Instant := now + millisecondsOf seconds * 1000

/-- The latest whole millisecond that is not after an instant, counted from the epoch. -/
def milliseconds (instant : Instant) : Int := instant.fdiv 1000

/-- The instant of a whole millisecond. -/
def ofMilliseconds (count : Int) : Instant := count * 1000

/-- A day of the proleptic Gregorian calendar. -/
structure Day where
  /-- The year, zero and negative years included. -/
  year : Int
  /-- The month, from one. -/
  month : Nat
  /-- The day of the month, from one. -/
  day : Nat
deriving DecidableEq, Repr

/-- The calendar day of a number of days since the epoch. Years are counted from March, which puts
the leap day last, in eras of four hundred years. -/
def Day.ofEpochDay (epochDay : Int) : Day :=
  let shifted := epochDay + 719468
  let era := shifted.fdiv 146097
  let dayOfEra := (shifted - era * 146097).toNat
  let yearOfEra :=
    (dayOfEra - dayOfEra / 1460 + dayOfEra / 36524 - dayOfEra / 146096) / 365
  let dayOfYear := dayOfEra - (365 * yearOfEra + yearOfEra / 4 - yearOfEra / 100)
  let marchMonth := (5 * dayOfYear + 2) / 153
  let month := if marchMonth < 10 then marchMonth + 3 else marchMonth - 9
  { year := yearOfEra + era * 400 + (if month ≤ 2 then 1 else 0)
    month
    day := dayOfYear - (153 * marchMonth + 2) / 5 + 1 }

/-- Digits of a natural number, padded with zeros to a width. -/
def paddedDigits (width value : Nat) : String :=
  String.ofList (Binary64.padZeros width (Nat.toDigits 10 value))

/-- The text of a year: four digits, and a sign outside the years 0 to 9999. -/
def yearText (year : Int) : String :=
  if 0 ≤ year ∧ year ≤ 9999 then paddedDigits 4 year.toNat
  else (if year < 0 then "-" else "+") ++ paddedDigits 4 year.natAbs

/-- The RFC 3339 text of an instant in UTC. A fraction is written with three digits if the instant
is a whole number of milliseconds, with six if it is not, and not at all on a whole second. -/
def text (instant : Instant) : String :=
  let seconds := instant.fdiv 1000000
  let micros := (instant - seconds * 1000000).toNat
  let epochDay := seconds.fdiv 86400
  let secondOfDay := (seconds - epochDay * 86400).toNat
  let date := Day.ofEpochDay epochDay
  let fraction :=
    if micros = 0 then ""
    else if micros % 1000 = 0 then "." ++ paddedDigits 3 (micros / 1000)
    else "." ++ paddedDigits 6 micros
  yearText date.year ++ "-" ++ paddedDigits 2 date.month ++ "-" ++ paddedDigits 2 date.day ++ "T" ++
    paddedDigits 2 (secondOfDay / 3600) ++ ":" ++ paddedDigits 2 (secondOfDay / 60 % 60) ++ ":" ++
    paddedDigits 2 (secondOfDay % 60) ++ fraction ++ "Z"

end Instant

end WatchParty
