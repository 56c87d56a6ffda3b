/-
# Identifiers

Users, contents, rooms, sessions and messages are numbered from one shared counter of 32 bits. The
counter wraps around, so numbers are fresh only as long as fewer than `2 ^ 31 - 1` were handed out.
-/

namespace WatchParty

/-- A user is known by a number. -/
abbrev UserId := Int

/-- A piece of content is known by a number. -/
abbrev ContentId := Int

/-- A room is known by a number. -/
abbrev RoomId := Int

/-- The identifiers that a counter hands out one after another, from the given one on. -/
def issued (first : Int) : Nat → List Int
  | 0 => []
  | count + 1 => first :: issued (first + 1) count

/-- An identifier as it is written in messages. -/
def identifierText (id : Int) : String := toString id

/-- An identifier as it is written for those who look for mistakes. -/
def identifierLabel (id : Int) : String := "#" ++ identifierText id

/-- The number that the shared counter hands out after another. -/
def nextIdentifier (last : Int) : Int := (last + 1).bmod (Nat.pow 2 32)

end WatchParty
