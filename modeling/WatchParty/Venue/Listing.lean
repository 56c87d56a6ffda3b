/-
# Listing rooms

Rooms are listed in one of two orders, newest first or busiest first, and can be searched by a
part of their title or of their content's title. A cursor is a position in a listing: it is taken
from a room, but stays meaningful when that room is gone. A page holds the rooms that come strictly
after a cursor, up to a limit.
-/

import WatchParty.Text.Lowercase
import WatchParty.Venue

namespace WatchParty

/-- The orders in which rooms are listed. -/
inductive RoomSort where
  /-- Newest rooms first. -/
  | createdAt
  /-- Busiest rooms first. -/
  | headCount
deriving DecidableEq, Repr

/-- A position in a listing of rooms. -/
structure Cursor where
  headCount : Nat
  createdAt : Instant
  id : RoomId
deriving DecidableEq, Repr

namespace Cursor

/-- The position of a room. -/
def ofSnapshot (room : Snapshot) : Cursor :=
  { headCount := room.headCount, createdAt := room.createdAt, id := room.id }

/-- The number of members that counts in an order. -/
def rank (sort : RoomSort) (cursor : Cursor) : Nat :=
  match sort with
  | .createdAt => 0
  | .headCount => cursor.headCount

/-- Whether a position comes strictly before another: by members if the order asks for it, then the
newer room, then the higher number. -/
def Before (sort : RoomSort) (first second : Cursor) : Prop :=
  second.rank sort < first.rank sort ∨
    (first.rank sort = second.rank sort ∧
      (second.createdAt < first.createdAt ∨
        (first.createdAt = second.createdAt ∧ second.id < first.id)))

instance (sort : RoomSort) (first second : Cursor) : Decidable (first.Before sort second) :=
  inferInstanceAs (Decidable (_ ∨ _))

end Cursor

/-- What rooms are asked for. -/
structure RoomQuery where
  /-- A text that the title of the room or of its content has to contain, whatever its case. -/
  search : Option String := none
  sort : RoomSort := .createdAt
  /-- The greatest number of rooms on a page. -/
  limit : Option Nat := none
  /-- Only rooms after this position. -/
  cursor : Option Cursor := none
deriving DecidableEq, Repr

namespace RoomQuery

/-- The text that is searched for, without blanks around it and in lower case, if there is one. -/
def needle? (query : RoomQuery) : Option (List Char) :=
  (query.search.map fun text => Text.lowercaseChars (Text.trimChars text.toList)).filter
    (!·.isEmpty)

/-- Whether a title contains a text that is in lower case already. -/
def titleContains (needle : List Char) (title : String) : Bool :=
  Text.occursIn needle (Text.lowercaseChars title.toList)

/-- Whether a room is one of those searched for. -/
def accepts (query : RoomQuery) (room : Snapshot) : Bool :=
  match query.needle? with
  | none => true
  | some needle => titleContains needle room.title || titleContains needle room.content.title

end RoomQuery

/-- A page of a listing. -/
structure RoomPage where
  rooms : List Snapshot
  /-- Where the next page starts, if there is one. -/
  nextCursor : Option Cursor
  hasNext : Bool
  /-- How many rooms match the query on all pages. -/
  total : Nat
deriving DecidableEq, Repr

namespace Listing

/-- Place a room after all that come before it. -/
def place (sort : RoomSort) (room : Snapshot) : List Snapshot → List Snapshot
  | [] => [room]
  | head :: rest =>
    if (Cursor.ofSnapshot head).Before sort (.ofSnapshot room) then head :: place sort room rest
    else room :: head :: rest

/-- Rooms in the order of a listing. -/
def arrange (sort : RoomSort) (rooms : List Snapshot) : List Snapshot :=
  rooms.foldr (place sort) []

/-- The rooms of a lobby that readers see, as they are at an instant. -/
def liveSnapshots (lobby : Lobby) (now : Instant) : List Snapshot :=
  (lobby.rooms.values.filter (!·.isDeleted)).map (·.view.snapshot now)

/-- Every room that matches a query, in order. The limit and the cursor do not count. -/
def all (lobby : Lobby) (now : Instant) (query : RoomQuery) : List Snapshot :=
  arrange query.sort ((liveSnapshots lobby now).filter query.accepts)

/-- Cut a page out of a complete listing. -/
def cut (query : RoomQuery) (matching : List Snapshot) : RoomPage :=
  let rest := match query.cursor with
    | none => matching
    | some cursor => matching.filter fun room => cursor.Before query.sort (.ofSnapshot room)
  let hasNext := query.limit.any (· < rest.length)
  let rooms := match query.limit with
    | none => rest
    | some limit => rest.take limit
  { rooms
    nextCursor := if hasNext then rooms.getLast?.map .ofSnapshot else none
    hasNext
    total := matching.length }

/-- The page that a query asks for. -/
def page (lobby : Lobby) (now : Instant) (query : RoomQuery) : RoomPage :=
  cut query (all lobby now query)

end Listing

end WatchParty
