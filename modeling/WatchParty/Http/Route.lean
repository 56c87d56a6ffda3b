/-
# Routes

What the paths of the service name. Paths are compared segment by segment and letter by letter, so
that a slash too many names nothing. Only the number of a room may be written with percent signs;
reading it is left to those who need the number, because other checks come before it. So a number
that cannot be read still names a part of a room, and even an empty one does, but nothing is named
by a path that ends where the number should begin.
-/

import WatchParty.Identifier
import WatchParty.Text.Form
import WatchParty.Text.Integer

namespace WatchParty.Http

/-- What a path names. The number of a room stays as it is written. -/
inductive Route where
  /-- The user who asks. -/
  | user
  /-- All rooms. -/
  | rooms
  /-- One room. -/
  | room (number : List Char)
  /-- The chat history of a room. -/
  | messages (number : List Char)
  /-- The socket of a room. -/
  | gateway (number : List Char)
  /-- The document of the interface. -/
  | document
deriving DecidableEq, Repr

namespace Route

/-- What stands below the rooms: a number, and perhaps a part of the room. -/
def ofRoomPath? : List (List Char) → Option Route
  | [[]] => none
  | [number] => some (.room number)
  | [number, part] =>
    if part = "messages".toList then some (.messages number)
    else if part = "gateway".toList then some (.gateway number)
    else none
  | _ => none

/-- What stands below the version of the interface. -/
def ofVersionPath? : List (List Char) → Option Route
  | [] => none
  | segment :: rest =>
    if segment = "rooms".toList then
      if rest.isEmpty then some .rooms else ofRoomPath? rest
    else if segment = "user".toList ∧ rest.isEmpty then some .user
    else none

/-- What a path names, if it names anything. -/
def ofPath? (path : List Char) : Option Route :=
  match Text.split '/' path with
  | [[], segment] => if segment = "api.json".toList then some .document else none
  | [] :: version :: rest => if version = "v1".toList then ofVersionPath? rest else none
  | _ => none

end Route

/-- The room of a number as it is written in a path. -/
def roomNumber? (number : List Char) : Option RoomId :=
  Text.readInt32? (Text.decodePathPart number)

end WatchParty.Http
