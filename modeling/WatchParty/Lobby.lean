/-
# The lobby

The lobby is what a running system keeps in memory: the rooms that are open, the topics of their
events, and the live connections. Rooms are found by number. A room that has been deleted, or
replaced under its number, leaves the register; whoever still holds it finds it among the departed
rooms, by its serial number. Nothing else looks at departed rooms.
-/

import WatchParty.Room
import WatchParty.Rules
import WatchParty.Topics

namespace WatchParty

/-- A connection is known by a number that no other connection of the program has. -/
abbrev ConnectionId := Int

/-- A live connection of a user to a room. A user can have several. -/
structure Connection where
  room : RoomId
  user : UserId
  connectedAt : Instant
deriving DecidableEq, Repr

/-- What a running system keeps in memory. -/
structure Lobby where
  rules : Rules
  /-- The register of rooms. -/
  rooms : IdMap Room
  /-- Rooms that have left the register, as they were last. -/
  departed : List Room
  /-- The serial number of the next room. -/
  nextSerial : Nat
  topics : Topics RoomEvent
  connections : IdMap Connection
  /-- The number of the next connection. It has no bound here, where a counter of 64 bits would
  start over after `2 ^ 64` connections. -/
  nextConnection : ConnectionId
deriving DecidableEq, Repr

namespace Lobby

/-- A lobby without rooms. Connections are numbered on from those of earlier lobbies. -/
def opening (rules : Rules) (nextConnection : ConnectionId) : Lobby :=
  { rules, rooms := ∅, departed := [], nextSerial := 0
    topics := .ofCapacity rules.broadcastCapacity, connections := ∅, nextConnection }

/-- The room of a number that readers do not see as deleted. -/
def liveRoom? (lobby : Lobby) (room : RoomId) : Option Room :=
  (lobby.rooms.get? room).filter (!·.isDeleted)

/-- The room of a serial number, in the register or departed. -/
def bySerial? (lobby : Lobby) (serial : Nat) : Option Room :=
  (lobby.rooms.values ++ lobby.departed).find? (·.serial = serial)

/-- Whether a room is in the register. -/
def isRegistered (lobby : Lobby) (room : Room) : Bool :=
  (lobby.rooms.get? room.id).any (·.serial = room.serial)

/-- Keep a changed room wherever the room of its serial number is. -/
def put (lobby : Lobby) (room : Room) : Lobby :=
  if lobby.isRegistered room then { lobby with rooms := lobby.rooms.insert room.id room }
  else
    { lobby with
      departed := lobby.departed.map fun other =>
        if other.serial = room.serial then room else other }

/-- Let the room of a number depart from the register. -/
def depart (lobby : Lobby) (room : RoomId) : Lobby :=
  { lobby with
    rooms := lobby.rooms.erase room
    departed := lobby.departed ++ (lobby.rooms.get? room).toList }

/-- Register a room under its number and open its topic. -/
def register (lobby : Lobby) (room : Room) : Lobby :=
  let lobby := lobby.depart room.id
  { lobby with
    rooms := lobby.rooms.insert room.id room
    topics := lobby.topics.openTopic room.id }

/-- Take the room of a number off the register and close its topic. -/
def remove (lobby : Lobby) (room : RoomId) : Lobby :=
  let lobby := lobby.depart room
  { lobby with topics := lobby.topics.closeTopic room }

/-- Whether a user has a connection to a room. -/
def isConnected (lobby : Lobby) (room : RoomId) (user : UserId) : Bool :=
  lobby.connections.values.any fun connection =>
    connection.room == room && connection.user == user

end Lobby

end WatchParty
