/-
# Connections

A connection belongs to a user and a room. Commands given over it are the user's. When the last
connection of a user to a room goes away the user leaves the room, however the user got in; if the
leaving is refused, the connection is gone all the same. A connection that goes away while nothing
can run any more leaves its user in the room.
-/

import WatchParty.Venue.Rooms

namespace WatchParty

/-- What the holder of a connection has in hand. -/
structure ConnectionHandle where
  id : ConnectionId
  room : RoomId
  user : User
deriving DecidableEq, Repr

/-- A command given over a connection. -/
inductive RoomCommand where
  | join
  | leave
  | control (command : Command)
  | chat (content : String)
deriving DecidableEq, Repr

/-- What the issuer of a command is told, besides what everyone hears. -/
inductive CommandReply where
  /-- The whole room, after joining. -/
  | snapshot (room : Snapshot)
  | applied (event : RoomEvent)
  | posted (message : Message)
  | left
deriving DecidableEq, Repr

namespace ConnectionHandle

open Operation

/-- Run a command for the connected user. -/
def handle (handle : ConnectionHandle) (command : RoomCommand) : Operation CommandReply := do
  match command with
  | .join => return .snapshot (← Venue.join handle.room handle.user.id)
  | .leave =>
    Venue.leave handle.room handle.user.id
    return .left
  | .control command => return .applied (← Venue.control handle.room handle.user.id command)
  | .chat content => return .posted (← Venue.chat handle.room handle.user.id content)

/-- Take a connection off the register, and tell whether it was there and the user's last one. -/
def unregister (handle : ConnectionHandle) : Operation Bool := do
  if !(← get).lobby.connections.contains handle.id then
    return false
  changeLobby fun lobby => { lobby with connections := lobby.connections.erase handle.id }
  note .info s!"{handle.user.displayName} disconnected from room {handle.room}"
  return !(← get).lobby.isConnected handle.room handle.user.id

/-- Let a disconnected user leave. A room that is gone already is no trouble. -/
def leaveAfterwards (handle : ConnectionHandle) : Operation Unit := do
  match ← outcome (Venue.leave handle.room handle.user.id) with
  | .ok () | .error .roomNotFound => return ()
  | .error error =>
    let name := handle.user.displayName
    note .warn s!"{name} could not leave room {handle.room} after disconnecting: {error.message}"

/-- Close a connection. The user leaves if it was the last one. -/
def close (handle : ConnectionHandle) : Operation Unit := do
  if ← handle.unregister then
    handle.leaveAfterwards

/-- Lose a connection while nothing can run any more. The user stays. -/
def abandon (handle : ConnectionHandle) : Operation Unit := do
  if ← handle.unregister then
    let name := handle.user.displayName
    note .warn s!"{name} disconnected from room {handle.room} outside of a runtime, and stays in it"

end ConnectionHandle

namespace Venue

open Operation

/-- Open a connection of a user to a room, with a subscription to the room's events. -/
def connect (room : RoomId) (user : User) : Operation (ConnectionHandle × SubscriptionId) := do
  let subscription ← subscribe room
  let id ← modifyGet fun venue =>
    let lobby := venue.lobby
    let connection : Connection := { room, user := user.id, connectedAt := venue.now }
    (lobby.nextConnection,
      { venue with
        lobby :=
          { lobby with
            connections := lobby.connections.insert lobby.nextConnection connection
            nextConnection := lobby.nextConnection + 1 } })
  note .info s!"{user.displayName} connected to room {room}"
  return ({ id, room, user }, subscription)

end Venue

end WatchParty
