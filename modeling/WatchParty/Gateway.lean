/-
# The gateway

What is done with the texts that a client sends over its socket. Who the client is and which room
it talks to is settled by the connection; a text only says what to do. A text that is no message, or
whose command is refused, is answered with a rejection, and joining is answered with the room. All
else the client hears as one of those who listen to the room.
-/

import WatchParty.Gateway.Message
import WatchParty.Venue.Connections

namespace WatchParty

open Operation

/-- The command of a message. -/
def ClientMessage.toCommand : ClientMessage → Except RoomError RoomCommand
  | .join => .ok .join
  | .leave => .ok .leave
  | .control action position =>
    match Command.parse action position with
    | .ok command => .ok (.control command)
    | .error error => .error (.invalidCommand error)
  | .chat content => .ok (.chat content)

namespace ConnectionHandle

/-- Do what a message asks for. -/
def perform (handle : ConnectionHandle) (message : ClientMessage) : Operation CommandReply := do
  match message.toCommand with
  | .ok command => handle.handle command
  | .error error => throw error

/-- Deal with a text that the client has sent, and answer it if it needs an answer. -/
def handleText (handle : ConnectionHandle) (text : String) : Operation (Option ServerMessage) := do
  match ClientMessage.read? text with
  | none => return some (.rejected .notMessage)
  | some message =>
    match ← outcome (handle.perform message) with
    | .ok (.snapshot room) => return some (.snapshot room)
    | .ok _ => return none
    | .error error =>
      let name := handle.user.displayName
      note .debug s!"Rejected command from {name} in room {handle.room}: {error.message}" .server
      return some (.rejected (.refused error))

end ConnectionHandle

end WatchParty
