/-
# Messages of the gateway

What clients and the service say to each other over a socket. A client's message is a JSON object
with a type, or a list that begins with the type and goes on with the parts of the message. Fields
that the type does not know are ignored, so nothing that a client writes there, such as the number
of another user, has any effect.
-/

import WatchParty.Json.Reader
import WatchParty.Room.Refusal
import WatchParty.Wire

namespace WatchParty

/-- What a client says. -/
inductive ClientMessage where
  | join
  | leave
  /-- Control the video, with an action that has not been looked at yet. -/
  | control (action : String) (position : Option Binary64)
  | chat (content : String)
deriving DecidableEq, Repr

namespace ClientMessage

/-- A text that is required. -/
def text? : Json → Option String
  | .string text => some text
  | _ => none

/-- A position, or none where null stands for it. -/
def position? : Json → Option (Option Binary64)
  | .integer value => some (some (.ofInt value))
  | .decimal value => some (some value)
  | .null => some none
  | _ => none

/-- The value of a field that is required and must not be repeated. -/
def requiredField? (name : String) (fields : List (String × Json)) : Option Json :=
  (Json.fieldAtMostOnce? name fields).bind id

/-- The message of an object with the given type. -/
def ofFields? (type : String) (fields : List (String × Json)) : Option ClientMessage :=
  match type with
  | "join" => some .join
  | "leave" => some .leave
  | "control" => do
    let action ← text? (← requiredField? "action" fields)
    let position ← position? ((← Json.fieldAtMostOnce? "position" fields).getD .null)
    return .control action position
  | "chat" => do
    return .chat (← text? (← requiredField? "content" fields))
  | _ => none

/-- The message of a list with the given type in front. -/
def ofItems? (type : String) (items : List Json) : Option ClientMessage :=
  match type, items with
  | "join", [] => some .join
  | "leave", [] => some .leave
  | "control", [action, position] => do
    return .control (← text? action) (← position? position)
  | "chat", [content] => do
    return .chat (← text? content)
  | _, _ => none

/-- The message of a JSON value. -/
def ofJson? : Json → Option ClientMessage
  | .object fields => do
    let type ← text? (← requiredField? "type" fields)
    ofFields? type fields
  | .array (type :: items) => do
    ofItems? (← text? type) items
  | _ => none

/-- The message of a text. -/
def read? (text : String) : Option ClientMessage := (Json.read? text).bind ofJson?

end ClientMessage

/-- Why a client's message came to nothing. -/
inductive Rejection where
  /-- The text is not a message. -/
  | notMessage
  /-- What the message asks for was refused. -/
  | refused (error : RoomError)
deriving DecidableEq, Repr

namespace Rejection

/-- The reason code that the client is given. -/
def reason : Rejection → String
  | .notMessage => "INVALID_COMMAND"
  | .refused error => error.reason

/-- The wording of a rejection, if it is worded here. -/
def message? : Rejection → Option String
  | .notMessage => none
  | .refused error => some error.message

end Rejection

/-- What the service says. -/
inductive ServerMessage where
  /-- Something happened in the room. -/
  | event (news : RoomEvent)
  /-- The whole room, for a client that has joined. -/
  | snapshot (room : Snapshot)
  /-- The client's last message came to nothing. -/
  | rejected (rejection : Rejection)
  /-- Some events were missed. -/
  | resync (missed : Nat)
deriving DecidableEq, Repr

/-- A message of the service as it is sent. -/
def ServerMessage.toJson : ServerMessage → Json
  | .event news => news.toJson
  | .snapshot room => .object [("type", .string "snapshot"), ("room", room.toJson)]
  | .rejected rejection =>
    .object
      [("type", .string "rejected"),
        ("reason", .string rejection.reason),
        ("message", .ofOption .string rejection.message?)]
  | .resync missed => .object [("type", .string "resync"), ("missed", .ofNat missed)]

end WatchParty
