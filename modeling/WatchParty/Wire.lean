/-
# What is sent

The JSON form of rooms, members, messages and events, as clients receive them. Instants are sent as
RFC 3339 text. A position or duration that is not finite is sent as null. Actions are read as well.
-/

import WatchParty.Json.Reader
import WatchParty.Room

namespace WatchParty

/-- An instant as it is sent. -/
def Instant.toJson (instant : Instant) : Json := .string (Instant.text instant)

/-- A user as others see it. -/
def User.toJson (user : User) : Json :=
  .object
    [("id", .integer user.id),
      ("username", .string user.username),
      ("displayName", .string user.displayName)]

/-- A piece of content. -/
def Content.toJson (content : Content) : Json :=
  .object
    [("id", .integer content.id),
      ("title", .string content.title),
      ("duration", .ofOption .ofBinary64 content.duration)]

/-- A member of a room. -/
def Member.toJson (member : Member) : Json :=
  .object
    [("user", member.user.toJson),
      ("joinedAt", Instant.toJson member.joinedAt),
      ("owner", .bool member.isOwner)]

namespace PlaybackAction

/-- The action of a JSON value: its name in capitals, or an object with null under that name. -/
def ofJson? : Json → Option PlaybackAction
  | .string name => ofName? name
  | .object [(name, .null)] => ofName? name
  | _ => none

/-- The action of a text that is one JSON value. -/
def read? (text : String) : Option PlaybackAction := (Json.read? text).bind ofJson?

end PlaybackAction

namespace PlaybackReport

/-- The fields of a playback report. -/
def fields (report : PlaybackReport) : List (String × Json) :=
  [("action", .string report.action.name),
    ("isPlaying", .bool report.isPlaying),
    ("currentPosition", .ofBinary64 report.position),
    ("serverTimestamp", Instant.toJson report.instant)]

/-- A playback report. -/
def toJson (report : PlaybackReport) : Json := .object report.fields

end PlaybackReport

namespace Snapshot

/-- The fields of a room. -/
def fields (room : Snapshot) : List (String × Json) :=
  [("id", .integer room.id),
    ("title", .string room.title),
    ("content", room.content.toJson),
    ("ownerId", .integer room.owner),
    ("createdAt", Instant.toJson room.createdAt),
    ("participants", .ofList Member.toJson room.members),
    ("playback", room.playback.toJson)]

/-- A room. -/
def toJson (room : Snapshot) : Json := .object room.fields

/-- A room as it appears in listings. -/
def listing (room : Snapshot) : Json :=
  .object
    [("room", room.toJson),
      ("contentTitle", .string room.content.title),
      ("headCount", .ofNat room.headCount)]

end Snapshot

/-- A chat message, with the name that its sender had when it was posted. -/
def Message.toJson (message : Message) : Json :=
  .object
    [("id", .integer message.id),
      ("roomId", .integer message.room),
      ("senderId", .integer message.sender.id),
      ("senderName", .string message.sender.displayName),
      ("content", .string message.content),
      ("createdAt", Instant.toJson message.createdAt)]

/-- An event of a room. -/
def RoomEvent.toJson : RoomEvent → Json
  | .presence room members owner roomDeleted instant =>
    .object
      [("type", .string "PRESENCE"),
        ("roomId", .integer room),
        ("participants", .ofList Member.toJson members),
        ("ownerId", .ofOption .integer owner),
        ("headCount", .ofNat members.length),
        ("roomDeleted", .bool roomDeleted),
        ("serverTimestamp", Instant.toJson instant)]
  | .playback room issuedBy report =>
    .object
      ([("type", .string "PLAYBACK"), ("roomId", .integer room), ("issuedBy", .integer issuedBy)] ++
        report.fields)
  | .chat room message =>
    .object
      [("type", .string "CHAT"), ("roomId", .integer room), ("message", message.toJson)]

end WatchParty
