/-
# Rooms of the venue

What callers ask of rooms by their number: creating one, joining and leaving, controlling playback,
chatting and reading. A deleted room is not found, and the room that its last participant has left
is taken off the register together with its topic.
-/

import WatchParty.Room.Operation

namespace WatchParty.Venue

open Operation

/-- The room of a number. -/
def findRoom (room : RoomId) : Operation Room := do
  match (← get).lobby.liveRoom? room with
  | some room => return room
  | none => throw .roomNotFound

/-- Make the running room of a stored row, without registering it. -/
def makeRoom (data : RoomRecord) (content : Content) (members : List (Participant × User)) :
    Operation Room :=
  modifyGet fun venue =>
    let serial := venue.lobby.nextSerial
    (Room.ofRecord serial data content members,
      { venue with lobby := { venue.lobby with nextSerial := serial + 1 } })

/-- Make and register the running room of a stored row. -/
def openRoom (data : RoomRecord) (content : Content) (members : List (Participant × User)) :
    Operation Room := do
  let room ← makeRoom data content members
  changeLobby (·.register room)
  return room

/-- The title of a new room: the wanted one without blanks around it, or else the content's. -/
def roomTitle (wanted : Option String) (content : Content) : String :=
  ((wanted.map Text.trim).filter (!·.isEmpty)).getD content.title

/-- Create a room. The user who does so is its first participant and its owner. -/
def createRoom (user : UserId) (content : ContentId) (title : Option String) :
    Operation Snapshot := do
  let user ← userById user
  let content ← ask .contentById content (Store.contentById content)
  let now := (← get).now
  let new : NewRoom :=
    { content := content.id
      title := roomTitle title content
      owner := user.id
      createdAt := now
      playback := ((Clock.start now).withDuration content.duration).save }
  match ← attempt .createRoom content.id (Store.createRoom new) with
  | .error error =>
    note .warn s!"Could not create room: {error.message}"
    throw (.ofStoreError error)
  | .ok data =>
    note .info s!"{user.displayName} created room {data.title}"
    let room ← openRoom data content [({ user := user.id, joinedAt := now }, user)]
    room.snapshot

/-- The current state of a room. -/
def snapshot (room : RoomId) : Operation Snapshot := do
  (← findRoom room).snapshot

/-- How many members a room has. -/
def headCount (room : RoomId) : Operation Nat := do
  return (← findRoom room).headCount

/-- Let a user into a room, and describe the room. -/
def join (room : RoomId) (user : UserId) : Operation Snapshot := do
  let room ← findRoom room
  let user ← userById user
  room.join user

/-- Let a user out of a room. The user need not exist, nor be there. -/
def leave (room : RoomId) (user : UserId) : Operation Unit := do
  let found ← findRoom room
  if (← found.leave user) = .deleted then
    changeLobby (·.remove room)

/-- Control the playback of a room. -/
def control (room : RoomId) (user : UserId) (command : Command) : Operation RoomEvent := do
  let found ← findRoom room
  let _ ← userById user
  found.control user command

/-- Post a chat message in a room. -/
def chat (room : RoomId) (user : UserId) (content : String) : Operation Message := do
  (← findRoom room).chat user content

/-- The chat history of a room. -/
def messages (room : RoomId) (user : UserId) : Operation (List Message) := do
  (← findRoom room).messages user

/-- Subscribe to the events of a room. -/
def subscribe (room : RoomId) : Operation SubscriptionId := do
  let _ ← findRoom room
  let subscription ← modifyGet fun venue =>
    let (subscription, topics) := venue.lobby.topics.subscribe room
    (subscription, { venue with lobby := { venue.lobby with topics } })
  match subscription with
  | some subscription => return subscription
  | none => throw .roomNotFound

/-- Give a subscription up. -/
def unsubscribe (subscription : SubscriptionId) : Operation Unit :=
  changeLobby fun lobby => { lobby with topics := lobby.topics.unsubscribe subscription }

/-- Take what waits in a subscription, at most the given number of deliveries. -/
def receive (subscription : SubscriptionId) (limit : Option Nat) :
    Operation (Option (Topics.Receipt RoomEvent)) :=
  modifyGet fun venue =>
    let (receipt, topics) := venue.lobby.topics.receive subscription limit
    (receipt, { venue with lobby := { venue.lobby with topics } })

end WatchParty.Venue
