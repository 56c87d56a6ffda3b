/-
# What can be done in a room

Joining, leaving, controlling the video, chatting and reading the history. Each operation checks
first, writes to the store next, and only then commits the new state and publishes one event. Where
a second write fails the first is undone, as far as the store allows, so that a refused operation
leaves the room as it was. The undoing may fail too; then the journal says so.
-/

import WatchParty.Text.Blank
import WatchParty.Venue

namespace WatchParty.Room

open Operation

/-- What leaving came to. -/
inductive Departure where
  /-- The user was not in the room. -/
  | notMember
  /-- The user left and others remain; a new owner is named if there is one. -/
  | left (newOwner : Option UserId)
  /-- The user was the last one, so the room is gone. -/
  | deleted
deriving DecidableEq, Repr

/-- Refuse everything in a deleted room. -/
def ensureExists (room : Room) : Operation Unit :=
  if room.state.deleted then throw .roomNotFound else return ()

/-- Refuse those who are not in the room. -/
def ensureMember (room : Room) (user : UserId) : Operation Unit :=
  if room.state.presence.contains user then return () else throw .userNotInRoom

/-- The server's time, no earlier than the last playback change. -/
def roomTime (room : Room) : Operation Instant :=
  return room.state.clock.noEarlier (← get).now

/-- The refusal that a failed write or reading leads to. A missing room means that the room is
gone; anything else is trouble of the store and goes into the journal. -/
def refusal (room : Room) (error : StoreError) : Operation RoomError := do
  if error = .notFound .room then
    return .roomNotFound
  note .warn s!"Could not persist room {room.id}: {error.message}"
  return .storeUnavailable error.message

/-- Make a call on the database on behalf of the room. -/
def persist {α : Type} (room : Room) (method : StoreMethod) (body : StoreCall α) :
    Operation α := do
  match ← attempt method room.id body with
  | .ok answer => return answer
  | .error error => throw (← room.refusal error)

/-- Keep a state as the committed one. -/
def keep (room : Room) (state : RoomState) : Operation Unit :=
  changeLobby (·.put (room.commit state))

/-- Take back the row of a participant who could not join after all. -/
def undoParticipant (room : Room) (user : UserId) : Operation Unit := do
  match ← attempt .deleteParticipant room.id (Store.deleteParticipant room.id user) with
  | .ok () => return ()
  | .error error =>
    note .warn s!"Could not undo join of {user} in room {room.id}: {error.message}"

/-- Put the former row of the room back after a change of owner that came to nothing. -/
def undoOwner (room : Room) : Operation Unit := do
  match ← attempt .saveRoom room.id (Store.saveRoom room.state.data) with
  | .ok () => return ()
  | .error error => note .warn s!"Could not restore owner of room {room.id}: {error.message}"

/-- Store the new owner of a room that somebody has entered while it was empty. -/
def persistFirstOwner (room : Room) (user : UserId) (data : RoomRecord) : Operation Unit := do
  match ← attempt .saveRoom room.id (Store.saveRoom data) with
  | .ok () => return ()
  | .error error =>
    room.undoParticipant user
    throw (← room.refusal error)

/-- Let a user in. Joining a room one is already in only describes it. -/
def join (room : Room) (user : User) : Operation Snapshot := do
  room.ensureExists
  let now ← room.roomTime
  let state := room.state
  let (outcome, presence) := state.presence.join user.id now
  if outcome.alreadyMember then
    return state.snapshot now
  room.persist .saveParticipant (Store.saveParticipant room.id { user := user.id, joinedAt := now })
  let data := if outcome.isNewOwner then { state.data with owner := user.id } else state.data
  if outcome.isNewOwner then
    room.persistFirstOwner user.id data
  note .info s!"{user.displayName} joined room {data.title}"
  let state := { state with presence, users := state.users.insert user.id user, data }
  room.keep state
  publish (state.presenceEvent now)
  return state.snapshot now

/-- Write to the store that a participant has left while others remain. -/
def persistDeparture (room : Room) (user : UserId) (newOwner : Option UserId) (data : RoomRecord) :
    Operation Unit := do
  if newOwner.isSome then
    room.persist .saveRoom (Store.saveRoom data)
  match ← attempt .deleteParticipant room.id (Store.deleteParticipant room.id user) with
  | .ok () => return ()
  | .error error =>
    if newOwner.isSome then
      room.undoOwner
    throw (← room.refusal error)

/-- Note in the journal who owns the room now. -/
def noteOwner (room : Room) (owner : UserId) : Operation Unit := do
  let name := ((room.state.users.get? owner).map (·.displayName)).getD "Unknown"
  note .info s!"{name} is now the owner of room {room.state.data.title}"

/-- Commit and publish that a user has left. -/
def finishDeparture (room : Room) (user : UserId) (now : Instant) (state : RoomState) :
    Operation Unit := do
  if let some account := state.users.get? user then
    note .info s!"{account.displayName} left room {state.data.title}"
  let state := { state with users := state.users.erase user }
  room.keep state
  publish (state.presenceEvent now)

/-- Let a user out. The room goes to the most senior participant if the owner leaves, and is
deleted if nobody remains. -/
def leave (room : Room) (user : UserId) : Operation Departure := do
  room.ensureExists
  let now ← room.roomTime
  let state := room.state
  let (outcome, presence) := state.presence.leave user
  match outcome with
  | .notMember => return .notMember
  | .emptied =>
    room.persist .deleteRoom (Store.deleteRoom room.id)
    note .info s!"Room {state.data.title} is empty and was deleted"
    room.finishDeparture user now { state with presence, deleted := true }
    return .deleted
  | .left _ newOwner =>
    let data := { state.data with owner := newOwner.getD state.data.owner }
    room.persistDeparture user newOwner data
    if let some owner := newOwner then
      room.noteOwner owner
    room.finishDeparture user now { state with presence, data }
    return .left newOwner

/-- Store and commit a clock, unless it is the one that the room has. -/
def moveClock (room : Room) (clock : Clock) : Operation RoomState := do
  if clock = room.state.clock then
    return room.state
  let data := { room.state.data with playback := clock.save }
  room.persist .saveRoom (Store.saveRoom data)
  let state := { room.state with data, clock }
  room.keep state
  return state

/-- Apply a playback command and tell everyone. A command that changes nothing is told as well. -/
def control (room : Room) (user : UserId) (command : Command) : Operation RoomEvent := do
  room.ensureExists
  room.ensureMember user
  if !(← get).lobby.rules.mayControl room.state.presence.owner user then
    throw .controlNotPermitted
  let now ← room.roomTime
  let state ← room.moveClock (room.state.clock.apply command now)
  let event := .playback room.id user (state.clock.report command.action now)
  let position := (state.clock.positionAt now).toFixed 3
  note .debug s!"Applied {command.action.name} in room {state.data.title} at {position}s"
  publish event
  return event

/-- The text of a chat message without blanks around it, if it may be posted. -/
def checkMessage (rules : Rules) (content : String) : Except RoomError String :=
  let content := Text.trim content
  if content.isEmpty then .error (.invalidMessage "Message is empty")
  else if rules.maxMessageLength < content.length then
    .error (.invalidMessage s!"Message is longer than {rules.maxMessageLength} characters")
  else .ok content

/-- Post a chat message. The message itself is looked at before the room is. -/
def chat (room : Room) (user : UserId) (content : String) : Operation Message := do
  let content ← match checkMessage (← get).lobby.rules content with
    | .ok content => pure content
    | .error error => throw error
  room.ensureExists
  room.ensureMember user
  let now ← room.roomTime
  let message ← room.persist .createMessage (Store.createMessage room.id user content now)
  publish (.chat room.id message)
  return message

/-- The chat history, oldest first. Only members may read it. -/
def messages (room : Room) (user : UserId) : Operation (List Message) := do
  if room.view.deleted then
    throw .roomNotFound
  if !room.view.members.any (·.user.id = user) then
    throw .userNotInRoom
  room.persist .messagesByRoom (Store.messagesByRoom room.id)

/-- What was committed last, as it is now. -/
def snapshot (room : Room) : Operation Snapshot := do
  if room.view.deleted then
    throw .roomNotFound
  return room.view.snapshot (← get).now

end WatchParty.Room
