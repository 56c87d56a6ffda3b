/-
# Rooms

A room is a shared playback timeline with the users present in it. What operations work on is the
room's state; what readers see is its view, which is replaced whenever a change has been committed.
Both are kept, because nothing in their types makes them agree: that they do is a property of the
operations.

This module holds the data of rooms and the pure readings of it. The operations are in
`WatchParty.Room.Operation`.
-/

import WatchParty.IdMap
import WatchParty.Store.Row

namespace WatchParty

/-- A user in a room, as others see it. -/
structure Member where
  user : User
  joinedAt : Instant
  /-- Whether the member owns the room. -/
  isOwner : Bool
deriving DecidableEq, Repr

/-- All there is to know about a room at one instant. -/
structure Snapshot where
  id : RoomId
  title : String
  content : Content
  owner : UserId
  createdAt : Instant
  /-- The members, in order of seniority. -/
  members : List Member
  playback : PlaybackReport
deriving DecidableEq, Repr

/-- How many members a snapshot shows. -/
def Snapshot.headCount (snapshot : Snapshot) : Nat := snapshot.members.length

/-- What everyone who subscribes to a room hears of. -/
inductive RoomEvent where
  /-- Somebody joined or left. -/
  | presence (room : RoomId) (members : List Member) (owner : Option UserId) (roomDeleted : Bool)
      (instant : Instant)
  /-- A playback command was accepted. -/
  | playback (room : RoomId) (issuedBy : UserId) (report : PlaybackReport)
  /-- A chat message was posted. -/
  | chat (room : RoomId) (message : Message)
deriving DecidableEq, Repr

/-- The room that an event is about. -/
def RoomEvent.room : RoomEvent → RoomId
  | .presence room _ _ _ _ => room
  | .playback room _ _ => room
  | .chat room _ => room

/-- What the operations of a room work on. -/
structure RoomState where
  /-- The stored row of the room. -/
  data : RoomRecord
  content : Content
  clock : Clock
  presence : Presence
  /-- The accounts of those present. -/
  users : IdMap User
  /-- Set when the last participant leaves. A deleted room accepts nothing. -/
  deleted : Bool
deriving DecidableEq, Repr

/-- What readers see of a room: what was committed last. -/
structure RoomView where
  data : RoomRecord
  content : Content
  clock : Clock
  members : List Member
  deleted : Bool
deriving DecidableEq, Repr

/-- The room at an instant, which counts as no earlier than the clock's reference. -/
def RoomView.snapshot (view : RoomView) (now : Instant) : Snapshot :=
  { id := view.data.id
    title := view.data.title
    content := view.content
    owner := view.data.owner
    createdAt := view.data.createdAt
    members := view.members
    playback := view.clock.report view.clock.lastAction (view.clock.noEarlier now) }

namespace RoomState

/-- The participants with their accounts, in order of seniority. -/
def members (state : RoomState) : List Member :=
  state.presence.roster.filterMap fun participant =>
    (state.users.get? participant.user).map fun user =>
      { user
        joinedAt := participant.joinedAt
        isOwner := state.presence.owner == some participant.user }

/-- What readers are to see of the state. -/
def view (state : RoomState) : RoomView :=
  { data := state.data, content := state.content, clock := state.clock, members := state.members
    deleted := state.deleted }

/-- The room at an instant. -/
def snapshot (state : RoomState) (now : Instant) : Snapshot := state.view.snapshot now

/-- The announcement of who is in the room. -/
def presenceEvent (state : RoomState) (now : Instant) : RoomEvent :=
  .presence state.data.id state.members state.presence.owner state.deleted now

end RoomState

/-- A room that is running. -/
structure Room where
  /-- Tells rooms apart that were made under the same number. -/
  serial : Nat
  state : RoomState
  view : RoomView
deriving DecidableEq, Repr

namespace Room

/-- The number of a room. -/
def id (room : Room) : RoomId := room.state.data.id

/-- The room with a state that has been committed. -/
def commit (room : Room) (state : RoomState) : Room := { room with state, view := state.view }

/-- The room of a stored row, with the accounts of its participants. A stored owner who is not
there is replaced by the most senior participant. -/
def ofRecord (serial : Nat) (data : RoomRecord) (content : Content)
    (members : List (Participant × User)) : Room :=
  let presence := Presence.restore (members.map (·.1)) data.owner
  let state : RoomState :=
    { data := { data with owner := presence.owner.getD data.owner }
      content
      clock := data.playback.toClock content.duration
      presence
      users := IdMap.ofList (members.map fun member => (member.2.id, member.2))
      deleted := false }
  { serial, state, view := state.view }

/-- How many members readers see. -/
def headCount (room : Room) : Nat := room.view.members.length

/-- Whether readers see the room as deleted. -/
def isDeleted (room : Room) : Bool := room.view.deleted

/-- The stored row as readers see it. -/
def data (room : Room) : RoomRecord := room.view.data

end Room

end WatchParty
