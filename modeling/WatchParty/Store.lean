/-
# The store

A store holds the rows of users, sessions, contents, rooms, participants and messages. Every call
answers or fails, and leaves a store either way. Participants and messages are written only for
rooms that exist, and deleting a room deletes what belongs to it. While the store is set to fail
every write fails; looking things up goes on working, and so does seeding users, sessions and
contents.

No call checks that the user or the content named in a row exists, except that a session and a
message carry the user they were made for.
-/

import WatchParty.IdMap
import WatchParty.Store.Row

namespace WatchParty

/-- The rows of all tables, and the counter that numbers them. -/
structure Store where
  users : IdMap User
  /-- The sessions, oldest first, one to a token. -/
  sessions : List Session
  contents : IdMap Content
  rooms : IdMap RoomRecord
  /-- Who is in each room. -/
  participants : IdMap Roster
  /-- The messages of all rooms in the order in which they were posted. -/
  messages : List Message
  /-- The last number handed out. -/
  lastId : Int
  /-- Whether writes fail. -/
  failing : Bool
deriving DecidableEq, Repr

/-- A call on the store: an answer or a failure, and the store after it. -/
abbrev StoreCall (α : Type) := Store → Except StoreError α × Store

namespace Store

/-- A store without rows. -/
def empty : Store :=
  { users := ∅, sessions := [], contents := ∅, rooms := ∅, participants := ∅, messages := []
    lastId := 0, failing := false }

instance : Inhabited Store := ⟨empty⟩

/-- The next number that the store hands out. -/
def nextId (store : Store) : Int := nextIdentifier store.lastId

/-- The participants of a room, in order of seniority. -/
def roster (store : Store) (room : RoomId) : Roster := (store.participants.get? room).getD []

/-- The messages of a room, oldest first. -/
def history (store : Store) (room : RoomId) : List Message :=
  store.messages.filter (·.room = room)

/-- Replace the participants of a room. A room without participants has no entry. -/
def setRoster (store : Store) (room : RoomId) (roster : Roster) : Store :=
  { store with
    participants :=
      if roster.isEmpty then store.participants.erase room
      else store.participants.insert room roster }

/-- Add a user. -/
def addUser (username displayName : String) (store : Store) : User × Store :=
  let user : User := { id := store.nextId, username, displayName }
  (user, { store with users := store.users.insert user.id user, lastId := store.nextId })

/-- Add a piece of content. -/
def addContent (title : String) (duration : Option Binary64) (store : Store) : Content × Store :=
  let content : Content := { id := store.nextId, title, duration }
  (content,
    { store with contents := store.contents.insert content.id content, lastId := store.nextId })

/-- Add a session of an existing user, under a token that no session has. -/
def addSession (user : UserId) (token : String) (expiresAt : Instant) : StoreCall Session :=
  fun store =>
    match store.users.get? user with
    | none => (.error (.notFound .user), store)
    | some account =>
      if store.sessions.any (·.token = token) then (.error (.conflict .session token), store)
      else
        let session : Session := { id := store.nextId, token, expiresAt, user := account }
        (.ok session,
          { store with sessions := store.sessions ++ [session], lastId := store.nextId })

/-- Make every following write fail, or succeed again. -/
def setFailing (failing : Bool) (store : Store) : Store := { store with failing }

/-- An answer if there is one, and otherwise the failure that says what is missing. -/
def require {α : Type} (resource : Resource) (found : Option α) : StoreCall α := fun store =>
  match found with
  | some value => (.ok value, store)
  | none => (.error (.notFound resource), store)

/-- The user of a number. -/
def userById (id : UserId) : StoreCall User := fun store =>
  require .user (store.users.get? id) store

/-- The session of a token. -/
def sessionByToken (token : String) : StoreCall Session := fun store =>
  require .session (store.sessions.find? (·.token = token)) store

/-- The content of a number. -/
def contentById (id : ContentId) : StoreCall Content := fun store =>
  require .content (store.contents.get? id) store

/-- The room of a number. -/
def roomById (id : RoomId) : StoreCall RoomRecord := fun store =>
  require .room (store.rooms.get? id) store

/-- All rooms, by number. -/
def listRooms : StoreCall (List RoomRecord) := fun store => (.ok store.rooms.values, store)

/-- The participants of a room, in order of seniority. -/
def participantsByRoom (room : RoomId) : StoreCall Roster := fun store =>
  (.ok (store.roster room), store)

/-- The messages of a room, oldest first. -/
def messagesByRoom (room : RoomId) : StoreCall (List Message) := fun store =>
  (.ok (store.history room), store)

/-- A write: it fails while the store is set to fail. -/
def write {α : Type} (call : StoreCall α) : StoreCall α := fun store =>
  if store.failing then (.error .setToFail, store) else call store

/-- A write on behalf of a room, which has to exist. -/
def writeRoom {α : Type} (room : RoomId) (call : StoreCall α) : StoreCall α :=
  write fun store =>
    if store.rooms.contains room then call store else (.error (.notFound .room), store)

/-- Store a new room, with its owner as the first participant. -/
def createRoom (new : NewRoom) : StoreCall RoomRecord := write fun store =>
  let room : RoomRecord :=
    { id := store.nextId, content := new.content, title := new.title, owner := new.owner
      createdAt := new.createdAt, playback := new.playback }
  let owner : Participant := { user := new.owner, joinedAt := new.createdAt }
  (.ok room,
    { store.setRoster room.id ((store.roster room.id).enrol owner) with
      rooms := store.rooms.insert room.id room
      lastId := store.nextId })

/-- Replace the row of a room. -/
def saveRoom (room : RoomRecord) : StoreCall Unit := writeRoom room.id fun store =>
  (.ok (), { store with rooms := store.rooms.insert room.id room })

/-- Delete a room with its participants and messages. -/
def deleteRoom (room : RoomId) : StoreCall Unit := writeRoom room fun store =>
  (.ok (),
    { store.setRoster room [] with
      rooms := store.rooms.erase room
      messages := store.messages.filter (·.room ≠ room) })

/-- Store a participant of a room, in place of an earlier row of the same user. -/
def saveParticipant (room : RoomId) (participant : Participant) : StoreCall Unit :=
  writeRoom room fun store =>
    (.ok (), store.setRoster room ((store.roster room).enrol participant))

/-- Delete a participant of a room, if there is such a row. -/
def deleteParticipant (room : RoomId) (user : UserId) : StoreCall Unit := write fun store =>
  (.ok (), store.setRoster room ((store.roster room).dismiss user))

/-- Store a message of an existing user in an existing room. -/
def createMessage (room : RoomId) (sender : UserId) (content : String) (createdAt : Instant) :
    StoreCall Message :=
  writeRoom room fun store =>
    match store.users.get? sender with
    | none => (.error (.notFound .user), store)
    | some account =>
      let message : Message := { id := store.nextId, room, sender := account, content, createdAt }
      (.ok message,
        { store with messages := store.messages ++ [message], lastId := store.nextId })

end Store

end WatchParty
