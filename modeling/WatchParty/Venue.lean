/-
# The venue and its operations

The venue is all that operations read and change: the time, the database, the lobby and the
journal. An operation answers or refuses, and leaves a venue either way; what a refused operation
changed before it was refused stays changed.
-/

import WatchParty.Journal
import WatchParty.Lobby
import WatchParty.Room.Refusal
import WatchParty.Store.Fault

namespace WatchParty

/-- All that operations read and change. -/
structure Venue where
  /-- What the server's clock shows. -/
  now : Instant
  database : Database
  lobby : Lobby
  journal : Journal
deriving DecidableEq, Repr

/-- An operation: it answers or refuses, and leaves a venue either way. -/
abbrev Operation := EStateM RoomError Venue

namespace Operation

/-- Write an entry into the journal. -/
def note (level : Level) (text : String) (origin : Origin := .collab) : Operation Unit :=
  modify fun venue => { venue with journal := venue.journal ++ [{ level, origin, text }] }

/-- Make a call on the database and look at how it went. -/
def attempt {α : Type} (method : StoreMethod) (id : Int) (body : StoreCall α) :
    Operation (Except StoreError α) :=
  modifyGet fun venue =>
    let (answer, database) := venue.database.call method id body
    (answer, { venue with database })

/-- Make a call on the database that has to succeed. -/
def ask {α : Type} (method : StoreMethod) (id : Int) (body : StoreCall α) : Operation α := do
  match ← attempt method id body with
  | .ok answer => return answer
  | .error error => throw (.ofStoreError error)

/-- Change the lobby. -/
def changeLobby (change : Lobby → Lobby) : Operation Unit :=
  modify fun venue => { venue with lobby := change venue.lobby }

/-- Publish an event to the topic of its room. -/
def publish (event : RoomEvent) : Operation Unit :=
  changeLobby fun lobby => { lobby with topics := (lobby.topics.publish event.room event).2 }

/-- Run an operation and look at how it went. -/
def outcome {α : Type} (operation : Operation α) : Operation (Except RoomError α) := fun venue =>
  match operation venue with
  | .ok answer venue => .ok (.ok answer) venue
  | .error error venue => .ok (.error error) venue

/-- The account of a user. -/
def userById (user : UserId) : Operation User :=
  ask .userById user (Store.userById user)

end Operation

namespace Venue

/-- A venue over a database, with nobody in it and nothing written down. -/
def opening (rules : Rules) (now : Instant) (database : Database) : Venue :=
  { now, database, lobby := .opening rules 0, journal := [] }

/-- Run an operation at a venue. -/
def run {α : Type} (operation : Operation α) (venue : Venue) : Except RoomError α × Venue :=
  match operation venue with
  | .ok answer venue => (.ok answer, venue)
  | .error error venue => (.error error, venue)

/-- The venue after an operation of which only the effect counts. -/
def after (operation : Operation Unit) (venue : Venue) : Venue := (venue.run operation).2

/-- Run an operation in another lobby over the same database, as those who hold on to a room of a
lobby that has been replaced do. -/
def elsewhere {α : Type} (lobby : Lobby) (operation : Operation α) (venue : Venue) :
    Except RoomError α × Lobby × Venue :=
  let (answer, there) := { venue with lobby }.run operation
  (answer, there.lobby, { there with lobby := venue.lobby })

end Venue

end WatchParty
