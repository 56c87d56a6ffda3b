/-
# What is stored

The rows that outlive a run of the system, and why a call on the store fails. Users, sessions and
contents belong to other systems and are only looked up; rooms, their participants and their
messages are written by the rooms themselves.
-/

import WatchParty.Playback.Clock
import WatchParty.Presence

namespace WatchParty

/-- A user account. -/
structure User where
  id : UserId
  username : String
  displayName : String
deriving DecidableEq, Repr

/-- A login session. -/
structure Session where
  id : Int
  /-- The secret by which the session is known. -/
  token : String
  /-- The first instant at which the session is no longer accepted. -/
  expiresAt : Instant
  /-- Who is logged in. -/
  user : User
deriving DecidableEq, Repr

/-- Something that can be watched. -/
structure Content where
  id : ContentId
  title : String
  /-- The length in seconds, if it is known. -/
  duration : Option Binary64
deriving DecidableEq, Repr

/-- A stored room. -/
structure RoomRecord where
  id : RoomId
  content : ContentId
  title : String
  owner : UserId
  createdAt : Instant
  playback : SavedClock
deriving DecidableEq, Repr

/-- A room that is to be stored; the store gives it its number. -/
structure NewRoom where
  content : ContentId
  title : String
  /-- The owner, who is also the first participant. -/
  owner : UserId
  createdAt : Instant
  playback : SavedClock
deriving DecidableEq, Repr

/-- A chat message. -/
structure Message where
  id : Int
  room : RoomId
  sender : User
  content : String
  createdAt : Instant
deriving DecidableEq, Repr

/-- The kinds of row that can be missing or in conflict. -/
inductive Resource where
  | user
  | session
  | content
  | room
  | message
deriving DecidableEq, Repr

/-- The name of a kind of row. -/
def Resource.name : Resource → String
  | .user => "user"
  | .session => "session"
  | .content => "content"
  | .room => "room"
  | .message => "message"

/-- What rows of a kind are known by. -/
def Resource.key : Resource → String
  | .session => "token"
  | _ => "id"

/-- Why a call on the store failed. -/
inductive StoreError where
  /-- The store itself is in trouble. -/
  | internal (text : String)
  /-- There is a row with this key already. -/
  | conflict (resource : Resource) (value : String)
  /-- There is no row with the key that was asked for. -/
  | notFound (resource : Resource)
deriving DecidableEq, Repr

namespace StoreError

/-- The wording of a store error. -/
def message : StoreError → String
  | .internal text => text
  | .conflict resource value =>
    resource.name ++ " with " ++ resource.key ++ " of value " ++ value ++ " already exists"
  | .notFound resource => resource.name ++ ":" ++ resource.key ++ " doesn't exist"

/-- The failure of every write while the store is set to fail. -/
def setToFail : StoreError := .internal "The in-memory database is set to fail"

end StoreError

end WatchParty
