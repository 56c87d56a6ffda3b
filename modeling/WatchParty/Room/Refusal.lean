/-
# Why a room refuses

The reasons for which something asked of a room is refused, their reason codes and their wording.
Failures of the store become reasons too: a missing user or content is named as such, any other
missing row means that the room is gone, and trouble of the store is passed on in its own words.
-/

import WatchParty.Playback.Command
import WatchParty.Store.Row

namespace WatchParty

/-- Why something asked of a room was refused. -/
inductive RoomError where
  | roomNotFound
  | userNotFound
  | contentNotFound
  | unauthorized
  | invalidCommand (error : CommandError)
  /-- The store failed, in its words. -/
  | storeUnavailable (text : String)
  | userNotInRoom
  | controlNotPermitted
  | invalidMessage (text : String)
deriving DecidableEq, Repr

namespace RoomError

/-- The reason code that clients are given. -/
def reason : RoomError → String
  | .roomNotFound => "ROOM_NOT_FOUND"
  | .userNotFound => "USER_NOT_FOUND"
  | .contentNotFound => "CONTENT_NOT_FOUND"
  | .unauthorized => "UNAUTHORIZED"
  | .invalidCommand _ => "INVALID_PLAYBACK_COMMAND"
  | .storeUnavailable _ => "PERSISTENCE_UNAVAILABLE"
  | .userNotInRoom => "USER_NOT_IN_ROOM"
  | .controlNotPermitted => "CONTROL_NOT_PERMITTED"
  | .invalidMessage _ => "INVALID_MESSAGE"

/-- The wording of a refusal. -/
def message : RoomError → String
  | .roomNotFound => "Room does not exist"
  | .userNotFound => "User does not exist"
  | .contentNotFound => "Content does not exist"
  | .unauthorized => "Unauthorized"
  | .invalidCommand error => "Invalid playback command: " ++ error.message
  | .storeUnavailable text => "Persistence is unavailable: " ++ text
  | .userNotInRoom => "User is not a member of this room"
  | .controlNotPermitted => "Only the owner of this room may control playback"
  | .invalidMessage text => "Invalid message: " ++ text

/-- The refusal that a failed look-up in the store leads to. -/
def ofStoreError : StoreError → RoomError
  | .notFound .user => .userNotFound
  | .notFound .content => .contentNotFound
  | .notFound .session => .unauthorized
  | .notFound _ => .roomNotFound
  | error => .storeUnavailable error.message

end RoomError

/-- Why a token identifies nobody. -/
inductive IdentityError where
  /-- There is no token, or only blanks. -/
  | missingToken
  /-- No session has the token. -/
  | invalidSession
  /-- The session of the token has expired. -/
  | sessionExpired
  /-- The session could not be looked up. -/
  | store (error : StoreError)
deriving DecidableEq, Repr

/-- The wording of an identity error. -/
def IdentityError.message : IdentityError → String
  | .missingToken => "Missing authorization"
  | .invalidSession => "Session does not exist"
  | .sessionExpired => "Session has expired"
  | .store error => error.message

/-- The refusal that an identity error leads to. All that is wrong with a token looks the same. -/
def RoomError.ofIdentityError : IdentityError → RoomError
  | .store error => .ofStoreError error
  | _ => .unauthorized

end WatchParty
