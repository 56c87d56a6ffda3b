/-
# The rules of a running system

What an operator can choose: who may control playback, how many events wait for a slow subscriber,
and how long a chat message may be.
-/

import WatchParty.Presence

namespace WatchParty

/-- The choices of an operator. -/
structure Rules where
  /-- Whether only the owner of a room may play, pause or seek. -/
  ownerOnlyControl : Bool := false
  /-- How many events are held for a subscriber that falls behind. -/
  broadcastCapacity : Nat := 64
  /-- The greatest length of a chat message, in characters. -/
  maxMessageLength : Nat := 1000
deriving DecidableEq, Repr

/-- Whether a user may control playback in a room with the given owner. -/
def Rules.mayControl (rules : Rules) (owner : Option UserId) (user : UserId) : Bool :=
  !rules.ownerOnlyControl || owner == some user

end WatchParty
