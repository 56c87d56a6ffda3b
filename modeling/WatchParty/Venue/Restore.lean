/-
# Starting over

After a restart the lobby is empty and the rooms are made again from their rows. Rows that do not
fit together are repaired on the way: a participant whose account is gone is dropped, a room in
which nobody is left is deleted, and a room whose owner is not there goes to the most senior
participant. The first failure ends the restoring; the rooms restored before it stay.
-/

import WatchParty.Venue.Rooms

namespace WatchParty.Venue

open Operation

/-- The stored participants of a room whose accounts exist; the rows of others are deleted. -/
def restoreMembers (room : RoomId) : Roster → Operation (List (Participant × User))
  | [] => return []
  | participant :: rest => do
    match ← attempt .userById participant.user (Store.userById participant.user) with
    | .ok user => return (participant, user) :: (← restoreMembers room rest)
    | .error (.notFound .user) =>
      note .warn
        s!"Dropping participant {participant.user} of room {room}, the user no longer exists"
      ask .deleteParticipant room (Store.deleteParticipant room participant.user)
      restoreMembers room rest
    | .error error => throw (.ofStoreError error)

/-- Make the room of a row again, or delete the row if nobody is in the room. -/
def restoreRoom (data : RoomRecord) : Operation Unit := do
  let content ← ask .contentById data.content (Store.contentById data.content)
  let participants ← ask .participantsByRoom data.id (Store.participantsByRoom data.id)
  let members ← restoreMembers data.id participants
  if members.isEmpty then
    note .info s!"Deleting empty room {data.title}"
    ask .deleteRoom data.id (Store.deleteRoom data.id)
  else
    let room ← makeRoom data content members
    if room.data.owner ≠ data.owner then
      ask .saveRoom data.id (Store.saveRoom room.data)
    changeLobby (·.register room)

/-- Make the rooms of all rows again, and count the rooms that are registered then. -/
def restore : Operation Nat := do
  let rooms ← ask .listRooms 0 Store.listRooms
  rooms.forM restoreRoom
  let count := (← get).lobby.rooms.size
  note .info s!"Restored {count} room(s)"
  return count

/-- Replace the lobby by an empty one. Connections are numbered on; all else of the old lobby,
its connections and subscriptions included, is gone without anybody leaving. -/
def reopen (rules : Rules) : Operation Unit :=
  changeLobby fun lobby => .opening rules lobby.nextConnection

end WatchParty.Venue
