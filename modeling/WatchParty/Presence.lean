/-
# Who is in a room, and who owns it

Participants are kept in order of seniority: by the instant at which they joined, and by user
where two joined at once. The same order decides who becomes the owner when the owner leaves, so
the successor is the head of the roster. A roster has at most one participant of a user as long as
it is changed by the operations of this module only.
-/

import WatchParty.Identifier
import WatchParty.Instant

namespace WatchParty

/-- A user that is present in a room. -/
structure Participant where
  /-- The user. -/
  user : UserId
  /-- When the user joined. -/
  joinedAt : Instant
deriving DecidableEq, Repr

namespace Participant

/-- The order of seniority: who joined earlier, and of two that joined at once the lower user. -/
def Senior (first second : Participant) : Prop :=
  first.joinedAt < second.joinedAt ∨
    (first.joinedAt = second.joinedAt ∧ first.user < second.user)

instance (first second : Participant) : Decidable (first.Senior second) :=
  inferInstanceAs (Decidable (_ ∨ _))

end Participant

/-- Participants in order of seniority. -/
abbrev Roster := List Participant

namespace Roster

/-- The participant of a user. -/
def find? (roster : Roster) (user : UserId) : Option Participant :=
  List.find? (fun participant => participant.user = user) roster

/-- Whether a user is on the roster. -/
def has (roster : Roster) (user : UserId) : Bool := (roster.find? user).isSome

/-- The roster without a user. -/
def dismiss (roster : Roster) (user : UserId) : Roster :=
  List.filter (fun participant => participant.user ≠ user) roster

/-- Seat a participant after all that are senior to it. -/
def seat (newcomer : Participant) : Roster → Roster
  | [] => [newcomer]
  | participant :: rest =>
    if participant.Senior newcomer then participant :: seat newcomer rest
    else newcomer :: participant :: rest

/-- The roster with a participant, in place of an earlier one of the same user. -/
def enrol (roster : Roster) (newcomer : Participant) : Roster :=
  seat newcomer (roster.dismiss newcomer.user)

/-- The roster of a list of participants. Of several of one user the last counts. -/
def ofList (participants : List Participant) : Roster := participants.foldl enrol []

/-- The user on the roster who owns the room next: the most senior one. -/
def successor (roster : Roster) : Option UserId := roster.head?.map (·.user)

end Roster

/-- Who is in a room, and who owns it. -/
structure Presence where
  /-- The participants. -/
  roster : Roster
  /-- The owner of the room. -/
  owner : Option UserId
deriving DecidableEq, Repr

/-- What joining came to. -/
structure JoinOutcome where
  /-- Whether the user was there already, so that nothing changed. -/
  alreadyMember : Bool
  /-- Whether the user became the owner by joining an empty room. -/
  isNewOwner : Bool
  /-- The participants after joining. -/
  participants : Roster
deriving DecidableEq, Repr

/-- What leaving came to. -/
inductive LeaveOutcome where
  /-- The user was not there, so nothing changed. -/
  | notMember
  /-- The user left and others remain. A new owner is named if the owner was the one who left. -/
  | left (remaining : Roster) (newOwner : Option UserId)
  /-- The last participant left. -/
  | emptied
deriving DecidableEq, Repr

namespace Presence

/-- Nobody is there. -/
def empty : Presence := { roster := [], owner := none }

/-- Whether a user is there. -/
def contains (presence : Presence) (user : UserId) : Bool := presence.roster.has user

/-- How many participants there are. -/
def headCount (presence : Presence) : Nat := presence.roster.length

/-- Presence from stored participants. A stored owner who is not among them is replaced by the
most senior participant. -/
def restore (participants : List Participant) (owner : UserId) : Presence :=
  let roster := Roster.ofList participants
  { roster, owner := if roster.has owner then some owner else roster.successor }

/-- Let a user in. Joining twice changes nothing. Whoever enters an empty room owns it. -/
def join (presence : Presence) (user : UserId) (now : Instant) : JoinOutcome × Presence :=
  if presence.contains user then
    ({ alreadyMember := true, isNewOwner := false, participants := presence.roster }, presence)
  else
    let roster := presence.roster.enrol { user, joinedAt := now }
    let isNewOwner := presence.roster.isEmpty
    ({ alreadyMember := false, isNewOwner, participants := roster },
      { roster, owner := if isNewOwner then some user else presence.owner })

/-- Let a user out. Ownership goes to the most senior participant left. -/
def leave (presence : Presence) (user : UserId) : LeaveOutcome × Presence :=
  if presence.contains user then
    let roster := presence.roster.dismiss user
    if roster.isEmpty then (.emptied, empty)
    else if presence.owner = some user then
      (.left roster roster.successor, { roster, owner := roster.successor })
    else (.left roster none, { roster, owner := presence.owner })
  else (.notMember, presence)

end Presence

end WatchParty
