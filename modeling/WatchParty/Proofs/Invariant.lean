/-
# What holds of every room at every time

However a system is used, restarted and disturbed, each of its rooms is in order, and its rows tell
the same as its memory. Both are read off from the soundness of reachable venues, and are said here
without it, in terms of the room, the lobby and the tables alone.
-/

import Mathlib.Data.List.Nodup
import WatchParty.Proofs.Run

namespace WatchParty

/-- A registered room is in order. -/
structure Lobby.InOrder (lobby : Lobby) (number : RoomId) (room : Room) : Prop where
  id_eq : room.id = number
  live : room.state.deleted = false ∧ room.isDeleted = false
  occupied : room.state.presence.roster ≠ []
  /-- The one who owns the room is the one in its row, and is there. -/
  owner : room.state.presence.owner = some room.state.data.owner
  owner_present : room.state.data.owner ∈ room.state.presence.roster.map (·.user)
  /-- The accounts at hand are those of the participants. -/
  accounts : ∀ user,
    room.state.users.contains user = true ↔ user ∈ room.state.presence.roster.map (·.user)
  /-- Every participant is a member, and nobody else is. -/
  members : room.state.members.map Member.participant = room.state.presence.roster
  head_count : room.headCount = room.state.members.length ∧
    room.state.members.length = room.state.presence.roster.length
  one_owner : room.state.members.countP (·.isOwner) = 1
  /-- Members are in order of joining, and then of users. -/
  sorted : room.state.members.Pairwise fun first second =>
    first.joinedAt < second.joinedAt ∨
      (first.joinedAt = second.joinedAt ∧ first.user.id < second.user.id)
  distinct : (room.state.members.map (·.user.id)).Nodup
  /-- Readers see the state of the room. -/
  view : room.view = room.state.view
  topic : lobby.topics.isOpen number = true

namespace RoomState.Sound

variable {state : RoomState} (hsound : state.Sound)

include hsound

theorem member_ids : state.members.map (·.user.id) = state.presence.roster.map (·.user) := by
  rw [← hsound.members_participants, List.map_map]
  rfl

theorem member_ids_nodup : (state.members.map (·.user.id)).Nodup := by
  rw [hsound.member_ids]
  exact List.pairwise_map.mpr hsound.presence.roster.distinct

theorem owner_mem_roster : state.data.owner ∈ state.presence.roster.map (·.user) := by
  have hpresent := hsound.presence.owner_present _ hsound.owner
  obtain ⟨participant, hmem, howner⟩ := Roster.has_iff.mp hpresent
  exact List.mem_map.mpr ⟨participant, hmem, howner⟩

/-- Exactly one member owns the room. -/
theorem countP_isOwner : state.members.countP (·.isOwner) = 1 := by
  calc
    state.members.countP (·.isOwner)
    _ = state.members.countP ((· == state.data.owner) ∘ (·.user.id)) := by
      apply List.countP_congr
      intro member hmem
      rw [hsound.isOwner_eq hmem]
      simp
    _ = (state.members.map (·.user.id)).count state.data.owner := by
      rw [List.count, List.countP_map]
    _ = 1 := by
      apply List.count_eq_one_of_mem hsound.member_ids_nodup
      rw [hsound.member_ids]
      exact hsound.owner_mem_roster

theorem members_sorted : state.members.Pairwise fun first second =>
    first.joinedAt < second.joinedAt ∨
      (first.joinedAt = second.joinedAt ∧ first.user.id < second.user.id) := by
  have hordered := hsound.presence.roster.ordered
  rw [← hsound.members_participants] at hordered
  exact List.pairwise_map.mp hordered

end RoomState.Sound

namespace Venue

variable {venue : Venue} {number : RoomId} {room : Room}

/-- In every reachable venue every registered room is in order. -/
theorem Reachable.room_in_order (hreach : venue.Reachable)
    (hroom : venue.lobby.rooms.get? number = some room) : venue.lobby.InOrder number room := by
  have hvenue := hreach.sound
  have hsound := (hvenue.backed hroom).sound
  have hview := hvenue.view_eq hroom
  refine
    { id_eq := hvenue.room_id hroom
      live := ⟨hsound.live, hvenue.isDeleted_eq hroom⟩
      occupied := hsound.roster_ne_nil
      owner := hsound.owner
      owner_present := hsound.owner_mem_roster
      accounts := ?_
      members := hsound.members_participants
      head_count := ⟨?_, ?_⟩
      one_owner := hsound.countP_isOwner
      sorted := hsound.members_sorted
      distinct := hsound.member_ids_nodup
      view := hview
      topic := ?_ }
  · intro user
    rw [hsound.accounts]
    exact Roster.has_iff.trans List.mem_map.symm
  · rw [Room.headCount, hview, RoomState.view]
  · rw [← hsound.members_participants, List.length_map]
  · rw [hvenue.lobby.topics]
    exact IdMap.contains_of_get? hroom

theorem meeting_room_in_order :
    ∃ room, meeting.lobby.rooms.get? 4 = some room ∧ room.headCount = 2 ∧
      meeting.lobby.InOrder 4 room :=
  ⟨_, rfl, rfl, meeting_reachable.room_in_order rfl⟩

/-- The rows tell what the lobby holds, and nothing else about rooms. -/
structure Agrees (venue : Venue) : Prop where
  /-- The stored rooms are the registered ones. -/
  rooms : ∀ number, venue.store.rooms.contains number = venue.lobby.rooms.contains number
  /-- The stored row is the one in memory. -/
  data : ∀ number room, venue.lobby.rooms.get? number = some room →
    Store.roomById number venue.store = (.ok room.state.data, venue.store)
  /-- The stored playback is that of the clock. -/
  playback : ∀ number room, venue.lobby.rooms.get? number = some room →
    room.state.data.playback = room.state.clock.save
  /-- The stored participants are those present, in the same order. -/
  participants : ∀ number room, venue.lobby.rooms.get? number = some room →
    Store.participantsByRoom number venue.store =
      (.ok room.state.presence.roster, venue.store)
  /-- No participants and no messages are stored for other rooms. -/
  no_participants : ∀ number, venue.lobby.rooms.get? number = none →
    venue.store.participants.get? number = none
  no_messages : ∀ number, venue.lobby.rooms.get? number = none →
    ∀ message ∈ venue.store.messages, message.room ≠ number

/-- In every reachable venue the rows and the memory agree. -/
theorem Reachable.agrees (hreach : venue.Reachable) : venue.Agrees := by
  have hvenue := hreach.sound
  have hdescribes := hvenue.describes
  constructor
  · intro number
    rw [hdescribes.contains, Lobby.contains_states]
  · intro number room hroom
    exact Store.require_of_some (hdescribes.get?_rooms (Lobby.states_get? hroom))
  · intro number room hroom
    exact (hvenue.backed hroom).sound.playback
  · intro number room hroom
    rw [Store.participantsByRoom, hdescribes.roster (Lobby.states_get? hroom)]
  · intro number hnone
    rw [hdescribes.participants, IdMap.get?_mapValues, Lobby.states, IdMap.get?_mapValues, hnone]
    rfl
  · rintro number hnone message hmem rfl
    have hopen := hdescribes.messages message hmem
    rw [Lobby.contains_states, IdMap.contains_eq_isSome, hnone] at hopen
    cases hopen

theorem meeting_agrees : meeting.Agrees ∧ meeting.store.rooms.contains 4 = true :=
  ⟨meeting_reachable.agrees, rfl⟩

end Venue

end WatchParty
