/-
# Sound venues

A venue is *sound* if its rows describe the rooms of its lobby, if readers of a room see the room's
state, and if exactly the registered rooms have an open topic. This module names the few changes
that a venue undergoes while rooms are used, and shows that each of them keeps it sound. Which
operation makes which change is not said here.
-/

import WatchParty.Proofs.Operation
import WatchParty.Proofs.Store
import WatchParty.Proofs.Topics

namespace WatchParty

namespace Lobby

/-- The states of the registered rooms. -/
def states (lobby : Lobby) : IdMap RoomState := lobby.rooms.mapValues (·.state)

/-- What readers see of rooms, and the topics, fit the register. -/
structure Sound (lobby : Lobby) : Prop where
  /-- Readers see the state of a room. -/
  views : ∀ number room, lobby.rooms.get? number = some room → room.view = room.state.view
  /-- The rooms with an open topic are the registered ones. -/
  topics : ∀ number, lobby.topics.isOpen number = lobby.rooms.contains number

/-- The lobby after an event has gone to the topic of its room. -/
def announce (lobby : Lobby) (event : RoomEvent) : Lobby :=
  { lobby with topics := (lobby.topics.publish event.room event).2 }

/-- The lobby after a registered room has committed a state. -/
def renew (lobby : Lobby) (room : Room) (state : RoomState) : Lobby :=
  { lobby with rooms := lobby.rooms.insert room.id (room.commit state) }

/-- The lobby after a room was made of a state and registered. -/
def host (lobby : Lobby) (state : RoomState) : Lobby :=
  { lobby with nextSerial := lobby.nextSerial + 1 }.register
    (Room.ofState lobby.nextSerial state)

variable {lobby : Lobby} {room : Room} {number : RoomId} {state : RoomState} {event : RoomEvent}

theorem states_get? (hroom : lobby.rooms.get? number = some room) :
    lobby.states.get? number = some room.state := by
  rw [states, IdMap.get?_mapValues, hroom]
  rfl

theorem exists_room (hstate : lobby.states.get? number = some state) :
    ∃ room, lobby.rooms.get? number = some room ∧ room.state = state :=
  Option.map_eq_some_iff.mp ((IdMap.get?_mapValues _ _ _).symm.trans hstate)

theorem contains_states (lobby : Lobby) (number : RoomId) :
    lobby.states.contains number = lobby.rooms.contains number := IdMap.contains_mapValues _ _ _

theorem size_states (lobby : Lobby) : lobby.states.size = lobby.rooms.size :=
  IdMap.size_mapValues _ _

@[simp]
theorem states_announce (lobby : Lobby) (event : RoomEvent) :
    (lobby.announce event).states = lobby.states := rfl

@[simp]
theorem states_renew (lobby : Lobby) (room : Room) (state : RoomState) :
    (lobby.renew room state).states = lobby.states.insert room.id state :=
  IdMap.mapValues_insert _ _ _ _

@[simp]
theorem states_remove (lobby : Lobby) (number : RoomId) :
    (lobby.remove number).states = lobby.states.erase number := IdMap.mapValues_erase _ _ _

/-- Registering a room takes the place of a room that had its number. -/
theorem rooms_host (lobby : Lobby) (state : RoomState) :
    (lobby.host state).rooms =
      lobby.rooms.insert state.data.id (Room.ofState lobby.nextSerial state) :=
  IdMap.insert_erase _ _ _

@[simp]
theorem states_host (lobby : Lobby) (state : RoomState) :
    (lobby.host state).states = lobby.states.insert state.data.id state := by
  rw [states, rooms_host, IdMap.mapValues_insert]
  rfl

namespace Sound

variable (hsound : lobby.Sound)

include hsound

theorem announce (event : RoomEvent) : (lobby.announce event).Sound where
  views := hsound.views
  topics := fun other => by
    show (lobby.topics.publish event.room event).2.isOpen other = lobby.rooms.contains other
    rw [Topics.isOpen_publish, hsound.topics]

/-- A state that is kept for a registered room is what its readers see. -/
theorem renew (hroom : lobby.rooms.contains room.id = true) (state : RoomState) :
    (lobby.renew room state).Sound where
  views := fun other room' hother => by
    rcases IdMap.of_get?_insert hother with ⟨-, rfl⟩ | hold
    · rfl
    · exact hsound.views other room' hold
  topics := fun other => by
    show lobby.topics.isOpen other =
      (lobby.rooms.insert room.id (room.commit state)).contains other
    rw [IdMap.contains_insert, hsound.topics]
    by_cases h : other = room.id
    · simp [h, hroom]
    · simp [h]

theorem remove (number : RoomId) : (lobby.remove number).Sound where
  views := fun other room' hother => hsound.views other room' (IdMap.of_get?_erase hother)
  topics := fun other => by
    show (lobby.topics.closeTopic number).isOpen other = (lobby.rooms.erase number).contains other
    rw [Topics.isOpen_closeTopic, IdMap.contains_erase, hsound.topics]

theorem host (state : RoomState) : (lobby.host state).Sound where
  views := fun other room' hother => by
    rw [rooms_host] at hother
    rcases IdMap.of_get?_insert hother with ⟨-, rfl⟩ | hold
    · rfl
    · exact hsound.views other room' hold
  topics := fun other => by
    rw [rooms_host, IdMap.contains_insert, ← hsound.topics]
    exact Topics.isOpen_openTopic _ _ _

end Sound

end Lobby

namespace Venue

/-- Rows, rooms, what readers see of them, and topics fit together. -/
structure Sound (venue : Venue) : Prop where
  /-- The database has no faults. -/
  calm : venue.database.faults = []
  numbered : venue.store.Numbered
  describes : venue.store.Describes venue.lobby.states
  lobby : venue.lobby.Sound

/-- The venue after a room has taken a new state, which was stored, and has announced it. -/
def settle (venue : Venue) (room : Room) (state : RoomState) (event : RoomEvent) : Venue :=
  (venue.withStore (venue.store.record state)).withLobby
    ((venue.lobby.renew room state).announce event)

/-- The venue after the last participant has left a room, in whose state nobody is any more. -/
def dissolve (venue : Venue) (room : Room) (state : RoomState) (event : RoomEvent) : Venue :=
  (venue.withStore (venue.store.forget room.id)).withLobby
    (((venue.lobby.renew room state).announce event).remove room.id)

/-- The venue after a room was created. The room's number is the last one handed out. -/
def establish (venue : Venue) (state : RoomState) : Venue :=
  (venue.withStore { venue.store.record state with lastId := state.data.id }).withLobby
    (venue.lobby.host state)

/-- The venue after a message was posted. -/
def converse (venue : Venue) (message : Message) : Venue :=
  (venue.withStore (venue.store.post message)).withLobby
    (venue.lobby.announce (.chat message.room message))

variable {venue : Venue} {room : Room} {number : RoomId} {state : RoomState} {event : RoomEvent}

namespace Sound

variable (hsound : venue.Sound)

include hsound

theorem backed (hroom : venue.lobby.rooms.get? number = some room) :
    room.state.Backed venue.store number :=
  hsound.describes.backed _ _ (Lobby.states_get? hroom)

theorem room_id (hroom : venue.lobby.rooms.get? number = some room) : room.id = number :=
  (hsound.backed hroom).numbered

theorem registered (hroom : venue.lobby.rooms.get? number = some room) :
    venue.lobby.rooms.get? room.id = some room := by
  rw [hsound.room_id hroom, hroom]

theorem view_eq (hroom : venue.lobby.rooms.get? number = some room) :
    room.view = room.state.view := hsound.lobby.views _ _ hroom

theorem isDeleted_eq (hroom : venue.lobby.rooms.get? number = some room) :
    room.isDeleted = false := by
  rw [Room.isDeleted, hsound.view_eq hroom]
  exact (hsound.backed hroom).sound.live

/-- Every registered room is live. -/
theorem liveRoom?_eq (number : RoomId) :
    venue.lobby.liveRoom? number = venue.lobby.rooms.get? number := by
  rw [Lobby.liveRoom?]
  cases hroom : venue.lobby.rooms.get? number with
  | none => rfl
  | some room =>
      rw [Option.filter_some, hsound.isDeleted_eq hroom]
      rfl

theorem settle (hroom : venue.lobby.rooms.get? number = some room)
    (hbacked : state.Backed venue.store number) (event : RoomEvent) :
    (venue.settle room state event).Sound where
  calm := hsound.calm
  numbered := by
    refine hsound.numbered.of_tables (Int.le_refl _) (fun _ _ => .inl) (fun _ _ => .inl) ?_
    intro id hid
    rcases IdMap.of_contains_insert hid with rfl | hold
    · rw [hbacked.numbered]
      exact .inl (hsound.describes.contains_room (Lobby.states_get? hroom))
    · exact .inl hold
  describes := by
    show (venue.store.record state).Describes (venue.lobby.renew room state).states
    rw [Lobby.states_renew, hsound.room_id hroom]
    exact hsound.describes.record hbacked
  lobby := by
    have hregistered := IdMap.contains_of_get? (hsound.registered hroom)
    exact (hsound.lobby.renew hregistered state).announce event

theorem dissolve (hroom : venue.lobby.rooms.get? number = some room) (state : RoomState)
    (event : RoomEvent) : (venue.dissolve room state event).Sound where
  calm := hsound.calm
  numbered := by
    refine hsound.numbered.of_tables (Int.le_refl _) (fun _ _ => .inl) (fun _ _ => .inl) ?_
    intro id hid
    rw [Venue.dissolve, withLobby, withStore, store] at hid
    simp only [Store.forget, IdMap.contains_erase, Bool.and_eq_true] at hid
    exact .inl hid.2
  describes := by
    show (venue.store.forget room.id).Describes
      (((venue.lobby.renew room state).announce event).remove room.id).states
    rw [Lobby.states_remove, Lobby.states_announce, Lobby.states_renew, IdMap.erase_insert]
    exact hsound.describes.forget room.id
  lobby := by
    have hregistered := IdMap.contains_of_get? (hsound.registered hroom)
    exact ((hsound.lobby.renew hregistered state).announce event).remove _

theorem establish (hleft : venue.store.lastId < maxIdentifier)
    (hbacked : state.Backed venue.store venue.store.nextId) : (venue.establish state).Sound where
  calm := hsound.calm
  numbered := by
    have hlast : venue.store.lastId ≤ state.data.id := by
      rw [hbacked.numbered]
      exact Int.le_of_lt (hsound.numbered.lt_nextId hleft)
    refine hsound.numbered.of_tables hlast (fun _ _ => .inl) (fun _ _ => .inl) ?_
    intro id hid
    rcases IdMap.of_contains_insert hid with rfl | hold
    · exact .inr (Int.le_refl _)
    · exact .inl hold
  describes := by
    show ({ venue.store.record state with lastId := state.data.id } : Store).Describes
      (venue.lobby.host state).states
    rw [Lobby.states_host, hbacked.numbered]
    exact (hsound.describes.record hbacked).of_tables rfl rfl rfl (fun _ _ h => h) fun _ _ h => h
  lobby := hsound.lobby.host state

theorem converse {message : Message} (hleft : venue.store.lastId < maxIdentifier)
    (hid : message.id = venue.store.nextId)
    (hroom : venue.lobby.rooms.contains message.room = true) : (venue.converse message).Sound where
  calm := hsound.calm
  numbered := by
    have hlast : venue.store.lastId ≤ message.id := by
      rw [hid]
      exact Int.le_of_lt (hsound.numbered.lt_nextId hleft)
    exact hsound.numbered.of_tables hlast (fun _ _ => .inl) (fun _ _ => .inl) (fun _ => .inl)
  describes := hsound.describes.post (by rw [Lobby.contains_states]; exact hroom)
  lobby := hsound.lobby.announce _

/-- Neither the time nor the journal has to fit anything. -/
theorem of_eq {other : Venue} (hdatabase : other.database = venue.database)
    (hlobby : other.lobby = venue.lobby) : other.Sound := by
  obtain ⟨now, database, lobby, journal⟩ := other
  subst hdatabase hlobby
  exact ⟨hsound.calm, hsound.numbered, hsound.describes, hsound.lobby⟩

/-- Another sound lobby with the same states fits the rows as well. -/
theorem withLobby {lobby : Lobby} (hlobby : lobby.Sound)
    (hstates : lobby.states = venue.lobby.states) : (venue.withLobby lobby).Sound where
  calm := hsound.calm
  numbered := hsound.numbered
  describes := by
    show venue.store.Describes lobby.states
    rw [hstates]
    exact hsound.describes
  lobby := hlobby

/-- The lobby may change as long as the rooms stay, and their topics stay open or closed. -/
theorem of_rooms {lobby : Lobby} (hrooms : lobby.rooms = venue.lobby.rooms)
    (hopen : ∀ number, lobby.topics.isOpen number = venue.lobby.topics.isOpen number) :
    (venue.withLobby lobby).Sound := by
  refine hsound.withLobby ⟨?_, ?_⟩ ?_
  · rw [hrooms]
    exact hsound.lobby.views
  · intro number
    rw [hopen, hrooms]
    exact hsound.lobby.topics number
  · rw [Lobby.states, hrooms]
    rfl

/-- An announcement changes nothing that has to fit. -/
theorem announce (event : RoomEvent) : (venue.withLobby (venue.lobby.announce event)).Sound where
  calm := hsound.calm
  numbered := hsound.numbered
  describes := hsound.describes
  lobby := hsound.lobby.announce event

end Sound

end Venue

end WatchParty
