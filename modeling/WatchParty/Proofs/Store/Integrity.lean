/-
# Stores that come about by calls

Every call that a store knows, as one datum, and what it leaves of the rows. Calls are made in any
order and with any arguments, those that the rooms of a running system would never make included.
So participants may have no account, and an owner may not be among the participants.

What can be relied upon all the same is shown here: rooms are kept under their numbers, participants
are listed in order of seniority, and no participants and no messages are kept for rooms that do not
exist. No assumption is made on how many numbers were handed out.
-/

import WatchParty.Proofs.Store

namespace WatchParty

/-- A call on a store. -/
inductive StoreRequest where
  | addUser (username displayName : String)
  | addContent (title : String) (duration : Option Binary64)
  | addSession (user : UserId) (token : String) (expiresAt : Instant)
  | setFailing (failing : Bool)
  | userById (id : UserId)
  | sessionByToken (token : String)
  | contentById (id : ContentId)
  | roomById (id : RoomId)
  | listRooms
  | participantsByRoom (room : RoomId)
  | messagesByRoom (room : RoomId)
  | createRoom (new : NewRoom)
  | saveRoom (data : RoomRecord)
  | deleteRoom (room : RoomId)
  | saveParticipant (room : RoomId) (participant : Participant)
  | deleteParticipant (room : RoomId) (user : UserId)
  | createMessage (room : RoomId) (sender : UserId) (content : String) (createdAt : Instant)
deriving DecidableEq, Repr

namespace Store

/-- The rows after a call, whether it answers or fails. -/
def after {α : Type} (call : StoreCall α) (store : Store) : Store := (call store).2

end Store

/-- The rows after a call. -/
def StoreRequest.serve (store : Store) : StoreRequest → Store
  | .addUser username displayName => (store.addUser username displayName).2
  | .addContent title duration => (store.addContent title duration).2
  | .addSession user token expiresAt => store.after (Store.addSession user token expiresAt)
  | .setFailing failing => store.setFailing failing
  | .userById id => store.after (Store.userById id)
  | .sessionByToken token => store.after (Store.sessionByToken token)
  | .contentById id => store.after (Store.contentById id)
  | .roomById id => store.after (Store.roomById id)
  | .listRooms => store.after Store.listRooms
  | .participantsByRoom room => store.after (Store.participantsByRoom room)
  | .messagesByRoom room => store.after (Store.messagesByRoom room)
  | .createRoom new => store.after (Store.createRoom new)
  | .saveRoom data => store.after (Store.saveRoom data)
  | .deleteRoom room => store.after (Store.deleteRoom room)
  | .saveParticipant room participant => store.after (Store.saveParticipant room participant)
  | .deleteParticipant room user => store.after (Store.deleteParticipant room user)
  | .createMessage room sender content createdAt =>
    store.after (Store.createMessage room sender content createdAt)

namespace Store

/-- A store that comes about by calls from one without rows. -/
def Produced (store : Store) : Prop :=
  ∃ requests : List StoreRequest, requests.foldl StoreRequest.serve .empty = store

/-- What the table of participants holds for a room. Nothing is kept where nobody is there. -/
def entry (roster : Roster) : Option Roster := if roster = [] then none else some roster

variable {store : Store} {room other : RoomId} {roster : Roster}

@[simp]
theorem getD_entry (roster : Roster) : (entry roster).getD [] = roster := by
  rw [entry]
  split
  · rename_i hempty
    exact hempty.symm
  · rfl

theorem get?_setRoster (store : Store) (room : RoomId) (roster : Roster) (other : RoomId) :
    (store.setRoster room roster).participants.get? other =
      if other = room then entry roster else store.participants.get? other := by
  rw [setRoster, entry]
  by_cases hempty : roster = []
  · simp [hempty]
  · simp [hempty]

@[simp]
theorem roster_setRoster (store : Store) (room : RoomId) (roster : Roster) (other : RoomId) :
    (store.setRoster room roster).roster other =
      if other = room then roster else store.roster other := by
  rw [Store.roster, get?_setRoster]
  split
  · exact getD_entry roster
  · rfl

/-- Of two rosters that are set one after the other the last one counts. -/
@[simp]
theorem setRoster_setRoster (store : Store) (room : RoomId) (first second : Roster) :
    (store.setRoster room first).setRoster room second = store.setRoster room second := by
  have hparticipants : ((store.setRoster room first).setRoster room second).participants =
      (store.setRoster room second).participants := by
    apply IdMap.eq_of_get?_eq
    intro other
    simp only [get?_setRoster]
    split <;> rfl
  exact congrArg (fun participants => { store with participants }) hparticipants

/-- Setting the roster that there is changes nothing. -/
theorem setRoster_eq_self (hkept : store.participants.get? room = entry roster) :
    store.setRoster room roster = store := by
  have hparticipants : (store.setRoster room roster).participants = store.participants := by
    apply IdMap.eq_of_get?_eq
    intro other
    rw [get?_setRoster]
    split
    · rename_i hsame
      rw [hsame, hkept]
    · rfl
  exact congrArg (fun participants => { store with participants }) hparticipants

/-- When all that belongs to a room is deleted, it does not matter who was in it. -/
theorem forget_setRoster (store : Store) (room : RoomId) (roster : Roster) :
    (store.setRoster room roster).forget room = store.forget room := by
  have hparticipants : (store.setRoster room roster).participants.erase room =
      store.participants.erase room := by
    apply IdMap.eq_of_get?_eq
    intro other
    simp only [IdMap.get?_erase, get?_setRoster]
    split <;> rfl
  rw [forget, hparticipants]
  rfl

theorem roster_forget (store : Store) (room other : RoomId) :
    (store.forget room).roster other = if other = room then [] else store.roster other := by
  rw [roster, forget, IdMap.get?_erase]
  split <;> rfl

/-- Rows that fit together as far as the store itself sees to it. -/
structure Coherent (store : Store) : Prop where
  /-- Rooms are kept under their numbers. -/
  numbered : ∀ room data, store.rooms.get? room = some data → data.id = room
  ordered : ∀ room roster, store.participants.get? room = some roster → Roster.Sound roster
  /-- No empty rosters are kept. -/
  filled : ∀ room, store.participants.get? room = entry (store.roster room)
  /-- Participants are kept for rooms that exist. -/
  housed : ∀ room, store.roster room ≠ [] → store.rooms.contains room = true
  messages : ∀ message ∈ store.messages, store.rooms.contains message.room = true

namespace Coherent

theorem empty : Store.empty.Coherent where
  numbered := fun _ _ hroom => nomatch hroom
  ordered := fun _ _ hroster => nomatch hroster
  filled := fun _ => rfl
  housed := fun _ hroster => absurd rfl hroster
  messages := fun _ hmessage => nomatch hmessage

variable (hcoherent : store.Coherent)

include hcoherent

theorem roster_sound (room : RoomId) : (store.roster room).Sound := by
  rw [roster]
  cases hroster : store.participants.get? room with
  | none => exact ⟨.nil, .nil⟩
  | some roster => exact hcoherent.ordered room roster hroster

/-- Rows of users, sessions and contents do not have to fit the rooms. -/
theorem of_tables {next : Store} (hrooms : next.rooms = store.rooms)
    (hparticipants : next.participants = store.participants)
    (hmessages : next.messages = store.messages) : next.Coherent := by
  have hroster : ∀ room, next.roster room = store.roster room := fun room => by
    rw [Store.roster, hparticipants, Store.roster]
  constructor
  · rw [hrooms]
    exact hcoherent.numbered
  · rw [hparticipants]
    exact hcoherent.ordered
  · intro room
    rw [hparticipants, hroster]
    exact hcoherent.filled room
  · intro room
    rw [hrooms, hroster]
    exact hcoherent.housed room
  · rw [hmessages, hrooms]
    exact hcoherent.messages

/-- A roster in order may be kept for a room that exists. -/
theorem setRoster (hroster : Roster.Sound roster)
    (hroom : roster ≠ [] → store.rooms.contains room = true) :
    (store.setRoster room roster).Coherent where
  numbered := hcoherent.numbered
  ordered := fun other kept hkept => by
    rw [get?_setRoster] at hkept
    split at hkept
    · rw [entry] at hkept
      split at hkept
      · cases hkept
      · exact Option.some.inj hkept ▸ hroster
    · exact hcoherent.ordered other kept hkept
  filled := fun other => by
    rw [get?_setRoster, roster_setRoster]
    split
    · rfl
    · exact hcoherent.filled other
  housed := fun other hother => by
    rw [roster_setRoster] at hother
    split at hother
    · rename_i hsame
      exact hsame ▸ hroom hother
    · exact hcoherent.housed other hother
  messages := hcoherent.messages

/-- A row may be kept for a room, be it a new one or not. -/
theorem insertRoom (data : RoomRecord) :
    ({ store with rooms := store.rooms.insert data.id data } : Store).Coherent where
  numbered := fun room found hfound => by
    rcases IdMap.of_get?_insert hfound with ⟨rfl, rfl⟩ | hold
    · rfl
    · exact hcoherent.numbered room found hold
  ordered := hcoherent.ordered
  filled := hcoherent.filled
  housed := fun room hroster => by
    rw [IdMap.contains_insert, hcoherent.housed room hroster, Bool.or_true]
  messages := fun message hmem => by
    rw [IdMap.contains_insert, hcoherent.messages message hmem, Bool.or_true]

/-- All that belongs to a room may be deleted. -/
theorem forget (room : RoomId) : (store.forget room).Coherent := by
  constructor
  · exact fun other data hdata => hcoherent.numbered other data (IdMap.of_get?_erase hdata)
  · exact fun other kept hkept => hcoherent.ordered other kept (IdMap.of_get?_erase hkept)
  · intro other
    rw [roster_forget, Store.forget, IdMap.get?_erase]
    split
    · rfl
    · exact hcoherent.filled other
  · intro other hother
    rw [roster_forget] at hother
    split at hother
    · exact absurd rfl hother
    · rename_i hne
      rw [Store.forget, IdMap.contains_erase, hcoherent.housed other hother, decide_eq_true hne]
      rfl
  · intro message hmem
    obtain ⟨hmem, hother⟩ := List.mem_filter.mp hmem
    rw [Store.forget, IdMap.contains_erase, hcoherent.messages message hmem, hother]
    rfl

/-- A message may be added to a room that exists. -/
theorem post {message : Message} (hroom : store.rooms.contains message.room = true) :
    (store.post message).Coherent where
  numbered := hcoherent.numbered
  ordered := hcoherent.ordered
  filled := hcoherent.filled
  housed := hcoherent.housed
  messages := fun other hmem => by
    rcases List.mem_append.mp hmem with h | h
    · exact hcoherent.messages other h
    · rw [List.mem_singleton.mp h]
      exact hroom

theorem write {α : Type} {call : StoreCall α} (hcall : (store.after call).Coherent) :
    (store.after (Store.write call)).Coherent := by
  rw [Store.after, Store.write]
  split
  · exact hcoherent
  · exact hcall

theorem writeRoom {α : Type} {call : StoreCall α}
    (hcall : store.rooms.contains room = true → (store.after call).Coherent) :
    (store.after (Store.writeRoom room call)).Coherent := by
  apply hcoherent.write
  by_cases hroom : store.rooms.contains room = true
  · rw [Store.after, if_pos hroom]
    exact hcall hroom
  · rw [Store.after, if_neg hroom]
    exact hcoherent

theorem require {α : Type} {resource : Resource} {found : Option α} :
    (store.after (Store.require resource found)).Coherent := by
  cases found <;> exact hcoherent

/-- Every call leaves coherent rows. -/
theorem serve (request : StoreRequest) : (request.serve store).Coherent := by
  cases request with
  | addUser username displayName => exact hcoherent.of_tables rfl rfl rfl
  | addContent title duration => exact hcoherent.of_tables rfl rfl rfl
  | addSession user token expiresAt =>
      rw [StoreRequest.serve, Store.after]
      rcases store.addSession_cases user token expiresAt with ⟨_, hcall⟩ | ⟨_, hcall⟩
      · rw [hcall]
        exact hcoherent
      · rw [hcall]
        exact hcoherent.of_tables rfl rfl rfl
  | setFailing failing => exact hcoherent.of_tables rfl rfl rfl
  | userById id => exact hcoherent.require
  | sessionByToken token => exact hcoherent.require
  | contentById id => exact hcoherent.require
  | roomById id => exact hcoherent.require
  | listRooms => exact hcoherent
  | participantsByRoom room => exact hcoherent
  | messagesByRoom room => exact hcoherent
  | createRoom new =>
      apply hcoherent.write
      let data : RoomRecord :=
        { id := store.nextId, content := new.content, title := new.title, owner := new.owner
          createdAt := new.createdAt, playback := new.playback }
      have hrow : ({ store with
          rooms := store.rooms.insert data.id data, lastId := store.nextId } : Store).Coherent :=
        (hcoherent.insertRoom data).of_tables rfl rfl rfl
      have howner := (hcoherent.roster_sound data.id).enrol ⟨new.owner, new.createdAt⟩
      exact hrow.setRoster howner fun _ => IdMap.contains_of_get? (IdMap.get?_insert_self _ _ _)
  | saveRoom data => exact hcoherent.writeRoom fun _ => hcoherent.insertRoom data
  | deleteRoom room => exact hcoherent.writeRoom fun _ => hcoherent.forget room
  | saveParticipant room participant =>
      exact hcoherent.writeRoom fun hroom =>
        hcoherent.setRoster ((hcoherent.roster_sound room).enrol participant) fun _ => hroom
  | deleteParticipant room user =>
      apply hcoherent.write
      apply hcoherent.setRoster ((hcoherent.roster_sound room).dismiss user)
      intro hothers
      apply hcoherent.housed
      rintro hempty
      exact hothers (by rw [hempty]; rfl)
  | createMessage room sender content createdAt =>
      refine hcoherent.writeRoom fun hroom => ?_
      rw [after]
      cases store.users.get? sender with
      | none => exact hcoherent
      | some account => exact hcoherent.post hroom

end Coherent

/-- However a store came about, its rows are coherent. -/
theorem Produced.coherent (hproduced : store.Produced) : store.Coherent := by
  obtain ⟨requests, rfl⟩ := hproduced
  have hall : ∀ store : Store, store.Coherent →
      (requests.foldl StoreRequest.serve store).Coherent := by
    induction requests with
    | nil => exact fun _ hcoherent => hcoherent
    | cons request rest ih => exact fun store hcoherent => ih _ (hcoherent.serve request)
  exact hall .empty .empty

end Store

end WatchParty
