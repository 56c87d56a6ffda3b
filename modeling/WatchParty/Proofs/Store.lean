/-
# Rows that describe rooms

The rows of a store *describe* the states of the open rooms if there is a row for each of them and
for no other, if its participants are those present, and if the accounts and contents that the rooms
hold are the stored ones. The calls that rooms make on the store are followed here for such rows:
each either changes the description as the room's own state is changed, or fails because the store
is set to fail.

Freshness of numbers is kept apart from this. It holds as long as the counter has not run out.
-/

import WatchParty.Proofs.Room
import WatchParty.Store

namespace WatchParty

/-- The greatest number of the shared counter, one less than `2 ^ 31`. Up to here every number
handed out is a new one. -/
def maxIdentifier : Int := 2147483647

/-- What the tables hold is true to a room: its number, its participants' accounts, its content. -/
structure RoomState.Backed (state : RoomState) (store : Store) (room : RoomId) : Prop where
  sound : state.Sound
  numbered : state.data.id = room
  accounts : ∀ user account,
    state.users.get? user = some account → store.users.get? user = some account
  content : store.contents.get? state.data.content = some state.content

namespace RoomState.Backed

variable {state : RoomState} {store : Store} {room : RoomId} {user : UserId}

/-- A room stays backed as long as no account and no content is lost. -/
theorem mono {store' : Store} (hbacked : state.Backed store room)
    (husers : ∀ id user, store.users.get? id = some user → store'.users.get? id = some user)
    (hcontents : ∀ id content,
      store.contents.get? id = some content → store'.contents.get? id = some content) :
    state.Backed store' room where
  sound := hbacked.sound
  numbered := hbacked.numbered
  accounts := fun user account h => husers user account (hbacked.accounts user account h)
  content := hcontents _ _ hbacked.content

theorem found {data : RoomRecord} {content : Content} {owner : User} (hroom : data.id = room)
    (howner : data.owner = owner.id) (hcontent : data.content = content.id)
    (hplayback : data.playback = (data.playback.toClock content.duration).save)
    (haccount : store.users.get? owner.id = some owner)
    (hstored : store.contents.get? content.id = some content) :
    (RoomState.found data content owner).Backed store room where
  sound := .found howner hplayback
  numbered := hroom
  accounts := fun user account h => by
    rcases IdMap.of_get?_insert h with ⟨rfl, rfl⟩ | hold
    · exact haccount
    · cases hold
  content := hcontent ▸ hstored

theorem welcome (hbacked : state.Backed store room) {account : User}
    (haccount : store.users.get? account.id = some account) (now : Instant) :
    (state.welcome account now).Backed store room where
  sound := hbacked.sound.welcome account now
  numbered := hbacked.numbered
  accounts := fun other account' h => by
    rcases IdMap.of_get?_insert h with ⟨rfl, rfl⟩ | hold
    · exact haccount
    · exact hbacked.accounts other account' hold
  content := hbacked.content

theorem release (hbacked : state.Backed store room)
    (hothers : state.presence.roster.dismiss user ≠ []) :
    (state.release user).Backed store room where
  sound := hbacked.sound.release hothers
  numbered := hbacked.numbered
  accounts := fun other account h => hbacked.accounts other account (IdMap.of_get?_erase h)
  content := hbacked.content

theorem steer (hbacked : state.Backed store room) {clock : Clock} (hclock : clock.Sound)
    (hduration : clock.duration = state.clock.duration) :
    (state.steer clock).Backed store room where
  sound := hbacked.sound.steer hclock hduration
  numbered := hbacked.numbered
  accounts := hbacked.accounts
  content := hbacked.content

end RoomState.Backed

namespace Store

/-- The rows describe the states of the open rooms. -/
structure Describes (store : Store) (states : IdMap RoomState) : Prop where
  rooms : store.rooms = states.mapValues (·.data)
  participants : store.participants = states.mapValues (·.presence.roster)
  /-- Messages belong to open rooms. -/
  messages : ∀ message ∈ store.messages, states.contains message.room = true
  backed : ∀ room state, states.get? room = some state → state.Backed store room

/-- Every number in use has been handed out, and users and contents are kept under theirs. -/
structure Numbered (store : Store) : Prop where
  nonneg : 0 ≤ store.lastId
  users : ∀ id user, store.users.get? id = some user → user.id = id ∧ id ≤ store.lastId
  contents : ∀ id content, store.contents.get? id = some content →
    content.id = id ∧ id ≤ store.lastId
  rooms : ∀ id, store.rooms.contains id = true → id ≤ store.lastId

/-- The rows with those of a room brought up to its state. -/
def record (store : Store) (state : RoomState) : Store :=
  { store with
    rooms := store.rooms.insert state.data.id state.data
    participants := store.participants.insert state.data.id state.presence.roster }

/-- The rows without those that belong to a room. -/
def forget (store : Store) (room : RoomId) : Store :=
  { store with
    rooms := store.rooms.erase room
    participants := store.participants.erase room
    messages := store.messages.filter (·.room ≠ room) }

/-- The rows with one more message. -/
def post (store : Store) (message : Message) : Store :=
  { store with messages := store.messages ++ [message], lastId := message.id }

variable {store store' : Store} {states : IdMap RoomState} {state : RoomState}
  {room other : RoomId}

theorem history_eq_of_messages (hmessages : store'.messages = store.messages) (room : RoomId) :
    store'.history room = store.history room := by
  rw [history, hmessages, history]

theorem history_forget (hne : room ≠ other) :
    (store.forget other).history room = store.history room := by
  rw [history, forget, List.filter_filter]
  apply List.filter_congr
  intro message _
  by_cases hroom : message.room = room
  · simp [hroom, hne]
  · simp [hroom]

theorem history_post (store : Store) (message : Message) (room : RoomId) :
    (store.post message).history room =
      store.history room ++ if message.room = room then [message] else [] := by
  rw [history, post, List.filter_append, history]
  congr 1
  by_cases hroom : message.room = room
  · simp [hroom]
  · simp [hroom]

namespace Describes

theorem get?_rooms (hdescribes : store.Describes states)
    (hstate : states.get? room = some state) : store.rooms.get? room = some state.data := by
  rw [hdescribes.rooms, IdMap.get?_mapValues, hstate]
  rfl

theorem get?_participants (hdescribes : store.Describes states)
    (hstate : states.get? room = some state) :
    store.participants.get? room = some state.presence.roster := by
  rw [hdescribes.participants, IdMap.get?_mapValues, hstate]
  rfl

theorem roster (hdescribes : store.Describes states) (hstate : states.get? room = some state) :
    store.roster room = state.presence.roster := by
  rw [Store.roster, hdescribes.get?_participants hstate]
  rfl

theorem contains (hdescribes : store.Describes states) (room : RoomId) :
    store.rooms.contains room = states.contains room := by
  rw [hdescribes.rooms, IdMap.contains_mapValues]

/-- Rows of other tables may be added, and numbers handed out, without touching the rooms. -/
theorem of_tables (hdescribes : store.Describes states) (hrooms : store'.rooms = store.rooms)
    (hparticipants : store'.participants = store.participants)
    (hmessages : store'.messages = store.messages)
    (husers : ∀ id user, store.users.get? id = some user → store'.users.get? id = some user)
    (hcontents : ∀ id content,
      store.contents.get? id = some content → store'.contents.get? id = some content) :
    store'.Describes states where
  rooms := hrooms.trans hdescribes.rooms
  participants := hparticipants.trans hdescribes.participants
  messages := fun message hmem => hdescribes.messages message (hmessages ▸ hmem)
  backed := fun room state hstate => (hdescribes.backed room state hstate).mono husers hcontents

/-- Recording a state describes the rooms with that state in place of the former one. -/
theorem record (hdescribes : store.Describes states) (hbacked : state.Backed store room) :
    (store.record state).Describes (states.insert room state) where
  rooms := by
    rw [IdMap.mapValues_insert, Store.record, hbacked.numbered, hdescribes.rooms]
  participants := by
    rw [IdMap.mapValues_insert, Store.record, hbacked.numbered, hdescribes.participants]
  messages := fun message hmem => by
    rw [IdMap.contains_insert, hdescribes.messages message hmem, Bool.or_true]
  backed := fun other state' hstate => by
    have hbacked' : state'.Backed store other := by
      rcases IdMap.of_get?_insert hstate with ⟨rfl, rfl⟩ | hold
      · exact hbacked
      · exact hdescribes.backed other state' hold
    exact hbacked'.mono (fun _ _ h => h) fun _ _ h => h

theorem forget (hdescribes : store.Describes states) (room : RoomId) :
    (store.forget room).Describes (states.erase room) where
  rooms := by
    rw [IdMap.mapValues_erase, ← hdescribes.rooms, Store.forget]
  participants := by
    rw [IdMap.mapValues_erase, ← hdescribes.participants, Store.forget]
  messages := fun message hmem => by
    obtain ⟨hmem, hother⟩ := List.mem_filter.mp hmem
    rw [IdMap.contains_erase, hdescribes.messages message hmem, hother]
    rfl
  backed := fun other state hstate => by
    have hbacked := hdescribes.backed other state (IdMap.of_get?_erase hstate)
    exact hbacked.mono (fun _ _ h => h) fun _ _ h => h

theorem post (hdescribes : store.Describes states) {message : Message}
    (hroom : states.contains message.room = true) : (store.post message).Describes states where
  rooms := hdescribes.rooms
  participants := hdescribes.participants
  messages := fun other hmem => by
    rcases List.mem_append.mp hmem with h | h
    · exact hdescribes.messages other h
    · rw [List.mem_singleton.mp h]
      exact hroom
  backed := fun room state hstate =>
    (hdescribes.backed room state hstate).mono (fun _ _ h => h) fun _ _ h => h

end Describes

namespace Numbered

/-- The next number is a new one while the counter has not run out. -/
theorem nextId_eq (hnumbered : store.Numbered) (hleft : store.lastId < maxIdentifier) :
    store.nextId = store.lastId + 1 := by
  have hnonneg := hnumbered.nonneg
  have hcount : Nat.pow 2 32 = 4294967296 := rfl
  rw [maxIdentifier] at hleft
  rw [nextId, nextIdentifier, hcount]
  apply Int.bmod_eq_of_le <;> omega

theorem lt_nextId (hnumbered : store.Numbered) (hleft : store.lastId < maxIdentifier) :
    store.lastId < store.nextId := by
  rw [hnumbered.nextId_eq hleft]
  exact Int.lt_succ _

/-- Nothing is kept under the next number where nothing is kept under numbers not handed out. -/
theorem get?_nextId (hnumbered : store.Numbered) (hleft : store.lastId < maxIdentifier) {α : Type}
    {table : IdMap α} (htable : ∀ id value, table.get? id = some value → id ≤ store.lastId) :
    table.get? store.nextId = none := by
  cases hvalue : table.get? store.nextId with
  | none => rfl
  | some value =>
      have hle := htable _ _ hvalue
      exact absurd (hnumbered.lt_nextId hleft) (Int.not_lt.mpr hle)

/-- Numbers stay new if whatever is added goes by a number handed out by then. -/
theorem of_tables (hnumbered : store.Numbered) (hlast : store.lastId ≤ store'.lastId)
    (husers : ∀ id user, store'.users.get? id = some user →
      store.users.get? id = some user ∨ (user.id = id ∧ id ≤ store'.lastId))
    (hcontents : ∀ id content, store'.contents.get? id = some content →
      store.contents.get? id = some content ∨ (content.id = id ∧ id ≤ store'.lastId))
    (hrooms : ∀ id, store'.rooms.contains id = true →
      store.rooms.contains id = true ∨ id ≤ store'.lastId) : store'.Numbered where
  nonneg := Int.le_trans hnumbered.nonneg hlast
  users := fun id user h => by
    rcases husers id user h with hold | hnew
    · obtain ⟨hid, hle⟩ := hnumbered.users id user hold
      exact ⟨hid, Int.le_trans hle hlast⟩
    · exact hnew
  contents := fun id content h => by
    rcases hcontents id content h with hold | hnew
    · obtain ⟨hid, hle⟩ := hnumbered.contents id content hold
      exact ⟨hid, Int.le_trans hle hlast⟩
    · exact hnew
  rooms := fun id h => by
    rcases hrooms id h with hold | hnew
    · exact Int.le_trans (hnumbered.rooms id hold) hlast
    · exact hnew

theorem addUser (hnumbered : store.Numbered) (hleft : store.lastId < maxIdentifier)
    (username displayName : String) : (store.addUser username displayName).2.Numbered := by
  apply hnumbered.of_tables (Int.le_of_lt (hnumbered.lt_nextId hleft))
  · intro id user huser
    rcases IdMap.of_get?_insert huser with ⟨rfl, rfl⟩ | hold
    · exact .inr ⟨rfl, Int.le_refl _⟩
    · exact .inl hold
  · exact fun _ _ hcontent => .inl hcontent
  · exact fun _ hroom => .inl hroom

theorem addContent (hnumbered : store.Numbered) (hleft : store.lastId < maxIdentifier)
    (title : String) (duration : Option Binary64) :
    (store.addContent title duration).2.Numbered := by
  apply hnumbered.of_tables (Int.le_of_lt (hnumbered.lt_nextId hleft))
  · exact fun _ _ huser => .inl huser
  · intro id content hcontent
    rcases IdMap.of_get?_insert hcontent with ⟨rfl, rfl⟩ | hold
    · exact .inr ⟨rfl, Int.le_refl _⟩
    · exact .inl hold
  · exact fun _ hroom => .inl hroom

end Numbered

/-- Adding a session fails, or adds it under the next number. -/
theorem addSession_cases (store : Store) (user : UserId) (token : String) (expiresAt : Instant) :
    (∃ failure, addSession user token expiresAt store = (.error failure, store)) ∨
      ∃ session, addSession user token expiresAt store = (.ok session,
        { store with sessions := store.sessions ++ [session], lastId := store.nextId }) := by
  unfold addSession
  cases store.users.get? user with
  | none => exact .inl ⟨_, rfl⟩
  | some account =>
      cases store.sessions.any (·.token = token) with
      | true => exact .inl ⟨_, rfl⟩
      | false => exact .inr ⟨_, rfl⟩

variable {α : Type} {resource : Resource} {found : Option α} {value : α}

theorem require_of_some (hfound : found = some value) :
    require resource found store = (.ok value, store) := by
  subst hfound
  rfl

theorem require_of_none (hmissing : found = none) :
    require resource found store = (.error (.notFound resource), store) := by
  subst hmissing
  rfl

theorem write_failing (call : StoreCall α) (hfailing : store.failing = true) :
    write call store = (.error .setToFail, store) := by
  rw [write, if_pos hfailing]

theorem write_of_writable (call : StoreCall α) (hwritable : store.failing = false) :
    write call store = call store := by
  rw [write, if_neg (by simp [hwritable])]

theorem writeRoom_of_writable (call : StoreCall α) (hwritable : store.failing = false)
    (hroom : store.rooms.contains room = true) : writeRoom room call store = call store := by
  rw [writeRoom, write_of_writable _ hwritable, if_pos hroom]

/-- A room with participants is given them as its roster. -/
theorem setRoster_of_ne_nil {roster : Roster} (hroster : roster ≠ []) :
    store.setRoster room roster =
      { store with participants := store.participants.insert room roster } := by
  have hfull : roster.isEmpty = false := by simpa using hroster
  rw [setRoster, hfull]
  rfl

theorem saveRoom_eq {data : RoomRecord} (hwritable : store.failing = false)
    (hroom : store.rooms.contains data.id = true) :
    saveRoom data store = (.ok (), { store with rooms := store.rooms.insert data.id data }) :=
  writeRoom_of_writable _ hwritable hroom

theorem deleteRoom_eq (hwritable : store.failing = false)
    (hroom : store.rooms.contains room = true) :
    deleteRoom room store = (.ok (), store.forget room) :=
  writeRoom_of_writable _ hwritable hroom

theorem createMessage_eq {user : User} {content : String} {now : Instant}
    (hwritable : store.failing = false) (hroom : store.rooms.contains room = true)
    (huser : store.users.get? user.id = some user) :
    createMessage room user.id content now store =
      (.ok { id := store.nextId, room, sender := user, content, createdAt := now },
        store.post { id := store.nextId, room, sender := user, content, createdAt := now }) := by
  rw [createMessage, writeRoom_of_writable _ hwritable hroom]
  simp only [huser]
  rfl

namespace Describes

variable (hdescribes : store.Describes states) (hstate : states.get? room = some state)

include hdescribes hstate

theorem contains_room : store.rooms.contains room = true :=
  IdMap.contains_of_get? (hdescribes.get?_rooms hstate)

/-- Storing a newcomer brings the rows up to the state with the newcomer in it. -/
theorem saveParticipant_eq {user : User} {now : Instant} (hwritable : store.failing = false)
    (habsent : state.presence.contains user.id = false) :
    saveParticipant room { user := user.id, joinedAt := now } store =
      (.ok (), store.record (state.welcome user now)) := by
  have hroster := hdescribes.roster hstate
  have hjoined : (state.welcome user now).presence.roster =
      state.presence.roster.enrol { user := user.id, joinedAt := now } := by
    rw [RoomState.welcome, Presence.join_of_not_contains habsent]
  have hrow := hdescribes.get?_rooms hstate
  rw [saveParticipant, writeRoom_of_writable _ hwritable (hdescribes.contains_room hstate), hroster,
    setRoster_of_ne_nil Roster.enrol_ne_nil, Store.record, hjoined]
  show _ = (Except.ok (), { store with
    rooms := store.rooms.insert state.data.id state.data
    participants := store.participants.insert state.data.id _ })
  rw [(hdescribes.backed _ _ hstate).numbered, IdMap.insert_eq_self hrow]

/-- Storing the row of a changed clock brings the rows up to the state with that clock. -/
theorem saveRoom_steer (clock : Clock) (hwritable : store.failing = false) :
    saveRoom (state.steer clock).data store = (.ok (), store.record (state.steer clock)) := by
  have hnumbered := (hdescribes.backed _ _ hstate).numbered
  have hroom : store.rooms.contains (state.steer clock).data.id = true := by
    show store.rooms.contains state.data.id = true
    rw [hnumbered]
    exact hdescribes.contains_room hstate
  have hroster := hdescribes.get?_participants hstate
  rw [saveRoom_eq hwritable hroom, Store.record]
  show _ = (Except.ok (), { store with
    rooms := store.rooms.insert state.data.id (state.steer clock).data
    participants := store.participants.insert state.data.id state.presence.roster })
  rw [hnumbered, IdMap.insert_eq_self hroster]
  exact congrArg (fun id => (Except.ok (), { store with
    rooms := store.rooms.insert id (state.steer clock).data })) hnumbered

/-- Deleting the row of one who leaves brings the rows up to the state without them, if the row of
the room is up to it. -/
theorem deleteParticipant_release {user : UserId} (hwritable : store.failing = false)
    (hothers : state.presence.roster.dismiss user ≠ []) :
    deleteParticipant room user
        { store with rooms := store.rooms.insert room (state.release user).data } =
      (.ok (), store.record (state.release user)) := by
  have hroster : store.roster room = state.presence.roster := hdescribes.roster hstate
  have hleft : (state.release user).presence.roster = state.presence.roster.dismiss user :=
    Presence.leave_roster
  have hnumbered : (state.release user).data.id = room := (hdescribes.backed _ _ hstate).numbered
  let updated : Store := { store with
    rooms := store.rooms.insert room (state.release user).data }
  have hwritable' : updated.failing = false := hwritable
  rw [Store.record, hnumbered, hleft, ← hroster, deleteParticipant, write_of_writable _ hwritable']
  show (Except.ok (), setRoster _ room ((store.roster room).dismiss user)) = _
  rw [setRoster_of_ne_nil (by rw [hroster]; exact hothers)]

/-- The row of a room is what is stored of it. -/
theorem rooms_insert_self : store.rooms.insert room state.data = store.rooms :=
  IdMap.insert_eq_self (hdescribes.get?_rooms hstate)

end Describes

end Store

end WatchParty
