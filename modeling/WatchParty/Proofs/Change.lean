/-
# What a step changes

Rooms, their rows and their topics change in six ways only: a room is founded, somebody enters it,
somebody departs, the last one vacates it, its clock is steered, or somebody talks. Each of them is
a granted call, whether it was made as such or given over a connection, and each publishes to the
room that it is about. All else that happens leaves rooms and their rows as they are; it may add
other rows, and whoever listens may come, go and read.

What a step does to the connections is left out here, and so is starting over.
-/

import WatchParty.Proofs.Broadcast
import WatchParty.Proofs.Run

namespace WatchParty

open Verdict

/-- What calls on rooms read and change of a venue. -/
structure Core where
  now : Instant
  rules : Rules
  store : Store
  /-- The states of the registered rooms. -/
  states : IdMap RoomState
  topics : Topics RoomEvent

namespace Venue

/-- What calls on rooms read and change of the venue. -/
def core (venue : Venue) : Core :=
  { now := venue.now, rules := venue.lobby.rules, store := venue.store
    states := venue.lobby.states, topics := venue.lobby.topics }

variable {venue : Venue} {room : Room} {number : RoomId} {state : RoomState} {event : RoomEvent}

@[simp]
theorem core_announce (venue : Venue) (event : RoomEvent) :
    (venue.withLobby (venue.lobby.announce event)).core =
      { venue.core with topics := (venue.lobby.topics.publish event.room event).2 } := rfl

@[simp]
theorem core_settle (venue : Venue) (room : Room) (state : RoomState) (event : RoomEvent) :
    (venue.settle room state event).core =
      { venue.core with
        store := venue.store.record state
        states := venue.lobby.states.insert room.id state
        topics := (venue.lobby.topics.publish event.room event).2 } := by
  rw [core, settle, withLobby, Lobby.states_announce, Lobby.states_renew]
  rfl

@[simp]
theorem core_dissolve (venue : Venue) (room : Room) (state : RoomState) (event : RoomEvent) :
    (venue.dissolve room state event).core =
      { venue.core with
        store := venue.store.forget room.id
        states := venue.lobby.states.erase room.id
        topics := (venue.lobby.topics.publish event.room event).2.closeTopic room.id } := by
  rw [core, dissolve, withLobby, Lobby.states_remove, Lobby.states_announce, Lobby.states_renew,
    IdMap.erase_insert]
  rfl

@[simp]
theorem core_establish (venue : Venue) (state : RoomState) :
    (venue.establish state).core =
      { venue.core with
        store := { venue.store.record state with lastId := state.data.id }
        states := venue.lobby.states.insert state.data.id state
        topics := venue.lobby.topics.openTopic state.data.id } := by
  rw [core, establish, withLobby, Lobby.states_host]
  rfl

@[simp]
theorem core_converse (venue : Venue) (message : Message) :
    (venue.converse message).core =
      { venue.core with
        store := venue.store.post message
        topics := (venue.lobby.topics.publish message.room (.chat message.room message)).2 } := rfl

end Venue

/-! ## What calls change -/

namespace Core

/-- The row of a room that would be created next. -/
def newRow (core : Core) (owner : User) (content : Content) (title : Option String) : RoomRecord :=
  core.store.newRow core.now owner content title

/-- What a granted call changes. -/
inductive Change (core : Core) : Call → Core → Prop where
  /-- A room is created, with its topic. -/
  | found {user : UserId} {content : ContentId} (title : Option String) {owner : User}
      {shown : Content} (howner : core.store.users.get? user = some owner)
      (hshown : core.store.contents.get? content = some shown) {state : RoomState}
      (hstate : state = .found (core.newRow owner shown title) shown owner) :
      Change core (.createRoom user content title)
        { core with
          store := { core.store.record state with lastId := state.data.id }
          states := core.states.insert state.data.id state
          topics := core.topics.openTopic state.data.id }
  /-- Somebody joins who is not there. -/
  | enter {number : RoomId} {user : User} {state : RoomState}
      (hstate : core.states.get? number = some state)
      (huser : core.store.users.get? user.id = some user)
      (habsent : state.presence.contains user.id = false) {now : Instant}
      (hnow : now = state.clock.noEarlier core.now) :
      Change core (.join number user.id)
        { core with
          store := core.store.record (state.welcome user now)
          states := core.states.insert number (state.welcome user now)
          topics := (core.topics.publish number ((state.welcome user now).presenceEvent now)).2 }
  /-- A member leaves, and others remain. -/
  | depart {number : RoomId} {user : UserId} {state : RoomState}
      (hstate : core.states.get? number = some state)
      (hmember : state.presence.contains user = true)
      (hothers : state.presence.roster.dismiss user ≠ []) {now : Instant}
      (hnow : now = state.clock.noEarlier core.now) :
      Change core (.leave number user)
        { core with
          store := core.store.record (state.release user)
          states := core.states.insert number (state.release user)
          topics := (core.topics.publish number ((state.release user).presenceEvent now)).2 }
  /-- The last member leaves, and the room goes with its rows and its topic. -/
  | vacate {number : RoomId} {user : UserId} {state : RoomState}
      (hstate : core.states.get? number = some state)
      (hmember : state.presence.contains user = true)
      (hlast : state.presence.roster.dismiss user = []) {now : Instant}
      (hnow : now = state.clock.noEarlier core.now) :
      Change core (.leave number user)
        { core with
          store := core.store.forget number
          states := core.states.erase number
          topics := (core.topics.publish number
            ((state.release user).presenceEvent now)).2.closeTopic number }
  /-- A member who may do so gives a playback command. The clock need not change. -/
  | steer {number : RoomId} {user : UserId} {state : RoomState}
      (hstate : core.states.get? number = some state)
      (hmember : state.presence.contains user = true)
      (hmay : core.rules.mayControl state.presence.owner user = true) {now : Instant}
      (hnow : now = state.clock.noEarlier core.now) (command : Command) {clock : Clock}
      (hclock : clock = state.clock.apply command now) :
      Change core (.control number user command)
        { core with
          store := core.store.record (state.steer clock)
          states := core.states.insert number (state.steer clock)
          topics := (core.topics.publish number
            (.playback number user (clock.report command.action now))).2 }
  /-- A member posts a message. -/
  | talk {number : RoomId} {user : UserId} {state : RoomState}
      (hstate : core.states.get? number = some state)
      (hmember : state.presence.contains user = true) {content text : String}
      (htext : Room.checkMessage core.rules content = .ok text) {message : Message}
      (hid : message.id = core.store.nextId) (hroom : message.room = number)
      (hsender : core.store.users.get? user = some message.sender)
      (hcontent : message.content = text)
      (hnow : message.createdAt = state.clock.noEarlier core.now) :
      Change core (.chat number user content)
        { core with
          store := core.store.post message
          topics := (core.topics.publish number (.chat number message)).2 }

/-- A granted call that has nothing to change: a member joins, a stranger leaves, or somebody
reads. -/
def Idle (core : Core) : Call → Prop
  | .join number user =>
    ∃ state, core.states.get? number = some state ∧ state.presence.contains user = true
  | .leave number user =>
    ∃ state, core.states.get? number = some state ∧ state.presence.contains user = false
  | .messages _ _ => True
  | _ => False

/-- What a granted call comes to: there is nothing to change, or a change is made. -/
def Brings (core : Core) (call : Call) (next : Core) : Prop :=
  (core.Idle call ∧ next = core) ∨ core.Change call next

end Core

namespace Venue

variable {venue : Venue}

theorem createVerdict_brings (user : UserId) (content : ContentId) (title : Option String) :
    (venue.createVerdict user content title).Grants fun next =>
      venue.core.Brings (.createRoom user content title) next.core := by
  apply grants_withUser
  intro owner howner
  cases hcontent : venue.store.contents.get? content with
  | none => exact trivial
  | some shown =>
      right
      rw [core_establish]
      exact .found title howner hcontent rfl

theorem chatVerdict_brings (number : RoomId) (user : UserId) (content : String) :
    (venue.chatVerdict number user content).Grants fun next =>
      venue.core.Brings (.chat number user content) next.core := by
  apply grants_withRoom
  intro room hroom
  have hstate := Lobby.states_get? hroom
  cases htext : Room.checkMessage venue.lobby.rules content with
  | error error => exact trivial
  | ok text =>
      apply grants_withMember
      intro hmember
      apply grants_withUser
      intro sender hsender
      right
      have hrules : Room.checkMessage venue.core.rules content = .ok text := htext
      rw [core_converse]
      exact .talk hstate hmember hrules rfl rfl hsender rfl rfl

theorem messagesVerdict_brings (number : RoomId) (user : UserId) :
    (venue.messagesVerdict number user).Grants fun next =>
      venue.core.Brings (.messages number user) next.core :=
  grants_withRoom fun _ _ => grants_withMember fun _ => .inl ⟨trivial, rfl⟩

namespace Sound

variable (hsound : venue.Sound)

include hsound

theorem record_eq_self {number : RoomId} {state : RoomState}
    (hstate : venue.lobby.states.get? number = some state) :
    venue.store.record state = venue.store := by
  have hid : state.data.id = number := (hsound.describes.backed _ _ hstate).numbered
  rw [Store.record, hid, IdMap.insert_eq_self (hsound.describes.get?_rooms hstate),
    IdMap.insert_eq_self (hsound.describes.get?_participants hstate)]

theorem joinVerdict_brings (number : RoomId) (user : UserId) :
    (venue.joinVerdict number user).Grants fun next =>
      venue.core.Brings (.join number user) next.core := by
  apply grants_withRoom
  intro room hroom
  have hstate := Lobby.states_get? hroom
  have hid := hsound.room_id hroom
  apply grants_withUser
  intro account haccount
  obtain rfl := (hsound.numbered.users _ _ haccount).1
  apply grants_ite
  · exact fun hmember => .inl ⟨⟨_, hstate, hmember⟩, rfl⟩
  · intro habsent
    right
    rw [core_settle, hid]
    have hevent : ∀ now, ((room.state.welcome account now).presenceEvent now).room = number :=
      fun now => hid
    rw [hevent]
    exact .enter hstate haccount (Bool.eq_false_iff.mpr habsent) rfl

theorem leaveVerdict_brings (number : RoomId) (user : UserId) :
    (venue.leaveVerdict number user).Grants fun next =>
      venue.core.Brings (.leave number user) next.core := by
  apply grants_withRoom
  intro room hroom
  have hstate := Lobby.states_get? hroom
  have hid := hsound.room_id hroom
  have hevent : ∀ now, ((room.state.release user).presenceEvent now).room = number :=
    fun now => hid
  apply grants_ite
  · intro hmember
    right
    by_cases hlast : room.state.presence.roster.dismiss user = []
    · rw [if_pos (RoomState.deleted_release.mpr hlast), core_dissolve, hevent, hid]
      exact .vacate hstate hmember hlast rfl
    · rw [if_neg (mt RoomState.deleted_release.mp hlast), core_settle, hevent, hid]
      exact .depart hstate hmember hlast rfl
  · exact fun habsent => .inl ⟨⟨_, hstate, Bool.eq_false_iff.mpr habsent⟩, rfl⟩

/-- A clock that stays is the one in the row, so storing it would change nothing. -/
theorem steerVerdict_brings {number : RoomId} {room : Room} {user : UserId}
    (hroom : venue.lobby.rooms.get? number = some room)
    (hmember : room.state.presence.contains user = true)
    (hmay : venue.lobby.rules.mayControl room.state.presence.owner user = true)
    (command : Command) :
    (venue.steerVerdict user room command).Grants fun next =>
      venue.core.Brings (.control number user command) next.core := by
  have hstate := Lobby.states_get? hroom
  have hid := hsound.room_id hroom
  let now := room.state.clock.noEarlier venue.now
  let clock := room.state.clock.apply command now
  have hsteer : venue.core.Change (.control number user command)
      { venue.core with
        store := venue.store.record (room.state.steer clock)
        states := venue.lobby.states.insert number (room.state.steer clock)
        topics := (venue.lobby.topics.publish number
          (.playback number user (clock.report command.action now))).2 } :=
    .steer hstate hmember hmay rfl command rfl
  apply grants_ite
  · intro hsame
    have hstay : room.state.steer clock = room.state := by
      rw [show clock = room.state.clock from hsame]
      exact (hsound.backed hroom).sound.steer_self
    rw [hstay, hsound.record_eq_self hstate, IdMap.insert_eq_self hstate] at hsteer
    right
    rw [core_announce, hid]
    exact hsteer
  · intro _
    right
    rw [core_settle, hid]
    exact hsteer

theorem controlVerdict_brings (number : RoomId) (user : UserId) (command : Command) :
    (venue.controlVerdict number user command).Grants fun next =>
      venue.core.Brings (.control number user command) next.core := by
  apply grants_withRoom
  intro room hroom
  apply grants_withUser
  intro _ _
  apply grants_withMember
  intro hmember
  apply grants_ite
  · exact fun hmay => hsound.steerVerdict_brings hroom hmember hmay command
  · exact fun _ => trivial

theorem grants_change (call : Call) :
    (call.verdict venue).Grants fun next => venue.core.Brings call next.core := by
  cases call with
  | createRoom user content title => exact (createVerdict_brings user content title).map _
  | join number user => exact (hsound.joinVerdict_brings number user).map _
  | leave number user => exact (hsound.leaveVerdict_brings number user).map _
  | control number user command => exact (hsound.controlVerdict_brings number user command).map _
  | chat number user content => exact (chatVerdict_brings number user content).map _
  | messages number user => exact (messagesVerdict_brings number user).map _

end Sound

end Venue

namespace Verdict

variable {α : Type} {verdict : Verdict α} {property : Venue → Prop}

/-- A verdict is refused, and then nothing changes, or what it grants has the property. -/
theorem Grants.enact_cases (hgrants : verdict.Grants property) (venue : Venue) :
    ((∃ error, (verdict.enact venue).1 = .error error) ∧ (verdict.enact venue).2 = venue) ∨
    ((∃ value, (verdict.enact venue).1 = .ok value) ∧ property (verdict.enact venue).2) := by
  cases verdict with
  | refused error => exact .inl ⟨⟨error, rfl⟩, rfl⟩
  | granted stores value next =>
      rw [Verdict.enact]
      split
      · exact .inl ⟨⟨_, rfl⟩, rfl⟩
      · exact .inr ⟨⟨value, rfl⟩, hgrants⟩

end Verdict

namespace Venue

open Operation

variable {α β : Type} {venue next : Venue} {operation : Operation α} {rest : α → Operation β}
  {answer : Except RoomError α}

theorem Leads.core_eq (hleads : venue.Leads operation answer next) :
    (venue.run operation).2.core = next.core := by
  obtain ⟨journal, hrun⟩ := hleads.run_eq
  rw [hrun]
  rfl

/-- What becomes of a call: it is refused, or granted without anything to change, or granted with a
change. -/
inductive Outcome (venue : Venue) (call : Call) (next : Core) : Prop where
  | refused {error : RoomError} (herror : (venue.run call.operation).1 = .error error)
    (hsame : next = venue.core)
  | idle {answer : Answer} (hanswer : (venue.run call.operation).1 = .ok answer)
    (hidle : venue.core.Idle call) (hsame : next = venue.core)
  | changed {answer : Answer} (hanswer : (venue.run call.operation).1 = .ok answer)
    (hchange : venue.core.Change call next)

theorem Sound.outcome (hsound : venue.Sound) (hleft : venue.store.lastId < maxIdentifier)
    (call : Call) : venue.Outcome call ((call.verdict venue).enact venue).2.core := by
  have hanswer := (call.obeys hsound hleft).answer_eq
  rcases (hsound.grants_change call).enact_cases venue with
    ⟨⟨error, herror⟩, hsame⟩ | ⟨⟨answer, hok⟩, ⟨hidle, hsame⟩ | hchange⟩
  · exact .refused (hanswer.trans herror) (congrArg core hsame)
  · exact .idle (hanswer.trans hok) hidle hsame
  · exact .changed (hanswer.trans hok) hchange

end Venue

namespace Operation

variable {α β : Type}

/-- An operation changes nothing of the core. -/
def Still (operation : Operation α) : Prop :=
  ∀ venue : Venue, (venue.run operation).2.core = venue.core

end Operation

namespace Venue

open Operation

variable {α β : Type} {venue : Venue} {operation : Operation α} {rest : α → Operation β}

theorem core_bind (hrest : ∀ value, Still (rest value)) :
    (venue.run (operation >>= rest)).2.core = (venue.run operation).2.core := by
  cases hrun : venue.run operation with
  | mk answer middle =>
      cases answer with
      | ok value => rw [run_bind hrun, hrest value middle]
      | error error => rw [run_bind_error hrun]

end Venue

namespace Operation.Still

variable {α β : Type} {operation : Operation α} {rest : α → Operation β}

theorem pure (value : α) : Still (pure value) := fun _ => rfl

theorem throw (error : RoomError) : Still (throw error : Operation α) := fun _ => rfl

theorem get : Still get := fun _ => rfl

theorem note (level : Level) (text : String) (origin : Origin) :
    Still (note level text origin) := fun _ => rfl

theorem bind (hfirst : Still operation) (hrest : ∀ value, Still (rest value)) :
    Still (operation >>= rest) :=
  fun venue => (Venue.core_bind hrest).trans (hfirst venue)

end Operation.Still

namespace Venue

open Operation

theorem still_findRoom (number : RoomId) : Still (findRoom number) := by
  apply Still.get.bind
  intro venue
  cases venue.lobby.liveRoom? number with
  | some room => exact .pure room
  | none => exact .throw _

end Venue

/-! ## What steps come to -/

namespace Step

/-- The call that a step makes, as such or by way of a connection. -/
def call? (venue : Venue) : Step → Option Call
  | .ask call => some call
  | .order handle command => some (command.call handle)
  | .say handle text =>
    match (ClientMessage.read? text).map ClientMessage.toCommand with
    | some (.ok command) => some (command.call handle)
    | _ => none
  | .close handle =>
    if handle.isLast venue.lobby then some (.leave handle.room handle.user.id) else none
  | _ => none

theorem call?_say (venue : Venue) (handle : ConnectionHandle) (text : String) :
    (Step.say handle text).call? venue = (RoomCommand.read? text).map (·.call handle) := by
  rw [call?, RoomCommand.read?]
  cases ClientMessage.read? text with
  | none => rfl
  | some message =>
      rw [Option.map_some, Option.bind_some]
      cases message.toCommand <;> rfl

/-- What a step does with the topics by way of listening. -/
def listens : Step → List (Topics.Act RoomEvent)
  | .subscribe room => [.subscribe room]
  | .connect room _ => [.subscribe room]
  | .unsubscribe subscription => [.unsubscribe subscription]
  | .receive subscription limit => [.receive subscription limit]
  | _ => []

/-- Whoever makes a call does not listen. -/
theorem listens_of_call? {venue : Venue} {step : Step} {call : Call}
    (hcall : step.call? venue = some call) : step.listens = [] := by
  cases step <;> first | rfl | cases hcall

end Step

/-- Whoever has a user's number later had it before, or the number is handed out in the meantime. -/
def Store.GrantsUsers (store later : Store) : Prop :=
  ∀ id, later.users.contains id = true → store.users.contains id = true ∨ store.lastId < id

theorem Store.GrantsUsers.of_eq {store later : Store} (husers : later.users = store.users) :
    store.GrantsUsers later := fun _ hlater => .inl (husers ▸ hlater)

/-- What happens without a change of rooms: other rows may be added, and some may listen. -/
structure Core.Quiet (core : Core) (acts : List (Topics.Act RoomEvent)) (next : Core) : Prop where
  rooms : next.store.rooms = core.store.rooms
  participants : next.store.participants = core.store.participants
  messages : next.store.messages = core.store.messages
  users : core.store.GrantsUsers next.store
  counted : core.store.lastId ≤ next.store.lastId
  rules : next.rules = core.rules
  states : next.states = core.states
  topics : next.topics = core.topics.follow acts

theorem Core.Quiet.refl (core : Core) : core.Quiet [] core :=
  ⟨rfl, rfl, rfl, .of_eq rfl, Int.le_refl _, rfl, rfl, rfl⟩

theorem Core.Quiet.of_topics (core : Core) (acts : List (Topics.Act RoomEvent)) :
    core.Quiet acts { core with topics := core.topics.follow acts } :=
  ⟨rfl, rfl, rfl, .of_eq rfl, Int.le_refl _, rfl, rfl, rfl⟩

/-- What comes from outside adds rows at most. -/
theorem Circumstance.quiet {venue : Venue} (hsound : venue.Sound)
    (hleft : venue.store.lastId < maxIdentifier) (circumstance : Circumstance) :
    venue.core.Quiet [] (circumstance.change venue).core := by
  have hfresh := hsound.numbered.lt_nextId hleft
  have hcount := Int.le_of_lt hfresh
  cases circumstance with
  | addUser username displayName =>
      refine ⟨rfl, rfl, rfl, fun id hid => ?_, hcount, rfl, rfl, rfl⟩
      obtain ⟨user, huser⟩ := Option.isSome_iff_exists.mp hid
      rcases IdMap.of_get?_insert huser with ⟨rfl, -⟩ | hold
      · exact .inr hfresh
      · exact .inl (IdMap.contains_of_get? hold)
  | addContent title duration => exact ⟨rfl, rfl, rfl, .of_eq rfl, hcount, rfl, rfl, rfl⟩
  | addSession user token expiresAt =>
      rw [change, Database.callStore, Database.seed]
      rcases venue.store.addSession_cases user token expiresAt with ⟨_, hcall⟩ | ⟨session, hcall⟩
      · rw [hcall]
        exact .refl _
      · rw [hcall]
        exact ⟨rfl, rfl, rfl, .of_eq rfl, hcount, rfl, rfl, rfl⟩
  | setFailing failing => exact ⟨rfl, rfl, rfl, .of_eq rfl, Int.le_refl _, rfl, rfl, rfl⟩
  | setTime now => exact ⟨rfl, rfl, rfl, .of_eq rfl, Int.le_refl _, rfl, rfl, rfl⟩

namespace Venue

open Operation

variable {venue : Venue}

theorem run_get (venue : Venue) : venue.run get = (.ok venue, venue) := rfl

theorem Sound.run_findRoom (hsound : venue.Sound) (number : RoomId) :
    venue.run (findRoom number) =
      ((venue.lobby.rooms.get? number).elim (.error .roomNotFound) .ok, venue) := by
  rw [findRoom, run_bind (run_get venue), hsound.liveRoom?_eq]
  cases venue.lobby.rooms.get? number <;> rfl

/-- Who subscribes to a room that is there is given the next number. -/
theorem Sound.run_subscribe (hsound : venue.Sound) {number : RoomId} {room : Room}
    (hroom : venue.lobby.rooms.get? number = some room) :
    venue.run (subscribe number) = (.ok venue.lobby.topics.nextSubscription,
      venue.withLobby
        { venue.lobby with topics := (venue.lobby.topics.subscribe number).2 }) := by
  have hopen : venue.lobby.topics.isOpen number = true := by
    rw [hsound.lobby.topics]
    exact IdMap.contains_of_get? hroom
  have hfind : venue.run (findRoom number) = (.ok room, venue) := by
    rw [hsound.run_findRoom, hroom]
    rfl
  have htopics : (venue.lobby.topics.subscribe number).1 =
      some venue.lobby.topics.nextSubscription := by
    rw [Topics.subscribe, if_pos hopen]
  have hsubscribe : venue.run (modifyGet fun venue =>
      ((venue.lobby.topics.subscribe number).1,
        { venue with
          lobby := { venue.lobby with topics := (venue.lobby.topics.subscribe number).2 } })) =
      (.ok (some venue.lobby.topics.nextSubscription),
        venue.withLobby
          { venue.lobby with topics := (venue.lobby.topics.subscribe number).2 }) := by
    rw [← htopics]
    rfl
  rw [subscribe, run_bind hfind]
  exact run_bind hsubscribe

/-- A room that is not there cannot be subscribed to. -/
theorem Sound.run_subscribe_error (hsound : venue.Sound) {number : RoomId}
    (hroom : venue.lobby.rooms.get? number = none) :
    venue.run (subscribe number) = (.error .roomNotFound, venue) := by
  have hfind : venue.run (findRoom number) = (.error .roomNotFound, venue) := by
    rw [hsound.run_findRoom, hroom]
    rfl
  rw [subscribe, run_bind_error hfind]

theorem Sound.core_subscribe (hsound : venue.Sound) (number : RoomId) :
    (venue.run (subscribe number)).2.core =
      { venue.core with topics := (venue.lobby.topics.subscribe number).2 } := by
  cases hroom : venue.lobby.rooms.get? number with
  | none =>
      have hclosed : venue.lobby.topics.isOpen number = false := by
        rw [hsound.lobby.topics, IdMap.contains_eq_isSome, hroom]
        rfl
      rw [hsound.run_subscribe_error hroom, Topics.subscribe, hclosed]
      rfl
  | some room =>
      rw [hsound.run_subscribe hroom]
      rfl

theorem Sound.core_connect (hsound : venue.Sound) (number : RoomId) (user : User) :
    (venue.run (connect number user)).2.core =
      { venue.core with topics := (venue.lobby.topics.subscribe number).2 } := by
  rw [← hsound.core_subscribe]
  apply core_bind
  intro subscription
  apply Still.bind
  · exact fun _ => rfl
  · exact fun _ => (Still.note _ _ _).bind fun _ => .pure _

theorem Sound.core_restore (hsound : venue.Sound) : (venue.run restore).2.core = venue.core := by
  rw [hsound.leads_restore.core_eq, core, core, Venue.withLobby, Lobby.rules_hostAll,
    hsound.states_restore, hsound.topics_restore]

/-- No room has the next number. -/
theorem Sound.get?_nextId (hsound : venue.Sound) (hleft : venue.store.lastId < maxIdentifier) :
    venue.lobby.states.get? venue.store.nextId = none :=
  hsound.numbered.get?_nextId hleft fun number _ hstate =>
    hsound.numbered.rooms number (hsound.describes.contains_room hstate)

/-- Closing a connection is leaving, if it was the last one, and else changes no room. -/
theorem Sound.core_close (hsound : venue.Sound) (handle : ConnectionHandle) :
    (venue.run handle.close).2.core =
      if handle.isLast venue.lobby then
        (((Call.leave handle.room handle.user.id).verdict venue).enact venue).2.core
      else venue.core := by
  rw [(hsound.leads_close handle).core_eq, Call.verdict, enact_map]
  split <;> rfl

/-- A step that makes a call comes to its verdict, as far as rooms are concerned. -/
theorem Sound.core_take (hsound : venue.Sound) (hleft : venue.store.lastId < maxIdentifier)
    {step : Step} {call : Call} (hcall : step.call? venue = some call) :
    (step.take venue).core = ((call.verdict venue).enact venue).2.core := by
  cases step with
  | ask call =>
      cases hcall
      exact (hsound.leads_call hleft call).core_eq
  | order handle command =>
      cases hcall
      exact (hsound.leads_handle hleft handle command).core_eq
  | say handle text =>
      rw [Step.call?_say] at hcall
      obtain ⟨command, hread, rfl⟩ := Option.map_eq_some_iff.mp hcall
      exact (hsound.leads_handleText hleft hread).core_eq
  | close handle =>
      rw [Step.call?] at hcall
      obtain ⟨hlast, hleave⟩ := Option.ite_none_right_eq_some.mp hcall
      cases hleave
      exact (hsound.core_close handle).trans (if_pos hlast)
  | _ => cases hcall

/-- A step that makes a call comes to what becomes of the call. -/
theorem Sound.take_call (hsound : venue.Sound) (hleft : venue.store.lastId < maxIdentifier)
    {step : Step} {call : Call} (hcall : step.call? venue = some call) :
    venue.Outcome call (step.take venue).core := by
  rw [hsound.core_take hleft hcall]
  exact hsound.outcome hleft call

/-- A step that makes no call touches only those who listen, unless something comes from outside or
starts over. -/
theorem Sound.core_take_none (hsound : venue.Sound) {step : Step}
    (hcall : step.call? venue = none) (hinside : ∀ circumstance, step ≠ .alter circumstance)
    (hsame : ∀ rules, step ≠ .restart rules) :
    (step.take venue).core =
      { venue.core with topics := venue.core.topics.follow step.listens } := by
  cases step with
  | ask call => cases hcall
  | alter circumstance => exact absurd rfl (hinside circumstance)
  | subscribe room => exact hsound.core_subscribe room
  | unsubscribe subscription => rfl
  | receive subscription limit => rfl
  | connect room user => exact hsound.core_connect room user
  | order handle command => cases hcall
  | say handle text =>
      rw [Step.call?_say, Option.map_eq_none_iff] at hcall
      obtain ⟨_, hleads⟩ := leads_handleText_none venue handle hcall
      exact hleads.core_eq
  | close handle =>
      rw [Step.call?] at hcall
      split at hcall
      · cases hcall
      · rename_i hlast
        exact (hsound.core_close handle).trans (if_neg hlast)
  | abandon handle => exact (leads_abandon venue handle).core_eq
  | restore => exact hsound.core_restore
  | restart rules => exact absurd rfl (hsame rules)

/-- A step that makes no call changes no room, unless it starts over. -/
theorem Sound.take_quiet (hsound : venue.Sound) (hleft : venue.store.lastId < maxIdentifier)
    {step : Step} (hcall : step.call? venue = none) (hsame : ∀ rules, step ≠ .restart rules) :
    venue.core.Quiet step.listens (step.take venue).core := by
  cases step with
  | alter circumstance => exact circumstance.quiet hsound hleft
  | _ =>
      rw [hsound.core_take_none hcall nofun hsame]
      exact .of_topics _ _

/-- A step that does not start over makes the change of its call, which is granted, or changes no
room. -/
theorem Sound.take_cases (hsound : venue.Sound) (hleft : venue.store.lastId < maxIdentifier)
    {step : Step} (hsame : ∀ rules, step ≠ .restart rules) :
    (∃ call answer, step.call? venue = some call ∧ (venue.run call.operation).1 = .ok answer ∧
      venue.core.Change call (step.take venue).core) ∨
    venue.core.Quiet step.listens (step.take venue).core := by
  cases hcall : step.call? venue with
  | none => exact .inr (hsound.take_quiet hleft hcall hsame)
  | some call =>
      have hlistens := Step.listens_of_call? hcall
      cases hsound.take_call hleft hcall with
      | refused _ hsame => exact .inr (by rw [hlistens, hsame]; exact .refl _)
      | idle _ _ hsame => exact .inr (by rw [hlistens, hsame]; exact .refl _)
      | changed hanswer hchange => exact .inl ⟨call, _, rfl, hanswer, hchange⟩

/-- Starting over leaves rooms and rows as they are. -/
theorem Sound.take_restart (hsound : venue.Sound) (rules : Rules) :
    ((Step.restart rules).take venue).store = venue.store ∧
      ((Step.restart rules).take venue).lobby.states = venue.lobby.states := by
  have hleads := hsound.leads_restart rules
  constructor
  · show ((venue.run _).2.database).store = _
    rw [hleads.database_eq]
    rfl
  · show (venue.run _).2.lobby.states = _
    rw [hleads.lobby_eq]
    exact hsound.states_restart rules _

end Venue

end WatchParty
