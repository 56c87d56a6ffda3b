/-
# Connections and those who hold them

Closing a connection takes that connection off the register and no other. It goes on to let the user
leave if no other connection of the user to the room is registered, and then it does what leaving
does, or nothing if leaving is refused. Nothing else that happens touches the register, except that
connections are opened, are lost, and are all gone when a new system starts.

Who holds a handle is known from outside only. The handles that were given out in a run and not
closed are therefore followed beside the run, and the register holds exactly these.
-/

import WatchParty.Proofs.Change

namespace WatchParty

open Operation Verdict

namespace ConnectionHandle

/-- A handle is of a registered connection of its user to its room. -/
def Registered (lobby : Lobby) (handle : ConnectionHandle) : Prop :=
  ∃ connection, lobby.connections.get? handle.id = some connection ∧
    connection.room = handle.room ∧ connection.user = handle.user.id

/-- Another connection of the same user to the same room is registered. -/
def HasAnother (lobby : Lobby) (handle : ConnectionHandle) : Prop :=
  ∃ id, id ≠ handle.id ∧ { handle with id }.Registered lobby

variable {lobby : Lobby} {handle : ConnectionHandle}

theorem Registered.contains (hregistered : handle.Registered lobby) :
    lobby.connections.contains handle.id = true := by
  obtain ⟨connection, hget, -⟩ := hregistered
  exact IdMap.contains_of_get? hget

/-- A registered connection is the last one if there is no other. -/
theorem isLast_iff (hcontains : lobby.connections.contains handle.id = true) :
    handle.isLast lobby = true ↔ ¬ handle.HasAnother lobby := by
  have hconnected : { lobby with
      connections := lobby.connections.erase handle.id }.isConnected handle.room handle.user.id =
        true ↔ handle.HasAnother lobby := by
    simp only [Lobby.isConnected, List.any_eq_true, IdMap.mem_values, IdMap.get?_erase,
      Bool.and_eq_true, beq_iff_eq]
    constructor
    · rintro ⟨connection, ⟨id, hget⟩, hmatch⟩
      split at hget
      · cases hget
      · rename_i hne
        exact ⟨id, hne, connection, hget, hmatch⟩
    · rintro ⟨id, hne, connection, hget, hmatch⟩
      exact ⟨connection, ⟨id, (if_neg hne).trans hget⟩, hmatch⟩
  rw [isLast, hcontains, Bool.true_and, Bool.not_eq_true', ← hconnected, Bool.not_eq_true]

end ConnectionHandle

namespace Venue

/-- A user is a participant of a live room. -/
def Seats (venue : Venue) (number : RoomId) (user : UserId) : Prop :=
  ∃ room, venue.lobby.liveRoom? number = some room ∧ room.state.presence.contains user = true

variable {venue : Venue}

namespace Sound

variable (hsound : venue.Sound)

include hsound

theorem seats_iff {number : RoomId} {user : UserId} :
    venue.Seats number user ↔ ∃ state, venue.lobby.states.get? number = some state ∧
      state.presence.contains user = true := by
  rw [Seats, hsound.liveRoom?_eq]
  constructor
  · rintro ⟨room, hroom, hmember⟩
    exact ⟨room.state, Lobby.states_get? hroom, hmember⟩
  · rintro ⟨state, hstate, hmember⟩
    obtain ⟨room, hroom, rfl⟩ := Lobby.exists_room hstate
    exact ⟨room, hroom, hmember⟩

/-- Leaving changes nothing unless a participant leaves a live room while rows can be written. -/
theorem enact_leaveVerdict_of_not {number : RoomId} {user : UserId}
    (hidle : ¬ (venue.Seats number user ∧ venue.store.failing = false)) :
    ((venue.leaveVerdict number user).enact venue).2 = venue := by
  rw [Venue.leaveVerdict, withRoom]
  cases hroom : venue.lobby.rooms.get? number with
  | none => rfl
  | some room =>
      dsimp only
      by_cases hmember : room.state.presence.contains user = true
      · have hseats : venue.Seats number user :=
          ⟨room, (hsound.liveRoom?_eq number).trans hroom, hmember⟩
        have hfailing : venue.store.failing = true := by
          simpa [hseats] using hidle
        rw [if_pos hmember, enact_failing hfailing]
      · rw [if_neg hmember]
        rfl

/-- A participant who leaves is gone, and the room is if nobody else was there. -/
theorem enact_leaveVerdict_of_seats {number : RoomId} {user : UserId} {state : RoomState}
    (hstate : venue.lobby.states.get? number = some state)
    (hmember : state.presence.contains user = true) (hwritable : venue.store.failing = false) :
    ((venue.leaveVerdict number user).enact venue).1 = .ok () ∧
    ((venue.leaveVerdict number user).enact venue).2.lobby.states.get? number =
      if state.presence.roster.dismiss user = [] then none else some (state.release user) := by
  obtain ⟨room, hroom, rfl⟩ := Lobby.exists_room hstate
  have hid := hsound.room_id hroom
  rw [Venue.leaveVerdict, withRoom, hroom]
  dsimp only
  rw [if_pos hmember, enact_writable hwritable]
  refine ⟨rfl, ?_⟩
  dsimp only
  by_cases hlast : room.state.presence.roster.dismiss user = []
  · rw [if_pos (RoomState.deleted_release.mpr hlast), if_pos hlast]
    show (Core.states (venue.dissolve room _ _).core).get? number = none
    rw [core_dissolve, hid, IdMap.get?_erase, if_pos rfl]
  · rw [if_neg (mt RoomState.deleted_release.mp hlast), if_neg hlast]
    show (Core.states (venue.settle room _ _).core).get? number = _
    rw [core_settle, hid, IdMap.get?_insert_self]

end Sound

end Venue

/-! ## The register -/

namespace Lobby

/-- No connection was opened, closed or lost between two lobbies. -/
structure SameConnections (lobby next : Lobby) : Prop where
  connections : next.connections = lobby.connections
  nextConnection : next.nextConnection = lobby.nextConnection

/-- The register of connections is that of some handles, and later ones get later numbers. -/
structure Registers (lobby : Lobby) (held : List ConnectionHandle) : Prop where
  /-- The registered numbers are those of the handles, in the order in which they were given. -/
  keys : lobby.connections.keys = held.map (·.id)
  registered : ∀ handle ∈ held, handle.Registered lobby
  numbered : ∀ handle ∈ held, handle.id < lobby.nextConnection

variable {lobby next : Lobby} {held : List ConnectionHandle}

theorem SameConnections.trans {middle : Lobby} (hfirst : lobby.SameConnections middle)
    (hsecond : middle.SameConnections next) : lobby.SameConnections next :=
  ⟨hsecond.connections.trans hfirst.connections,
    hsecond.nextConnection.trans hfirst.nextConnection⟩

theorem sameConnections_hostAll (lobby : Lobby) (states : List RoomState) :
    lobby.SameConnections (lobby.hostAll states) := by
  induction states generalizing lobby with
  | nil => exact ⟨rfl, rfl⟩
  | cons state rest ih =>
      have hhost : lobby.SameConnections (lobby.host state) := ⟨rfl, rfl⟩
      exact hhost.trans (ih (lobby.host state))

namespace Registers

theorem opening (rules : Rules) (nextConnection : ConnectionId) :
    (Lobby.opening rules nextConnection).Registers [] :=
  ⟨rfl, fun _ hmem => (nomatch hmem), fun _ hmem => (nomatch hmem)⟩

theorem congr (hregisters : lobby.Registers held) (hsame : lobby.SameConnections next) :
    next.Registers held where
  keys := by
    rw [hsame.connections]
    exact hregisters.keys
  registered := fun handle hmem => by
    rw [ConnectionHandle.Registered, hsame.connections]
    exact hregisters.registered handle hmem
  numbered := fun handle hmem => by
    rw [hsame.nextConnection]
    exact hregisters.numbered handle hmem

/-- Handles have different numbers. -/
theorem nodup (hregisters : lobby.Registers held) : (held.map (·.id)).Nodup := by
  rw [← hregisters.keys]
  exact lobby.connections.nodup_keys

theorem contains_iff (hregisters : lobby.Registers held) {id : ConnectionId} :
    lobby.connections.contains id = true ↔ ∃ handle ∈ held, handle.id = id := by
  rw [← IdMap.mem_keys, hregisters.keys, List.mem_map]

/-- A new connection is registered under the next number, for a new handle. -/
theorem connect (hregisters : lobby.Registers held) {handle : ConnectionHandle}
    (hid : handle.id = lobby.nextConnection) {connection : Connection}
    (hroom : connection.room = handle.room) (huser : connection.user = handle.user.id)
    (hconnections : next.connections = lobby.connections.insert handle.id connection)
    (hnext : next.nextConnection = lobby.nextConnection + 1) :
    next.Registers (held ++ [handle]) where
  keys := by
    have hlast : ∀ other ∈ lobby.connections.keys, other < handle.id := by
      intro other hother
      rw [hregisters.keys] at hother
      obtain ⟨older, holder, rfl⟩ := List.mem_map.mp hother
      exact hid ▸ hregisters.numbered older holder
    rw [hconnections, IdMap.keys_insert_of_lt hlast, hregisters.keys, List.map_append]
    rfl
  registered := fun other hmem => by
    rw [ConnectionHandle.Registered, hconnections]
    rcases List.mem_append.mp hmem with hold | hnew
    · obtain ⟨found, hget, hmatch⟩ := hregisters.registered other hold
      have hne : other.id ≠ handle.id := hid ▸ Int.ne_of_lt (hregisters.numbered other hold)
      exact ⟨found, by rw [IdMap.get?_insert, if_neg hne, hget], hmatch⟩
    · obtain rfl := List.mem_singleton.mp hnew
      exact ⟨connection, IdMap.get?_insert_self _ _ _, hroom, huser⟩
  numbered := fun other hmem => by
    rw [hnext]
    rcases List.mem_append.mp hmem with hold | hnew
    · exact Int.lt_add_one_of_le (Int.le_of_lt (hregisters.numbered other hold))
    · obtain rfl := List.mem_singleton.mp hnew
      exact hid ▸ Int.lt_succ _

/-- A connection that is taken off leaves those with other numbers. -/
theorem erase (hregisters : lobby.Registers held) (id : ConnectionId)
    (hconnections : next.connections = lobby.connections.erase id)
    (hnext : next.nextConnection = lobby.nextConnection) :
    next.Registers (held.filter (·.id ≠ id)) where
  keys := by
    rw [hconnections, IdMap.keys_erase, hregisters.keys, List.filter_map]
    rfl
  registered := fun handle hmem => by
    obtain ⟨hheld, hne⟩ := List.mem_filter.mp hmem
    obtain ⟨found, hget, hmatch⟩ := hregisters.registered handle hheld
    rw [ConnectionHandle.Registered, hconnections]
    exact ⟨found, by rw [IdMap.get?_erase, if_neg (of_decide_eq_true hne), hget], hmatch⟩
  numbered := fun handle hmem => by
    rw [hnext]
    exact hregisters.numbered handle (List.mem_filter.mp hmem).1

end Registers

end Lobby

/-- No call touches the connections. -/
theorem Call.grants_sameConnections (venue : Venue) (call : Call) :
    (call.verdict venue).Grants fun next => venue.lobby.SameConnections next.lobby := by
  cases call with
  | createRoom user content title =>
      apply Grants.map
      apply grants_withUser
      intro owner _
      cases venue.store.contents.get? content with
      | none => exact trivial
      | some content => exact ⟨rfl, rfl⟩
  | join number user =>
      apply Grants.map
      apply grants_withRoom
      intro room _
      apply grants_withUser
      intro account _
      exact grants_ite (fun _ => ⟨rfl, rfl⟩) fun _ => ⟨rfl, rfl⟩
  | leave number user =>
      apply Grants.map
      apply grants_withRoom
      intro room _
      apply grants_ite
      · intro _
        show venue.lobby.SameConnections (if _ then _ else _ : Venue).lobby
        split <;> exact ⟨rfl, rfl⟩
      · exact fun _ => ⟨rfl, rfl⟩
  | control number user command =>
      apply Grants.map
      apply grants_withRoom
      intro room _
      apply grants_withUser
      intro _ _
      apply grants_withMember
      intro _
      apply grants_ite
      · exact fun _ => grants_ite (fun _ => ⟨rfl, rfl⟩) fun _ => ⟨rfl, rfl⟩
      · exact fun _ => trivial
  | chat number user content =>
      apply Grants.map
      apply grants_withRoom
      intro room _
      cases Room.checkMessage venue.lobby.rules content with
      | error error => exact trivial
      | ok text =>
          apply grants_withMember
          intro _
          apply grants_withUser
          exact fun _ _ => ⟨rfl, rfl⟩
  | messages number user =>
      apply Grants.map
      apply grants_withRoom
      intro room _
      apply grants_withMember
      exact fun _ => ⟨rfl, rfl⟩

namespace Venue

variable {venue : Venue}

/-- Whoever connects to a room that is there is given the next number. -/
theorem Sound.run_connect (hsound : venue.Sound) {number : RoomId} {room : Room}
    (hroom : venue.lobby.rooms.get? number = some room) (user : User) :
    ∃ subscription journal, venue.run (connect number user) =
      (.ok (⟨venue.lobby.nextConnection, number, user⟩, subscription),
        { venue.withLobby
          { venue.lobby with
            topics := (venue.lobby.topics.subscribe number).2
            connections := venue.lobby.connections.insert venue.lobby.nextConnection
              { room := number, user := user.id, connectedAt := venue.now }
            nextConnection := venue.lobby.nextConnection + 1 } with journal }) := by
  rw [connect, run_bind (hsound.run_subscribe hroom)]
  exact ⟨_, _, rfl⟩

/-- Nobody can connect to a room that is not there. -/
theorem Sound.run_connect_error (hsound : venue.Sound) {number : RoomId}
    (hroom : venue.lobby.rooms.get? number = none) (user : User) :
    venue.run (connect number user) = (.error .roomNotFound, venue) := by
  rw [connect, run_bind_error (hsound.run_subscribe_error hroom)]

/-- What comes to the verdict on a call leaves the connections. -/
theorem Leads.sameConnections {α : Type} {operation : Operation α} {answer : Except RoomError α}
    {call : Call} (hleads : venue.Leads operation answer ((call.verdict venue).enact venue).2) :
    venue.lobby.SameConnections (venue.run operation).2.lobby := by
  rw [hleads.lobby_eq]
  exact (call.grants_sameConnections venue).enact ⟨rfl, rfl⟩

end Venue

/-- Whether a step may open, close or lose connections. -/
def Step.connects : Step → Bool
  | .connect _ _ => true
  | .close _ => true
  | .abandon _ => true
  | .restart _ => true
  | _ => false

/-- All other steps leave the connections. -/
theorem Venue.Sound.sameConnections_take {venue : Venue} (hsound : venue.Sound)
    (hleft : venue.store.lastId < maxIdentifier) {step : Step} (hconnects : step.connects = false) :
    venue.lobby.SameConnections (step.take venue).lobby := by
  cases step with
  | ask call => exact (hsound.leads_call hleft call).sameConnections
  | alter circumstance => cases circumstance <;> exact ⟨rfl, rfl⟩
  | subscribe room =>
      rw [Step.take]
      cases hroom : venue.lobby.rooms.get? room with
      | none =>
          rw [hsound.run_subscribe_error hroom]
          exact ⟨rfl, rfl⟩
      | some found =>
          rw [hsound.run_subscribe hroom]
          exact ⟨rfl, rfl⟩
  | unsubscribe | receive => exact ⟨rfl, rfl⟩
  | order handle command => exact (hsound.leads_handle hleft handle command).sameConnections
  | say handle text =>
      cases hread : RoomCommand.read? text with
      | some command => exact (hsound.leads_handleText hleft hread).sameConnections
      | none =>
          obtain ⟨_, hleads⟩ := leads_handleText_none venue handle hread
          rw [Step.take, hleads.lobby_eq]
          exact ⟨rfl, rfl⟩
  | restore =>
      rw [Step.take, hsound.leads_restore.lobby_eq]
      exact Lobby.sameConnections_hostAll _ _
  | connect | close | abandon | restart => cases hconnects

/-- Closing a connection takes it off, and that is all that becomes of the connections. -/
theorem Venue.Sound.connections_close {venue : Venue} (hsound : venue.Sound)
    (handle : ConnectionHandle) :
    ((Step.close handle).take venue).lobby.connections =
        venue.lobby.connections.erase handle.id ∧
      ((Step.close handle).take venue).lobby.nextConnection = venue.lobby.nextConnection := by
  rw [Step.take, (hsound.leads_close handle).lobby_eq]
  refine ⟨rfl, ?_⟩
  have hsame := ((Call.leave handle.room handle.user.id).grants_sameConnections venue).enact
    ⟨rfl, rfl⟩
  rw [Call.verdict, enact_map] at hsame
  cases handle.isLast venue.lobby with
  | true => exact hsame.nextConnection
  | false => rfl

/-- The handles that are held after a step, if some were held before: a new one is given out for a
new connection, one is given back when its connection is closed or lost, and a new system knows
none. -/
def Step.holding (venue : Venue) (held : List ConnectionHandle) : Step → List ConnectionHandle
  | .connect room user =>
    match (venue.run (Venue.connect room user)).1 with
    | .ok (handle, _) => held ++ [handle]
    | .error _ => held
  | .close handle => held.filter (·.id ≠ handle.id)
  | .abandon handle => held.filter (·.id ≠ handle.id)
  | .restart _ => []
  | _ => held

/-- The handles that are held after some steps. -/
def Venue.handles (venue : Venue) (held : List ConnectionHandle) :
    List Step → List ConnectionHandle
  | [] => held
  | step :: rest => (step.take venue).handles (step.holding venue held) rest

namespace Lobby.Registers

variable {venue : Venue} {held : List ConnectionHandle}
  (hregisters : venue.lobby.Registers held)

include hregisters

variable (hsound : venue.Sound) (hleft : venue.store.lastId < maxIdentifier)

include hsound hleft

/-- The register holds the handles that are held, whatever happens. -/
theorem take (step : Step) :
    (step.take venue).lobby.Registers (step.holding venue held) := by
  cases step with
  | connect room user =>
      rw [Step.take, Step.holding]
      cases hroom : venue.lobby.rooms.get? room with
      | none =>
          rw [hsound.run_connect_error hroom]
          exact hregisters
      | some found =>
          obtain ⟨subscription, journal, hrun⟩ := hsound.run_connect hroom user
          rw [hrun]
          exact hregisters.connect rfl rfl rfl rfl rfl
  | close handle =>
      obtain ⟨hconnections, hnext⟩ := hsound.connections_close handle
      exact hregisters.erase handle.id hconnections hnext
  | abandon handle =>
      show (venue.run handle.abandon).2.lobby.Registers (held.filter (·.id ≠ handle.id))
      rw [(Venue.leads_abandon venue handle).lobby_eq]
      exact hregisters.erase handle.id rfl rfl
  | restart rules =>
      show (venue.run _).2.lobby.Registers []
      rw [(hsound.leads_restart rules).lobby_eq]
      exact (Registers.opening rules _).congr (Lobby.sameConnections_hostAll _ _)
  | _ => exact hregisters.congr (hsound.sameConnections_take hleft rfl)

omit hleft

/-- So it is after every run. -/
theorem follow {steps : List Step} (hlasts : venue.Lasts steps) :
    (venue.follow steps).lobby.Registers (venue.handles held steps) := by
  induction steps generalizing venue held with
  | nil => exact hregisters
  | cons step rest ih =>
      exact ih (hregisters.take hsound hlasts.1 step) (hsound.take hlasts.1 step) hlasts.2

end Lobby.Registers

namespace Venue

variable {venue : Venue}

/-! ## The last disconnect -/

/-- What becomes of a registered connection that is closed. It is taken off, and the user leaves if
it was the last one to a live room with the user in it and rows can be written. Apart from that only
the journal changes. -/
structure Disconnects (venue : Venue) (handle : ConnectionHandle) : Prop where
  /-- While another connection is registered nothing else happens. -/
  another : handle.HasAnother venue.lobby →
    venue.Leads handle.close (.ok ())
      (venue.withConnections (venue.lobby.connections.erase handle.id))
  /-- The user leaves, as when leaving is asked for, and is gone. -/
  leaves : ¬ handle.HasAnother venue.lobby →
    venue.Seats handle.room handle.user.id → venue.store.failing = false →
    ∃ left, venue.Leads (leave handle.room handle.user.id) (.ok ()) left ∧
      venue.Leads handle.close (.ok ())
        (left.withConnections (venue.lobby.connections.erase handle.id)) ∧
      ¬ left.Seats handle.room handle.user.id ∧
      (left.lobby.liveRoom? handle.room = none ↔
        ∀ user, venue.Seats handle.room user → user = handle.user.id) ∧
      left.store.rooms.contains handle.room = (left.lobby.liveRoom? handle.room).isSome
  /-- Where there is nobody to leave, or leaving is refused, nothing else happens. -/
  stays : ¬ handle.HasAnother venue.lobby →
    ¬ (venue.Seats handle.room handle.user.id ∧ venue.store.failing = false) →
    venue.Leads handle.close (.ok ())
      (venue.withConnections (venue.lobby.connections.erase handle.id))

namespace Sound

variable (hsound : venue.Sound)

include hsound

theorem liveRoom?_eq_none {number : RoomId} :
    venue.lobby.liveRoom? number = none ↔ venue.lobby.states.get? number = none := by
  rw [hsound.liveRoom?_eq, Lobby.states, IdMap.get?_mapValues, Option.map_eq_none_iff]

theorem disconnects {handle : ConnectionHandle} (hregistered : handle.Registered venue.lobby) :
    venue.Disconnects handle := by
  have hcontains := hregistered.contains
  have hclose := hsound.leads_close handle
  constructor
  · intro hanother
    have hlast : handle.isLast venue.lobby = false := by
      apply Bool.eq_false_iff.mpr
      intro hlast
      exact (ConnectionHandle.isLast_iff hcontains).mp hlast hanother
    rwa [hlast, if_neg Bool.false_ne_true] at hclose
  · intro hnone hseats hwritable
    rw [(ConnectionHandle.isLast_iff hcontains).mpr hnone, if_pos rfl] at hclose
    obtain ⟨state, hstate, hmember⟩ := hsound.seats_iff.mp hseats
    obtain ⟨hanswer, hstates⟩ := hsound.enact_leaveVerdict_of_seats hstate hmember hwritable
    have hleave := hsound.obeys_leaveRoom handle.room handle.user.id
    have hnext : ((venue.leaveVerdict handle.room handle.user.id).enact venue).2.Sound :=
      (hsound.leaveVerdict _ _).enact hsound
    rw [Obeys, hanswer] at hleave
    refine ⟨_, hleave, hclose, ?_, ?_, ?_⟩
    · rw [hnext.seats_iff, hstates]
      rintro ⟨later, hlater, hstill⟩
      split at hlater
      · cases hlater
      · cases hlater
        exact (Presence.contains_leave.mp hstill).2 rfl
    · have hempty : state.presence.roster.dismiss handle.user.id = [] ↔
          ∀ user, venue.Seats handle.room user → user = handle.user.id := by
        rw [Roster.dismiss_eq_nil_iff]
        simp only [hsound.seats_iff, hstate, Option.some.injEq, exists_eq_left', Presence.contains]
      rw [hnext.liveRoom?_eq_none, hstates, ← hempty]
      split
      · rename_i hlast
        exact ⟨fun _ => hlast, fun _ => rfl⟩
      · rename_i hothers
        exact ⟨fun h => absurd h (Option.some_ne_none _), fun h => absurd h hothers⟩
    · rw [hnext.describes.contains, Lobby.contains_states, hnext.liveRoom?_eq]
      rfl
  · intro hnone hidle
    rw [(ConnectionHandle.isLast_iff hcontains).mpr hnone, if_pos rfl,
      hsound.enact_leaveVerdict_of_not hidle] at hclose
    exact hclose

end Sound

/-- In every run the register holds the handles that were given out and not given back, under
different numbers, and closing any of them lets its user leave if it is the user's last one to the
room, and does nothing else. -/
theorem last_disconnect_leaves (rules : Rules) (now : Instant) (steps : List Step)
    (hlasts : (opening rules now .empty).Lasts steps) :
    let venue := (opening rules now .empty).follow steps
    let held := (opening rules now .empty).handles [] steps
    (held.map (·.id)).Nodup ∧
    (∀ id, venue.lobby.connections.contains id = true ↔ ∃ handle ∈ held, handle.id = id) ∧
    ∀ handle ∈ held, handle.Registered venue.lobby ∧ venue.Disconnects handle := by
  intro venue held
  have hopening : (opening rules now .empty).lobby.Registers [] := Lobby.Registers.opening rules 0
  have hregisters := hopening.follow (Sound.opening rules now) hlasts
  have hsound : venue.Sound := (Sound.opening rules now).follow hlasts
  refine ⟨hregisters.nodup, fun id => hregisters.contains_iff, fun handle hheld => ?_⟩
  have hregistered := hregisters.registered handle hheld
  exact ⟨hregistered, hsound.disconnects hregistered⟩

/-- A user who joined without a connection opens two and closes one. Closing the other lets the user
leave. -/
theorem meeting_last_disconnect_leaves :
    let bob : User := ⟨2, "bob", "Bob"⟩
    let steps : List Step :=
      [.alter (.addUser "ada" "Ada"), .alter (.addUser "bob" "Bob"),
        .alter (.addContent "A Film" none), .ask (.createRoom 1 3 none), .ask (.join 4 2),
        .connect 4 bob, .connect 4 bob, .close ⟨0, 4, bob⟩]
    let venue := (opening {} 0 .empty).follow steps
    (opening {} 0 .empty).Lasts steps ∧
      (opening {} 0 .empty).handles [] steps = [⟨1, 4, bob⟩] ∧
      ∃ left, venue.Leads (leave 4 2) (.ok ()) left ∧
        venue.Leads (ConnectionHandle.close ⟨1, 4, bob⟩) (.ok ()) (left.withConnections ∅) ∧
        ¬ left.Seats 4 2 := by
  intro bob steps venue
  have hlasts : (opening {} 0 .empty).Lasts steps := by decide +kernel
  have hheld : (opening {} 0 .empty).handles [] steps = [⟨1, 4, bob⟩] := by decide +kernel
  obtain ⟨-, -, hhandles⟩ := last_disconnect_leaves {} 0 steps hlasts
  obtain ⟨hregistered, hdisconnects⟩ := hhandles ⟨1, 4, bob⟩ (by rw [hheld]; exact .head _)
  have hlast : ConnectionHandle.isLast venue.lobby ⟨1, 4, bob⟩ = true := by decide +kernel
  obtain ⟨left, hleave, hclose, hgone, -⟩ := hdisconnects.leaves
    ((ConnectionHandle.isLast_iff hregistered.contains).mp hlast)
    ⟨_, rfl, by decide +kernel⟩ (by decide +kernel)
  exact ⟨hlasts, hheld, left, hleave, hclose, hgone⟩

end Venue

end WatchParty
