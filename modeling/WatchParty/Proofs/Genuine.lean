/-
# Handles that were given out

Connections are numbered on and on, also by a system that starts over. So a handle that was given
out for a connection is never taken for the handle of another one: what is registered under its
number, if anything is any more, is its connection.

Whether a connection is the last one of its user to its room then depends on the connections to the
room alone.
-/

import WatchParty.Proofs.Connections

namespace WatchParty

namespace ConnectionHandle

/-- What is registered under the number of a handle, if anything is, is its connection. -/
def Genuine (lobby : Lobby) (handle : ConnectionHandle) : Prop :=
  ∀ connection, lobby.connections.get? handle.id = some connection →
    connection.room = handle.room ∧ connection.user = handle.user.id

theorem contains_iff_registered {lobby : Lobby} {handle : ConnectionHandle}
    (hgenuine : handle.Genuine lobby) :
    lobby.connections.contains handle.id = true ↔ handle.Registered lobby := by
  rw [IdMap.contains_eq_isSome, Option.isSome_iff_exists]
  constructor
  · rintro ⟨connection, hget⟩
    exact ⟨connection, hget, hgenuine connection hget⟩
  · rintro ⟨connection, hget, -⟩
    exact ⟨connection, hget⟩

theorem isLast_iff_registered {lobby : Lobby} {handle : ConnectionHandle}
    (hgenuine : handle.Genuine lobby) :
    handle.isLast lobby = true ↔ handle.Registered lobby ∧ ¬ handle.HasAnother lobby := by
  rw [← contains_iff_registered hgenuine]
  cases hcontains : lobby.connections.contains handle.id with
  | false => simp [isLast, hcontains]
  | true => simp [isLast_iff hcontains]

end ConnectionHandle

/-- Two lobbies have the same connections to a room. -/
def Lobby.SharesConnections (first second : Lobby) (number : RoomId) : Prop :=
  ∀ id connection, connection.room = number →
    (second.connections.get? id = some connection ↔ first.connections.get? id = some connection)

namespace Lobby.SharesConnections

variable {first second third : Lobby} {number : RoomId} {handle : ConnectionHandle}

theorem symm (hshares : first.SharesConnections second number) :
    second.SharesConnections first number :=
  fun id connection hroom => (hshares id connection hroom).symm

theorem trans (hfirst : first.SharesConnections second number)
    (hsecond : second.SharesConnections third number) : first.SharesConnections third number :=
  fun id connection hroom => (hsecond id connection hroom).trans (hfirst id connection hroom)

theorem registered_iff (hshares : first.SharesConnections second handle.room) :
    handle.Registered second ↔ handle.Registered first := by
  constructor
  · rintro ⟨connection, hget, hroom, huser⟩
    exact ⟨connection, (hshares _ _ hroom).mp hget, hroom, huser⟩
  · rintro ⟨connection, hget, hroom, huser⟩
    exact ⟨connection, (hshares _ _ hroom).mpr hget, hroom, huser⟩

theorem isLast_eq (hshares : first.SharesConnections second handle.room)
    (hfirst : handle.Genuine first) (hsecond : handle.Genuine second) :
    handle.isLast second = handle.isLast first := by
  have hanother : handle.HasAnother second ↔ handle.HasAnother first :=
    exists_congr fun id => and_congr_right fun _ =>
      registered_iff (show first.SharesConnections second { handle with id }.room from hshares)
  rw [Bool.eq_iff_iff, ConnectionHandle.isLast_iff_registered hfirst,
    ConnectionHandle.isLast_iff_registered hsecond, hshares.registered_iff, hanother]

end Lobby.SharesConnections

/-- Connections are numbered on from a lobby to another: what the other has more has later
numbers. -/
structure Lobby.NumbersOn (lobby next : Lobby) : Prop where
  later : lobby.nextConnection ≤ next.nextConnection
  fresh : ∀ id connection, next.connections.get? id = some connection →
    lobby.connections.get? id = some connection ∨ lobby.nextConnection ≤ id

theorem Lobby.SameConnections.numbersOn {lobby next : Lobby} (hsame : lobby.SameConnections next) :
    lobby.NumbersOn next where
  later := Int.le_of_eq hsame.nextConnection.symm
  fresh := fun _ _ hget => .inl (hsame.connections ▸ hget)

/-- A handle has been given out: its number has, and is of no other connection. -/
structure ConnectionHandle.Issued (lobby : Lobby) (handle : ConnectionHandle) : Prop where
  numbered : handle.id < lobby.nextConnection
  genuine : handle.Genuine lobby

theorem ConnectionHandle.Issued.later {lobby next : Lobby} {handle : ConnectionHandle}
    (hissued : handle.Issued lobby) (hnumbers : lobby.NumbersOn next) : handle.Issued next where
  numbered := Int.lt_of_lt_of_le hissued.numbered hnumbers.later
  genuine := fun connection hget => by
    rcases hnumbers.fresh handle.id connection hget with hold | hnew
    · exact hissued.genuine connection hold
    · exact absurd hissued.numbered (Int.not_lt.mpr hnew)

namespace Venue

variable {venue : Venue}

/-- Connections are numbered on in every step. -/
theorem Sound.numbersOn_take (hsound : venue.Sound) (hleft : venue.store.lastId < maxIdentifier)
    (step : Step) : venue.lobby.NumbersOn (step.take venue).lobby := by
  have herase : ∀ {next : Lobby} (id : ConnectionId),
      next.connections = venue.lobby.connections.erase id →
      next.nextConnection = venue.lobby.nextConnection → venue.lobby.NumbersOn next := by
    intro next id hconnections hnext
    refine ⟨Int.le_of_eq hnext.symm, fun other connection hget => .inl ?_⟩
    rw [hconnections] at hget
    exact IdMap.of_get?_erase hget
  cases step with
  | connect room user =>
      rw [Step.take]
      cases hroom : venue.lobby.rooms.get? room with
      | none =>
          rw [hsound.run_connect_error hroom]
          exact Lobby.SameConnections.numbersOn ⟨rfl, rfl⟩
      | some found =>
          obtain ⟨subscription, journal, hrun⟩ := hsound.run_connect hroom user
          rw [hrun]
          refine ⟨Int.le_of_lt (Int.lt_succ _), fun id connection hget => ?_⟩
          rcases IdMap.of_get?_insert hget with ⟨rfl, -⟩ | hold
          · exact .inr (Int.le_refl _)
          · exact .inl hold
  | close handle =>
      obtain ⟨hconnections, hnext⟩ := hsound.connections_close handle
      exact herase handle.id hconnections hnext
  | abandon handle =>
      rw [Step.take, (leads_abandon venue handle).lobby_eq]
      exact herase handle.id rfl rfl
  | restart rules =>
      rw [Step.take, (hsound.leads_restart rules).lobby_eq]
      -- The new lobby has no connections, and numbers them on from the old one.
      have hnumbers := (Lobby.sameConnections_hostAll
        (Lobby.opening rules venue.lobby.nextConnection) venue.lobby.states.values).numbersOn
      refine ⟨hnumbers.later, fun id connection hget => ?_⟩
      rcases hnumbers.fresh id connection hget with hnone | hnew
      · cases hnone
      · exact .inr hnew
  | _ => exact (hsound.sameConnections_take hleft rfl).numbersOn

theorem Sound.issued_follow (hsound : venue.Sound) {handle : ConnectionHandle}
    (hissued : handle.Issued venue.lobby) {steps : List Step} (hlasts : venue.Lasts steps) :
    handle.Issued (venue.follow steps).lobby := by
  induction steps generalizing venue with
  | nil => exact hissued
  | cons step rest ih =>
      exact ih (hsound.take hlasts.1 step)
        (hissued.later (hsound.numbersOn_take hlasts.1 step)) hlasts.2

/-- A handle that was given out is of no other connection, whatever happens afterwards. -/
theorem Sound.genuine_of_connect (hsound : venue.Sound) {room : RoomId} {user : User}
    {handle : ConnectionHandle} {subscription : SubscriptionId}
    (hconnect : (venue.run (connect room user)).1 = .ok (handle, subscription)) {steps : List Step}
    (hlasts : venue.Lasts (.connect room user :: steps)) :
    handle.Genuine (venue.follow (.connect room user :: steps)).lobby := by
  have hissued : handle.Issued ((Step.connect room user).take venue).lobby := by
    rw [Step.take]
    cases hroom : venue.lobby.rooms.get? room with
    | none =>
        rw [hsound.run_connect_error hroom] at hconnect
        cases hconnect
    | some found =>
        obtain ⟨subscription, journal, hrun⟩ := hsound.run_connect hroom user
        rw [hrun] at hconnect ⊢
        cases hconnect
        refine ⟨Int.lt_succ _, fun connection hget => ?_⟩
        obtain rfl := Option.some.inj ((IdMap.get?_insert_self _ _ _).symm.trans hget)
        exact ⟨rfl, rfl⟩
  exact ((hsound.take hlasts.1 _).issued_follow hissued hlasts.2).genuine

end Venue

end WatchParty
