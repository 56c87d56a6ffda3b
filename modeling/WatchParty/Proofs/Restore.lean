/-
# Restoring rooms from their rows

Rows that describe the states of rooms are restored to these states: nobody is dropped, no room is
deleted, no owner is replaced, and nothing is written. It does not matter for this what the lobby
held before. What matters is only whether the rooms it held are among those described: then the
states of its rooms are exactly the described ones afterwards.

Rows that do not fit together, which the repairs of the restoring are for, are not dealt with here.
-/

import WatchParty.Proofs.Call
import WatchParty.Venue.Restore

namespace WatchParty

open Operation

namespace Lobby

/-- The lobby after rooms were made of states and registered, one after the other. -/
def hostAll (lobby : Lobby) (states : List RoomState) : Lobby := states.foldl host lobby

variable {lobby : Lobby} {table : IdMap RoomState} {number : RoomId}

@[simp]
theorem rules_hostAll (lobby : Lobby) (states : List RoomState) :
    (lobby.hostAll states).rules = lobby.rules := by
  induction states generalizing lobby with
  | nil => rfl
  | cons state rest ih => exact ih (lobby.host state)

theorem Sound.opening (rules : Rules) (nextConnection : ConnectionId) :
    (Lobby.opening rules nextConnection).Sound where
  views := fun _ _ hroom => nomatch hroom
  topics := fun _ => rfl

theorem Sound.hostAll (hsound : lobby.Sound) (states : List RoomState) :
    (lobby.hostAll states).Sound := by
  induction states generalizing lobby with
  | nil => exact hsound
  | cons state rest ih => exact ih (hsound.host state)

theorem states_hostAll (lobby : Lobby) (states : List RoomState) :
    (lobby.hostAll states).states =
      (states.map fun state => (state.data.id, state)).foldl
        (fun map entry => map.insert entry.1 entry.2) lobby.states := by
  induction states generalizing lobby with
  | nil => rfl
  | cons state rest ih =>
      rw [List.map_cons, List.foldl_cons, ← states_host]
      exact ih (lobby.host state)

/-- Hosting the states that go by their numbers in a table leaves what the table says, if the lobby
holds nothing else. -/
theorem get?_states_hostAll {table : RoomId → Option RoomState} {states : List RoomState}
    (hmem : ∀ state, state ∈ states ↔ ∃ number, table number = some state)
    (hnumbered : ∀ number state, table number = some state → state.data.id = number)
    (hlobby : ∀ number state, lobby.states.get? number = some state → table number = some state)
    (number : RoomId) : (lobby.hostAll states).states.get? number = table number := by
  have hagree : ∀ entry ∈ states.map fun state => (state.data.id, state),
      table entry.1 = some entry.2 := by
    intro entry hentry
    obtain ⟨state, hstate, rfl⟩ := List.mem_map.mp hentry
    obtain ⟨number, htable⟩ := (hmem state).mp hstate
    rw [hnumbered number state htable, htable]
  rw [states_hostAll, IdMap.get?_foldl_insert hagree]
  split
  · rfl
  · rename_i habsent
    cases hold : lobby.states.get? number with
    | some state => exact (hlobby number state hold).symm
    | none =>
        cases htable : table number with
        | none => rfl
        | some state =>
            refine absurd ?_ habsent
            rw [List.map_map, ← hnumbered number state htable]
            exact List.mem_map_of_mem ((hmem state).mpr ⟨number, htable⟩)

/-- Hosting the states of a table leaves the table's states, and no others if there were none. -/
theorem states_hostAll_values
    (hnumbered : ∀ number state, table.get? number = some state → state.data.id = number)
    (hlobby : ∀ number state, lobby.states.get? number = some state →
      table.get? number = some state) :
    (lobby.hostAll table.values).states = table :=
  IdMap.eq_of_get?_eq (get?_states_hostAll (fun _ => IdMap.mem_values) hnumbered hlobby)

/-- Hosting rooms whose topics are open leaves the topics alone. -/
theorem topics_hostAll {states : List RoomState}
    (hopen : ∀ state ∈ states, lobby.topics.isOpen state.data.id = true) :
    (lobby.hostAll states).topics = lobby.topics := by
  induction states generalizing lobby with
  | nil => rfl
  | cons state rest ih =>
      have hhost : (lobby.host state).topics = lobby.topics :=
        Topics.openTopic_eq_self (hopen state List.mem_cons_self)
      rw [← hhost]
      apply ih
      intro other hother
      rw [hhost]
      exact hopen other (List.mem_cons_of_mem _ hother)

end Lobby

namespace Venue

variable {venue : Venue} {number : RoomId} {state : RoomState}

/-- Participants whose accounts exist are all restored. -/
theorem leads_restoreMembers (hcalm : venue.database.faults = []) (number : RoomId)
    {users : IdMap User} {roster : Roster}
    (hstored : ∀ user account,
      users.get? user = some account → venue.store.users.get? user = some account)
    (haccounts : ∀ participant ∈ roster, ∃ account, users.get? participant.user = some account) :
    ∃ members : List (Participant × User),
      venue.Leads (restoreMembers number roster) (.ok members) venue ∧
      members.map (·.1) = roster ∧
      ∀ member ∈ members, users.get? member.1.user = some member.2 := by
  induction roster with
  | nil => exact ⟨[], .pure _, rfl, fun _ hmem => nomatch hmem⟩
  | cons head rest ih =>
      obtain ⟨account, haccount⟩ := haccounts head List.mem_cons_self
      obtain ⟨members, hleads, hroster, hmembers⟩ :=
        ih fun participant hmem => haccounts participant (List.mem_cons_of_mem _ hmem)
      have hfound : Store.userById head.user venue.store = (.ok account, venue.store) :=
        Store.require_of_some (hstored _ _ haccount)
      refine ⟨(head, account) :: members, ?_, ?_, ?_⟩
      · rw [restoreMembers]
        exact (Leads.attempt hcalm hfound).bind (hleads.bind (.pure _))
      · rw [List.map_cons, hroster]
      · intro member hmem
        cases hmem with
        | head => exact haccount
        | tail _ hmem => exact hmembers member hmem

/-- The room of a state that is backed by the rows is made again. -/
theorem leads_restoreRoom (hcalm : venue.database.faults = [])
    (hbacked : state.Backed venue.store number)
    (hroster : venue.store.roster number = state.presence.roster) :
    venue.Leads (restoreRoom state.data) (.ok ()) (venue.withLobby (venue.lobby.host state)) := by
  have hcontent : Store.contentById state.data.content venue.store =
      (.ok state.content, venue.store) := Store.require_of_some hbacked.content
  have hparticipants : Store.participantsByRoom state.data.id venue.store =
      (.ok state.presence.roster, venue.store) := by
    rw [Store.participantsByRoom, hbacked.numbered, hroster]
  obtain ⟨members, hmembers, hnames, haccounts⟩ :=
    leads_restoreMembers hcalm state.data.id hbacked.accounts fun participant hmem =>
      (hbacked.sound.exists_account (Roster.has_of_mem hmem)).imp fun _ h => h.1
  -- Somebody is restored, so the room is not taken for an abandoned one.
  have hfull : members.isEmpty = false := by
    have hne := hbacked.sound.roster_ne_nil
    rw [← hnames] at hne
    simpa using hne
  refine (Leads.ask hcalm hcontent).bind ((Leads.ask hcalm hparticipants).bind ?_)
  refine Leads.bind hmembers ?_
  simp only [hfull]
  refine (leads_makeRoom venue hbacked.sound hnames haccounts).bind ?_
  -- The one who owns the room is still the one in its row, so that row is not written again.
  have hsame : (Room.ofState venue.lobby.nextSerial state).data.owner = state.data.owner := rfl
  simp only [hsame, ne_eq, not_true_eq_false, if_false]
  exact .changeLobby (·.register (Room.ofState venue.lobby.nextSerial state))

theorem leads_restoreRooms (hcalm : venue.database.faults = []) {states : List RoomState}
    (hstates : ∀ state ∈ states, state.Backed venue.store state.data.id ∧
      venue.store.roster state.data.id = state.presence.roster) :
    venue.Leads ((states.map (·.data)).forM restoreRoom) (.ok ())
      (venue.withLobby (venue.lobby.hostAll states)) := by
  induction states generalizing venue with
  | nil => exact .pure ()
  | cons state rest ih =>
      obtain ⟨hbacked, hroster⟩ := hstates state List.mem_cons_self
      have hrest : (venue.withLobby (venue.lobby.host state)).Leads _ (.ok ()) _ :=
        ih hcalm fun other hother => hstates other (List.mem_cons_of_mem _ hother)
      exact (leads_restoreRoom hcalm hbacked hroster).bind hrest

/-- Rows that describe rooms are restored to the states they describe. -/
theorem leads_restore_table (venue : Venue) (hcalm : venue.database.faults = [])
    {table : IdMap RoomState} (hdescribes : venue.store.Describes table) :
    venue.Leads restore (.ok (venue.lobby.hostAll table.values).rooms.size)
      (venue.withLobby (venue.lobby.hostAll table.values)) := by
  have hrows : Store.listRooms venue.store = (.ok (table.values.map (·.data)), venue.store) := by
    rw [Store.listRooms, hdescribes.rooms, IdMap.values_mapValues]
  have hstates : ∀ state ∈ table.values, state.Backed venue.store state.data.id ∧
      venue.store.roster state.data.id = state.presence.roster := by
    intro state hstate
    obtain ⟨number, hget⟩ := IdMap.mem_values.mp hstate
    have hbacked := hdescribes.backed number state hget
    rw [hbacked.numbered]
    exact ⟨hbacked, hdescribes.roster hget⟩
  refine (Leads.ask hcalm hrows).bind ((leads_restoreRooms hcalm hstates).bind ?_)
  exact .get_bind fun journal => (Leads.note _ _ _).bind (.pure _)

namespace Sound

variable (hsound : venue.Sound)

include hsound

/-- The states of a sound venue go by their numbers. -/
theorem states_numbered (number : RoomId) (state : RoomState)
    (hstate : venue.lobby.states.get? number = some state) : state.data.id = number :=
  (hsound.describes.backed number state hstate).numbered

/-- Restoring does not disturb rooms that are running. -/
theorem states_restore :
    (venue.lobby.hostAll venue.lobby.states.values).states = venue.lobby.states :=
  Lobby.states_hostAll_values hsound.states_numbered fun _ _ hstate => hstate

theorem topics_restore :
    (venue.lobby.hostAll venue.lobby.states.values).topics = venue.lobby.topics := by
  apply Lobby.topics_hostAll
  intro state hstate
  obtain ⟨number, hget⟩ := IdMap.mem_values.mp hstate
  rw [hsound.states_numbered number state hget, hsound.lobby.topics, ← Lobby.contains_states]
  exact IdMap.contains_of_get? hget

/-- After a restart the rooms have the states that they had before. -/
theorem states_restart (rules : Rules) (nextConnection : ConnectionId) :
    ((Lobby.opening rules nextConnection).hostAll venue.lobby.states.values).states =
      venue.lobby.states :=
  Lobby.states_hostAll_values hsound.states_numbered fun _ _ hstate => nomatch hstate

/-- Restoring a running system counts its rooms. -/
theorem leads_restore :
    venue.Leads restore (.ok venue.lobby.rooms.size)
      (venue.withLobby (venue.lobby.hostAll venue.lobby.states.values)) := by
  have hleads := leads_restore_table venue hsound.calm hsound.describes
  rwa [← Lobby.size_states, hsound.states_restore, Lobby.size_states] at hleads

/-- Starting over counts the rooms that there were. -/
theorem leads_restart (rules : Rules) :
    venue.Leads (do reopen rules; restore) (.ok venue.lobby.rooms.size)
      (venue.withLobby ((Lobby.opening rules venue.lobby.nextConnection).hostAll
        venue.lobby.states.values)) := by
  let reopened := venue.withLobby (.opening rules venue.lobby.nextConnection)
  have hstates : (reopened.lobby.hostAll venue.lobby.states.values).states = venue.lobby.states :=
    hsound.states_restart rules venue.lobby.nextConnection
  have hleads := leads_restore_table reopened hsound.calm hsound.describes
  rw [← Lobby.size_states, hstates, Lobby.size_states] at hleads
  exact Leads.bind (.changeLobby _) hleads

/-- A system that has taken over the rows is sound. -/
theorem restart (rules : Rules) (nextConnection : ConnectionId) :
    (venue.withLobby ((Lobby.opening rules nextConnection).hostAll
      venue.lobby.states.values)).Sound :=
  hsound.withLobby ((Lobby.Sound.opening rules nextConnection).hostAll _)
    (hsound.states_restart rules nextConnection)

end Sound

end Venue

end WatchParty
