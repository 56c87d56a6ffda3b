/-
# Restoring repairs

A system that starts over on rows that do not fit together repairs them. However the rows came
about, if every room has its content and the store can be written then restoring ends well. Exactly
the rooms are left in which somebody with an account was, with these participants and with their
messages, and each is owned by somebody who is there. Starting over once more changes no row.

The repair is followed room by room, as restoring goes through them: for each it comes to mending
the rows of that room and to hosting the room's state, if the room is left.
-/

import WatchParty.Proofs.Restore
import WatchParty.Proofs.Store.Mending

namespace WatchParty

open Operation

/-- The state of a room that is made of a row and of the participants with their accounts. -/
def RoomState.rebuilt (data : RoomRecord) (content : Content)
    (members : List (Participant × User)) : RoomState :=
  { data := data.heldBy (members.map (·.1))
    content
    clock := data.playback.toClock content.duration
    presence := Presence.restore (members.map (·.1)) data.owner
    users := IdMap.ofList (members.map fun member => (member.2.id, member.2))
    deleted := false }

namespace Store

variable {store next : Store} {data : RoomRecord} {state : RoomState}

/-- The state in which the room of a row is made again, if anybody is left in it. -/
def revived (store : Store) (data : RoomRecord) : Option RoomState :=
  if store.survivors data.id = [] then none
  else (store.contents.get? data.content).map fun content =>
    .rebuilt data content (store.accounted (store.roster data.id))

/-- The next room to mend is made again as it would have been at first. -/
theorem Mended.revived_next {todo : List RoomId} (hmended : store.Mended (data.id :: todo) next) :
    next.revived data = store.revived data := by
  rw [revived, hmended.survivors_next, hmended.roster_next, hmended.contents, accounted,
    hmended.users, revived, accounted]

/-- A room that is made again is held by the one whom its mended row names. -/
theorem of_revived (hstate : store.revived data = some state) :
    store.survivors data.id ≠ [] ∧ store.contents.get? data.content = some state.content ∧
      state.data = data.heldBy (store.survivors data.id) ∧
      state.clock = data.playback.toClock state.content.duration ∧
      state.presence = Presence.restore (store.survivors data.id) data.owner ∧
      state.deleted = false := by
  rw [revived] at hstate
  split at hstate
  · cases hstate
  · rename_i hothers
    obtain ⟨content, hcontent, rfl⟩ := Option.map_eq_some_iff.mp hstate
    have hmembers : (store.accounted (store.roster data.id)).map (·.1) = store.survivors data.id :=
      store.accounted_fst _
    refine ⟨hothers, hcontent, ?_, rfl, ?_, rfl⟩
    · rw [RoomState.rebuilt, hmembers]
    · rw [RoomState.rebuilt, hmembers]

end Store

namespace Venue

variable {venue : Venue} {store : Store} {data : RoomRecord}

theorem leads_makeRoom_rebuilt (venue : Venue) (data : RoomRecord) (content : Content)
    (members : List (Participant × User)) :
    venue.Leads (makeRoom data content members)
      (.ok (Room.ofState venue.lobby.nextSerial (.rebuilt data content members)))
      (venue.withLobby { venue.lobby with nextSerial := venue.lobby.nextSerial + 1 }) :=
  fun journal => ⟨journal, rfl⟩

/-- Restoring participants drops those who have no account, and keeps all others. -/
theorem leads_restoreMembers_mending (hcalm : venue.database.faults = [])
    (hwritable : venue.store.failing = false) (room : RoomId)
    (hfilled : venue.store.participants.get? room = Store.entry (venue.store.roster room))
    (roster : Roster) :
    venue.Leads (restoreMembers room roster) (.ok (venue.store.accounted roster))
      (venue.withStore (venue.store.setRoster room
        ((venue.store.roster room).without (venue.store.lost roster)))) := by
  induction roster generalizing venue with
  | nil =>
      have hsame : venue.store.setRoster room
          ((venue.store.roster room).without (venue.store.lost [])) = venue.store := by
        rw [Store.lost, List.filter_nil, List.map_nil, Roster.without_nil,
          Store.setRoster_eq_self hfilled]
      rw [hsame]
      exact .pure _
  | cons head rest ih =>
      rw [restoreMembers]
      cases haccount : venue.store.users.get? head.user with
      | some account =>
          have hfound : Store.userById head.user venue.store = (.ok account, venue.store) :=
            Store.require_of_some haccount
          rw [Store.lost_cons_of_some haccount, Store.accounted_cons_of_some haccount]
          exact (Leads.attempt hcalm hfound).bind ((ih hcalm hwritable hfilled).bind (.pure _))
      | none =>
          have hmissing : Store.userById head.user venue.store =
              (.error (.notFound .user), venue.store) := Store.require_of_none haccount
          -- Without the one who is dropped the others are restored as if nobody had been dropped.
          let dropped := venue.store.setRoster room ((venue.store.roster room).dismiss head.user)
          have hdeleted : Store.deleteParticipant room head.user venue.store =
              (.ok (), dropped) := Store.write_of_writable _ hwritable
          have hfilled' : dropped.participants.get? room = Store.entry (dropped.roster room) := by
            rw [Store.get?_setRoster, if_pos rfl, Store.roster_setRoster, if_pos rfl]
          have hrest : (venue.withStore dropped).Leads (restoreMembers room rest)
              (.ok (venue.store.accounted rest)) ((venue.withStore dropped).withStore
                (dropped.setRoster room ((dropped.roster room).without (venue.store.lost rest)))) :=
            ih hcalm hwritable hfilled'
          rw [Store.roster_setRoster, if_pos rfl, Store.setRoster_setRoster, ← Roster.without_cons,
            ← Store.lost_cons_of_none haccount, ← Store.accounted_cons_of_none haccount] at hrest
          refine (Leads.attempt_error hcalm hmissing).bind ?_
          refine (Leads.note _ _ _).bind ?_
          exact (Leads.ask hcalm hdeleted).bind hrest

/-- What is left to do for a room when its participants have been restored. -/
def concludeRoom (data : RoomRecord) (content : Content) (members : List (Participant × User)) :
    Operation Unit := do
  if members.isEmpty then
    note .info s!"Deleting empty room {data.title}"
    ask .deleteRoom data.id (Store.deleteRoom data.id)
  else
    let room ← makeRoom data content members
    if room.data.owner ≠ data.owner then
      ask .saveRoom data.id (Store.saveRoom room.data)
    changeLobby (·.register room)

theorem restoreRoom_eq (data : RoomRecord) : restoreRoom data = (do
    let content ← ask .contentById data.content (Store.contentById data.content)
    let participants ← ask .participantsByRoom data.id (Store.participantsByRoom data.id)
    let members ← restoreMembers data.id participants
    concludeRoom data content members) := rfl

/-- A room in which nobody is left is deleted. -/
theorem leads_concludeRoom_nil (hcalm : venue.database.faults = [])
    (hwritable : venue.store.failing = false)
    (hstored : venue.store.rooms.contains data.id = true) (content : Content) :
    venue.Leads (concludeRoom data content []) (.ok ())
      (venue.withStore (venue.store.forget data.id)) :=
  (Leads.note _ _ _).bind (Leads.ask hcalm (Store.deleteRoom_eq hwritable hstored))

/-- A room in which somebody is left is hosted, and its row names the one who holds it. -/
theorem leads_concludeRoom (hcalm : venue.database.faults = [])
    (hwritable : venue.store.failing = false)
    (hrow : venue.store.rooms.get? data.id = some data) (content : Content)
    {members : List (Participant × User)} (hmembers : members ≠ []) :
    venue.Leads (concludeRoom data content members) (.ok ())
      ((venue.withStore { venue.store with
        rooms := venue.store.rooms.insert data.id (data.heldBy (members.map (·.1))) }).withLobby
          (venue.lobby.host (.rebuilt data content members))) := by
  have hsomebody : members.isEmpty = false := by simpa using hmembers
  let room := Room.ofState venue.lobby.nextSerial (.rebuilt data content members)
  rw [concludeRoom, hsomebody]
  refine (leads_makeRoom_rebuilt venue data content members).bind ?_
  split
  · have hsaved : Store.saveRoom room.data venue.store = _ :=
      Store.saveRoom_eq hwritable (IdMap.contains_of_get? hrow)
    exact Leads.bind (Leads.ask hcalm hsaved) (.changeLobby (·.register room))
  · rename_i hsame
    -- The row names the right owner already, so it is not written again.
    have howner : (data.heldBy (members.map (·.1))).owner = data.owner := not_not.mp hsame
    rw [RoomRecord.heldBy_eq_self howner, IdMap.insert_eq_self hrow]
    exact .changeLobby (·.register room)

/-- Restoring a room mends its rows and hosts the room, if anybody is left in it. -/
theorem leads_restoreRoom_mending (hcalm : venue.database.faults = [])
    (hwritable : venue.store.failing = false)
    (hrow : venue.store.rooms.get? data.id = some data)
    (hfilled : venue.store.participants.get? data.id = Store.entry (venue.store.roster data.id))
    (hcontent : venue.store.contents.contains data.content = true) :
    venue.Leads (restoreRoom data) (.ok ())
      ((venue.withStore (venue.store.mend data)).withLobby
        (venue.lobby.hostAll (venue.store.revived data).toList)) := by
  rw [IdMap.contains_eq_isSome] at hcontent
  obtain ⟨content, hcontent⟩ := Option.isSome_iff_exists.mp hcontent
  have hfound : Store.contentById data.content venue.store = (.ok content, venue.store) :=
    Store.require_of_some hcontent
  have hparticipants : Store.participantsByRoom data.id venue.store =
      (.ok (venue.store.roster data.id), venue.store) := rfl
  have hmembers := leads_restoreMembers_mending hcalm hwritable data.id hfilled
    (venue.store.roster data.id)
  rw [Store.without_lost] at hmembers
  let members := venue.store.accounted (venue.store.roster data.id)
  have hleft : members.map (·.1) = venue.store.survivors data.id := venue.store.accounted_fst _
  let dropped := venue.withStore (venue.store.setRoster data.id (venue.store.survivors data.id))
  have hcalm' : dropped.database.faults = [] := hcalm
  have hwritable' : dropped.store.failing = false := hwritable
  have hrow' : dropped.store.rooms.get? data.id = some data := hrow
  rw [restoreRoom_eq, Store.mend, Store.revived]
  refine (Leads.ask hcalm hfound).bind ((Leads.ask hcalm hparticipants).bind ?_)
  refine Leads.bind hmembers ?_
  by_cases hempty : venue.store.survivors data.id = []
  · have hnobody : members = [] := List.map_eq_nil_iff.mp (hleft.trans hempty)
    have hforget : dropped.store.forget data.id = venue.store.forget data.id :=
      Store.forget_setRoster _ _ _
    have hdeleted : dropped.Leads (concludeRoom data content members) _ _ :=
      hnobody ▸ leads_concludeRoom_nil hcalm' hwritable' (IdMap.contains_of_get? hrow') content
    rw [if_pos hempty, if_pos hempty, ← hforget]
    exact hdeleted
  · have hsomebody : members ≠ [] := fun hnobody => by
      rw [hnobody] at hleft
      exact hempty hleft.symm
    have hhosted : dropped.Leads (concludeRoom data content members) _ _ :=
      leads_concludeRoom hcalm' hwritable' hrow' content hsomebody
    rw [hleft] at hhosted
    rw [if_neg hempty, if_neg hempty, hcontent]
    exact hhosted

/-- Restoring rooms of different numbers mends them all, and hosts those in which anybody is
left. -/
theorem leads_restoreRooms_mending (hcalm : venue.database.faults = [])
    (hcoherent : store.Coherent) (hwritable : store.failing = false) {rows : List RoomRecord}
    (hrows : ∀ data ∈ rows, store.rooms.get? data.id = some data ∧
      store.contents.contains data.content = true)
    (honce : (rows.map (·.id)).Nodup) (hmended : store.Mended (rows.map (·.id)) venue.store) :
    ∃ next, store.Mended [] next ∧ venue.Leads (rows.forM restoreRoom) (.ok ())
      ((venue.withStore next).withLobby
        (venue.lobby.hostAll (rows.filterMap store.revived))) := by
  -- The rows that are left to go through are the rooms that are still to mend.
  induction rows generalizing venue with
  | nil => exact ⟨venue.store, hmended, .pure ()⟩
  | cons data rest ih =>
      obtain ⟨hrow, hcontent⟩ := hrows data List.mem_cons_self
      obtain ⟨hfirst, honce'⟩ := List.nodup_cons.mp honce
      rw [List.map_cons] at hmended
      have hhead := leads_restoreRoom_mending hcalm (hmended.failing.trans hwritable)
        (hmended.get?_next.trans hrow) (hmended.filled_next hcoherent)
        (hmended.contents ▸ hcontent)
      rw [hmended.revived_next] at hhead
      let middle := (venue.withStore (venue.store.mend data)).withLobby
        (venue.lobby.hostAll (store.revived data).toList)
      have hmiddle : middle.database.faults = [] := hcalm
      obtain ⟨next, hnext, hrest⟩ := ih hmiddle
        (fun other hother => hrows other (List.mem_cons_of_mem _ hother)) honce'
        (hmended.mend hfirst hrow rfl)
      refine ⟨next, hnext, ?_⟩
      have hlobby : middle.lobby.hostAll (rest.filterMap store.revived) =
          venue.lobby.hostAll ((data :: rest).filterMap store.revived) := by
        rw [List.filterMap_cons]
        show (venue.lobby.hostAll (store.revived data).toList).hostAll _ = _
        cases store.revived data <;> rfl
      rw [hlobby] at hrest
      exact hhead.bind hrest

/-! ## Restoring all rooms -/

/-- A system that has just started on rows without faults. -/
structure Fresh (venue : Venue) (store : Store) : Prop where
  database : venue.database = { store, faults := [] }
  lobby : ∃ rules nextConnection, venue.lobby = .opening rules nextConnection

end Venue

namespace Store

variable {store next : Store} {venue : Venue}

/-- A room is made again under its own number. -/
theorem Coherent.id_revived (hcoherent : store.Coherent) {room : RoomId} {data : RoomRecord}
    {state : RoomState} (hrow : store.rooms.get? room = some data)
    (hstate : store.revived data = some state) : state.data.id = room := by
  obtain ⟨-, -, hheld, -⟩ := of_revived hstate
  rw [hheld, ← hcoherent.numbered room data hrow]
  rfl

/-- A lobby without rooms holds the rooms that were made again after restoring, and no others. -/
theorem Coherent.states_revived (hcoherent : store.Coherent) (rules : Rules)
    (nextConnection : ConnectionId) (room : RoomId) :
    ((Lobby.opening rules nextConnection).hostAll
      (store.rooms.values.filterMap store.revived)).states.get? room =
        (store.rooms.get? room).bind store.revived := by
  let table : RoomId → Option RoomState := fun room => (store.rooms.get? room).bind store.revived
  have hmem : ∀ state, state ∈ store.rooms.values.filterMap store.revived ↔
      ∃ room, table room = some state := by
    intro state
    simp only [table, List.mem_filterMap, IdMap.mem_values, Option.bind_eq_some_iff]
    constructor
    · rintro ⟨data, ⟨room, hrow⟩, hstate⟩
      exact ⟨room, data, hrow, hstate⟩
    · rintro ⟨room, data, hrow, hstate⟩
      exact ⟨data, ⟨room, hrow⟩, hstate⟩
  have hnumbered : ∀ room state, table room = some state → state.data.id = room := by
    intro room state hstate
    obtain ⟨data, hrow, hstate⟩ := Option.bind_eq_some_iff.mp hstate
    exact hcoherent.id_revived hrow hstate
  have hopening : ∀ room state,
      (Lobby.opening rules nextConnection).states.get? room = some state →
        table room = some state := fun _ _ hstate => nomatch hstate
  exact Lobby.get?_states_hostAll hmem hnumbered hopening room

namespace Mended

variable (hcoherent : store.Coherent) (hmended : store.Mended [] next)
  (hcontents : ∀ data ∈ store.rooms.values, store.contents.contains data.content = true)

include hmended hcontents

/-- The rooms that are made again are those whose rows are left, and agree with these rows. -/
theorem rows_revived {states : IdMap RoomState}
    (hstates : ∀ room, states.get? room = (store.rooms.get? room).bind store.revived)
    (hnumbered : ∀ room data, store.rooms.get? room = some data → data.id = room) :
    states.mapValues (·.data) = next.rooms := by
  apply IdMap.eq_of_get?_eq
  intro room
  rw [IdMap.get?_mapValues, hstates, hmended.rooms_get?, mendedRow]
  cases hrow : store.rooms.get? room with
  | none => rw [Option.bind_none, Option.map_none, Option.map_none, ite_self]
  | some data =>
      have hroom := hnumbered room data hrow
      subst hroom
      rw [Option.bind_some, Option.map_some]
      cases hstate : store.revived data with
      | none =>
          rw [revived] at hstate
          split at hstate
          · rename_i hempty
            rw [if_pos hempty, Option.map_none]
          · have hcontent := hcontents data (IdMap.mem_values.mpr ⟨_, hrow⟩)
            rw [IdMap.contains_eq_isSome, Option.isSome_iff_ne_none] at hcontent
            exact absurd (Option.map_eq_none_iff.mp hstate) hcontent
      | some state =>
          obtain ⟨hothers, -, hheld, -⟩ := of_revived hstate
          rw [if_neg hothers, Option.map_some, hheld]

end Mended

/-- Restoring coherent rows mends them, and opens the rooms that are left. -/
theorem Coherent.leads_restore (hcoherent : store.Coherent) (hwritable : store.failing = false)
    (hcontents : ∀ data ∈ store.rooms.values, store.contents.contains data.content = true)
    (hfresh : venue.Fresh store) :
    ∃ next lobby, store.Mended [] next ∧ lobby.Sound ∧
      (∀ room, lobby.states.get? room = (store.rooms.get? room).bind store.revived) ∧
      venue.Leads Venue.restore (.ok store.survivorCount)
        ((venue.withStore next).withLobby lobby) := by
  obtain ⟨rules, nextConnection, hlobby⟩ := hfresh.lobby
  have hstore : venue.store = store := congrArg Database.store hfresh.database
  have hcalm : venue.database.faults = [] := congrArg Database.faults hfresh.database
  have hkeys : store.rooms.values.map (·.id) = store.rooms.keys :=
    IdMap.map_values hcoherent.numbered
  have hrows : ∀ data ∈ store.rooms.values, store.rooms.get? data.id = some data ∧
      store.contents.contains data.content = true := by
    intro data hdata
    obtain ⟨room, hrow⟩ := IdMap.mem_values.mp hdata
    rw [hcoherent.numbered room data hrow]
    exact ⟨hrow, hcontents data hdata⟩
  have hmended : store.Mended (store.rooms.values.map (·.id)) venue.store := by
    rw [hkeys, hstore]
    exact hcoherent.mended_keys
  obtain ⟨next, hnext, hleads⟩ := Venue.leads_restoreRooms_mending hcalm hcoherent hwritable hrows
    (hkeys ▸ IdMap.nodup_keys _) hmended
  let lobby := venue.lobby.hostAll (store.rooms.values.filterMap store.revived)
  have hstates : ∀ room, lobby.states.get? room = (store.rooms.get? room).bind store.revived := by
    intro room
    rw [← hcoherent.states_revived rules nextConnection, ← hlobby]
  have hcount : lobby.rooms.size = store.survivorCount := by
    rw [← hnext.size_rooms hcoherent, ← hnext.rows_revived hcontents hstates hcoherent.numbered,
      IdMap.size_mapValues, Lobby.size_states]
  refine ⟨next, lobby, hnext, ?_, hstates, ?_⟩
  · show (venue.lobby.hostAll _).Sound
    rw [hlobby]
    exact (Lobby.Sound.opening rules nextConnection).hostAll _
  · have hlisted : Store.listRooms venue.store = (.ok store.rooms.values, venue.store) := by
      rw [Store.listRooms, hstore]
    rw [← hcount]
    refine (Venue.Leads.ask hcalm hlisted).bind (hleads.bind ?_)
    exact .get_bind fun journal => (Venue.Leads.note _ _ _).bind (.pure _)

/-! ## What restoring leaves -/

/-- What restoring leaves of rows, and what it opens. -/
structure Repaired (store next : Store) (lobby : Lobby) : Prop where
  users : next.users = store.users
  sessions : next.sessions = store.sessions
  contents : next.contents = store.contents
  lastId : next.lastId = store.lastId
  failing : next.failing = store.failing
  /-- The rooms that are left are those of which a participant has an account. -/
  rooms : ∀ room, next.rooms.contains room = true ↔ store.rooms.contains room = true ∧
    ∃ participant ∈ store.roster room, store.users.contains participant.user = true
  registered : ∀ room, lobby.rooms.contains room = next.rooms.contains room
  /-- The participants that have an account stay what they were. -/
  participants : ∀ room, next.roster room =
    (store.roster room).filter fun participant => store.users.contains participant.user
  messages : next.messages =
    store.messages.filter fun message => next.rooms.contains message.room
  /-- Of a row that is left nothing but the owner changes, and only where the owner is not there. -/
  rows : ∀ room data, next.rooms.get? room = some data →
    ∃ former, store.rooms.get? room = some former ∧ data = { former with owner := data.owner } ∧
      ((next.roster room).has former.owner = true → data.owner = former.owner) ∧
      ((next.roster room).has former.owner = false →
        ∃ heir ∈ next.roster room, data.owner = heir.user ∧
          ∀ other ∈ next.roster room, other ≠ heir → heir.Senior other)
  /-- Open rooms agree with their rows. -/
  opened : ∀ room found, lobby.rooms.get? room = some found →
    next.rooms.get? room = some found.state.data ∧
    found.state.presence =
      { roster := next.roster room, owner := some found.state.data.owner } ∧
    next.contents.get? found.state.data.content = some found.state.content ∧
    found.state.clock =
      found.state.data.playback.toClock found.state.content.duration ∧
    found.view = found.state.view ∧ found.isDeleted = false

theorem Mended.repaired (hcoherent : store.Coherent) (hmended : store.Mended [] next)
    (hcontents : ∀ data ∈ store.rooms.values, store.contents.contains data.content = true)
    {lobby : Lobby} (hlobby : lobby.Sound)
    (hstates : ∀ room, lobby.states.get? room = (store.rooms.get? room).bind store.revived) :
    store.Repaired next lobby where
  users := hmended.users
  sessions := hmended.sessions
  contents := hmended.contents
  lastId := hmended.lastId
  failing := hmended.failing
  rooms := fun room => by
    rw [hmended.contains_rooms hcoherent, survivors_ne_nil_iff]
    refine ⟨fun hleft => ⟨?_, hleft⟩, And.right⟩
    obtain ⟨participant, hmem, -⟩ := hleft
    exact hcoherent.housed room (List.ne_nil_of_mem hmem)
  registered := fun room => by
    rw [← hmended.rows_revived hcontents hstates hcoherent.numbered, IdMap.contains_mapValues,
      Lobby.contains_states]
  participants := hmended.roster_eq
  messages := by
    rw [hmended.messages_eq]
    apply List.filter_congr
    intro message _
    rw [← Bool.decide_coe (next.rooms.contains message.room)]
    exact decide_eq_decide.mpr (hmended.contains_rooms hcoherent message.room).symm
  rows := fun room data hdata => by
    obtain ⟨hothers, former, hformer, rfl⟩ := hmended.of_rooms_get? hdata
    have hsound := hcoherent.survivors_sound room
    rw [hmended.roster_eq]
    refine ⟨former, hformer, rfl, fun hpresent => ?_, RoomRecord.exists_heir hsound hothers⟩
    rw [RoomRecord.heldBy_of_has hsound hpresent]
  opened := fun room found hfound => by
    have hstate := hstates room
    rw [Lobby.states_get? hfound] at hstate
    obtain ⟨data, hrow, hrevived⟩ := Option.bind_eq_some_iff.mp hstate.symm
    have hroom := hcoherent.numbered room data hrow
    subst hroom
    obtain ⟨hothers, hcontent, hheld, hclock, hpresence, hlive⟩ := of_revived hrevived
    have hview := hlobby.views _ _ hfound
    refine ⟨?_, ?_, ?_, ?_, hview, ?_⟩
    · rw [hmended.rooms_get?, mendedRow, if_neg hothers, hrow, Option.map_some, hheld]
    · rw [hpresence, RoomRecord.restore_eq (hcoherent.survivors_sound _) hothers,
        hmended.roster_eq, hheld]
    · rw [hmended.contents, hheld]
      exact hcontent
    · rw [hclock, hheld]
      rfl
    · rw [Room.isDeleted, hview]
      exact hlive

/-- Restoring repairs any rows. However they came about, if every room has its content and the store
can be written then a system that starts on them restores the rooms of which a participant has an
account, and a further system that starts on what it leaves restores as many and changes no row. -/
theorem Produced.restoring_repairs (hproduced : store.Produced)
    (hcontents : ∀ data ∈ store.rooms.values, store.contents.contains data.content = true)
    (hwritable : store.failing = false) (hfresh : venue.Fresh store) :
    let restored := venue.run Venue.restore
    restored.1 = .ok (store.rooms.values.countP fun data =>
      (store.roster data.id).any fun participant => store.users.contains participant.user) ∧
    restored.2.database.faults = [] ∧
    store.Repaired restored.2.store restored.2.lobby ∧
    ∀ again : Venue, again.Fresh restored.2.store →
      (again.run Venue.restore).1 = restored.1 ∧
      (again.run Venue.restore).2.database = restored.2.database := by
  intro restored
  have hcoherent := hproduced.coherent
  obtain ⟨next, lobby, hmended, hlobby, hstates, hleads⟩ :=
    hcoherent.leads_restore hwritable hcontents hfresh
  have hanswer : restored.1 = .ok store.survivorCount := hleads.answer_eq
  have hdatabase : restored.2.database = { store := next, faults := [] } := by
    rw [hleads.database_eq]
    exact congrArg (fun database => { database with store := next }) hfresh.database
  have hstore : restored.2.store = next := congrArg Database.store hdatabase
  refine ⟨hanswer, congrArg Database.faults hdatabase, ?_, fun again hagain => ?_⟩
  · rw [hstore, hleads.lobby_eq]
    exact hmended.repaired hcoherent hcontents hlobby hstates
  · -- Mended rows are coherent as well, and there is nothing left to mend.
    rw [hstore] at hagain
    have hcoherent' := hmended.coherent hcoherent
    have hcontents' : ∀ data ∈ next.rooms.values,
        next.contents.contains data.content = true := by
      intro data hdata
      obtain ⟨room, hrow⟩ := IdMap.mem_values.mp hdata
      obtain ⟨-, former, hformer, rfl⟩ := hmended.of_rooms_get? hrow
      rw [hmended.contents]
      exact hcontents former (IdMap.mem_values.mpr ⟨room, hformer⟩)
    obtain ⟨last, _, hlast, -, -, hleads'⟩ :=
      hcoherent'.leads_restore (hmended.failing.trans hwritable) hcontents' hagain
    have hsame : last = next := hlast.unique (hmended.mended_again hcoherent)
    subst hsame
    constructor
    · rw [hleads'.answer_eq, hanswer, ← hlast.size_rooms hcoherent', hmended.size_rooms hcoherent]
    · rw [hleads'.database_eq, hdatabase]
      exact congrArg (fun database => { database with store := last }) hagain.database

/-- Calls that tear rows apart. The room of number 4 is owned by user 1, who has left it, while
user 2 is in it and also user 9, who has no account. In the room of number 5 there is nobody but
user 9. -/
def tearing : List StoreRequest :=
  let new : NewRoom := ⟨3, "A Film", 1, 10, (Clock.start 10).save⟩
  [.addUser "ada" "Ada", .addUser "bob" "Bob", .addContent "A Film" none,
    .createRoom new, .createRoom { new with owner := 9 },
    .saveParticipant 4 ⟨9, 11⟩, .saveParticipant 4 ⟨2, 12⟩, .deleteParticipant 4 1,
    .createMessage 4 1 "Hello" 13, .createMessage 5 1 "Anybody?" 13]

/-- Rows that do not fit together. -/
def torn : Store := tearing.foldl StoreRequest.serve .empty

theorem torn_repaired :
    let restored := (Venue.opening {} 20 ⟨torn, []⟩).run Venue.restore
    restored.1 = .ok 1 ∧ torn.Repaired restored.2.store restored.2.lobby ∧
      restored.2.store.rooms.contains 5 = false ∧ restored.2.store.roster 4 = [⟨2, 12⟩] := by
  have hproduced : torn.Produced := ⟨tearing, rfl⟩
  have hfresh : (Venue.opening {} 20 ⟨torn, []⟩).Fresh torn := ⟨rfl, {}, 0, rfl⟩
  have hcount : torn.survivorCount = 1 := by decide
  have hremaining : torn.survivors 4 = [⟨2, 12⟩] := by decide
  have hnobody : ¬ ∃ participant ∈ torn.roster 5,
      torn.users.contains participant.user = true := by decide
  obtain ⟨hanswer, -, hrepaired, -⟩ :=
    hproduced.restoring_repairs (by decide) (by decide) hfresh
  generalize (Venue.opening {} 20 ⟨torn, []⟩).run Venue.restore = restored at hanswer hrepaired ⊢
  refine ⟨hanswer.trans (congrArg Except.ok hcount), hrepaired, ?_,
    (hrepaired.participants 4).trans hremaining⟩
  exact Bool.eq_false_iff.mpr fun hleft => hnobody ((hrepaired.rooms 5).mp hleft).2

end Store

end WatchParty
