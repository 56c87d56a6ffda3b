/-
# What the operations of a room come to

Each operation of a registered room is followed here to its verdict, in a sound venue. The checks
come first and change nothing. The writes come next, and while writes fail the first one ends the
operation. What was written is undone nowhere: in a sound venue the second write of an operation
succeeds if the first one did.
-/

import WatchParty.Proofs.Verdict

namespace WatchParty

open Operation Verdict

namespace Venue.Sound

variable {α β : Type} {venue : Venue} {number : RoomId} {room : Room} {user : UserId}

/-- A check that passes leaves the verdict to the rest. -/
theorem obeys_bind {operation : Operation α} {continuation : α → Operation β} {value : α}
    {verdict : Verdict β} (hcheck : venue.Leads operation (.ok value) venue)
    (hrest : venue.Obeys (continuation value) verdict) :
    venue.Obeys (operation >>= continuation) verdict :=
  hcheck.bind hrest

theorem obeys_get {continuation : Venue → Operation β} {verdict : Verdict β}
    (hrest : ∀ journal, venue.Obeys (continuation { venue with journal }) verdict) :
    venue.Obeys (get >>= continuation) verdict :=
  .get_bind hrest

section Checks

theorem leads_roomTime (venue : Venue) (room : Room) :
    venue.Leads room.roomTime (.ok (room.state.clock.noEarlier venue.now)) venue :=
  .get_bind fun _ => .pure _

/-- Whatever only members may do is refused to others. -/
theorem obeys_ensureMember {rest : Unit → Operation α} {verdict : Verdict α}
    (hrest : room.state.presence.contains user = true → venue.Obeys (rest ()) verdict) :
    venue.Obeys (room.ensureMember user >>= rest) (withMember room user verdict) := by
  rw [Room.ensureMember, withMember]
  cases hmember : room.state.presence.contains user with
  | true => exact obeys_bind (.pure ()) (hrest hmember)
  | false => exact Leads.bind_error (.throw .userNotInRoom)

variable (hsound : venue.Sound) (hroom : venue.lobby.rooms.get? number = some room)

include hsound hroom

theorem leads_ensureExists : venue.Leads room.ensureExists (.ok ()) venue := by
  rw [Room.ensureExists, (hsound.backed hroom).sound.live]
  exact .pure ()

end Checks

/-- A failing write makes the room refuse. -/
theorem leads_refusal (venue : Venue) (room : Room) :
    venue.Leads (room.refusal .setToFail) (.ok .writesFail) venue := by
  rw [Room.refusal, if_neg (by decide)]
  exact (Leads.note _ _ _).bind (.pure _)

section Writes

variable (hsound : venue.Sound) {method : StoreMethod} {body : StoreCall α} {value : α}
  {store : Store}

include hsound

theorem leads_persist (room : Room) (hbody : body venue.store = (.ok value, store)) :
    venue.Leads (room.persist method body) (.ok value) (venue.withStore store) :=
  (Leads.attempt hsound.calm hbody).bind (.pure _)

theorem leads_persist_failing (room : Room)
    (hbody : body venue.store = (.error .setToFail, venue.store)) :
    venue.Leads (room.persist method body) (.error .writesFail) venue :=
  (Leads.attempt_error hsound.calm hbody).bind ((leads_refusal venue room).bind (.throw _))

end Writes

/-- An operation that writes first, refuses if writes fail, and then finishes. -/
theorem obeys_write {operation : Operation α} {rest : α → Operation β} {value : α} {answer : β}
    {middle next : Venue}
    (hfailing : venue.store.failing = true → venue.Leads operation (.error .writesFail) venue)
    (hwritable : venue.store.failing = false → venue.Leads operation (.ok value) middle)
    (hrest : middle.Leads (rest value) (.ok answer) next) :
    venue.Obeys (operation >>= rest) (.granted true answer next) := by
  unfold Obeys
  cases hset : venue.store.failing with
  | true =>
      rw [enact_failing hset]
      exact (hfailing hset).bind_error
  | false =>
      rw [enact_writable hset]
      exact (hwritable hset).bind hrest

/-- An operation that writes once on behalf of the room and then finishes. -/
theorem obeys_persist (hsound : venue.Sound) {method : StoreMethod} {body : StoreCall α}
    {value : α} {store : Store} {rest : α → Operation β} {answer : β} {next : Venue} (room : Room)
    (hwrites : ∃ call, body = Store.write call)
    (hwritable : venue.store.failing = false → body venue.store = (.ok value, store))
    (hrest : (venue.withStore store).Leads (rest value) (.ok answer) next) :
    venue.Obeys (room.persist method body >>= rest) (.granted true answer next) := by
  obtain ⟨call, rfl⟩ := hwrites
  exact obeys_write
    (fun hset => hsound.leads_persist_failing room (Store.write_failing call hset))
    (fun hset => hsound.leads_persist room (hwritable hset)) hrest

/-- Keeping a state of a registered room renews the room. -/
theorem leads_keep (venue : Venue) (hregistered : venue.lobby.rooms.get? room.id = some room)
    (state : RoomState) (hnumber : state.data.id = room.id) :
    venue.Leads (room.keep state) (.ok ()) (venue.withLobby (venue.lobby.renew room state)) := by
  have hput : venue.lobby.put (room.commit state) = venue.lobby.renew room state := by
    have hid : (room.commit state).id = room.id := hnumber
    have hthere : venue.lobby.isRegistered (room.commit state) = true := by
      rw [Lobby.isRegistered, hid, hregistered]
      exact decide_eq_true rfl
    rw [Lobby.put, if_pos hthere, hid, Lobby.renew]
  rw [← hput]
  exact .changeLobby _

section Joining

variable (hsound : venue.Sound) (hroom : venue.lobby.rooms.get? number = some room)
  {account : User}

include hsound hroom

/-- Joining a room one is already in only describes it. -/
theorem leads_join_member (hmember : room.state.presence.contains account.id = true) :
    venue.Leads (room.join account)
      (.ok (room.state.snapshot (room.state.clock.noEarlier venue.now))) venue := by
  refine (hsound.leads_ensureExists hroom).bind ((leads_roomTime venue room).bind ?_)
  simp only [Presence.join_of_contains hmember]
  exact .pure _

theorem obeys_join (habsent : room.state.presence.contains account.id = false) :
    let now := room.state.clock.noEarlier venue.now
    let state := room.state.welcome account now
    venue.Obeys (room.join account)
      (.granted true (state.snapshot now) (venue.settle room state (state.presenceEvent now))) := by
  intro now state
  have hstate := Lobby.states_get? hroom
  have hid := hsound.room_id hroom
  have hfull : room.state.presence.roster.isEmpty = false := by
    simpa using (hsound.backed hroom).sound.roster_ne_nil
  have hjoin : room.state.presence.join account.id now =
      ({ alreadyMember := false, isNewOwner := false
         participants := room.state.presence.roster.enrol { user := account.id, joinedAt := now } },
        state.presence) := by
    show _ = (_, (room.state.presence.join account.id now).2)
    rw [Presence.join_of_not_contains habsent, hfull]
  refine obeys_bind (hsound.leads_ensureExists hroom) (obeys_bind (leads_roomTime venue room) ?_)
  dsimp only
  rw [hjoin]
  show venue.Obeys (room.persist .saveParticipant
    (Store.saveParticipant room.id { user := account.id, joinedAt := now }) >>= fun _ => do
      note .info s!"{account.displayName} joined room {room.state.data.title}"
      room.keep state
      publish (state.presenceEvent now)
      return state.snapshot now) _
  have hsave (hwritable : venue.store.failing = false) :
      Store.saveParticipant room.id { user := account.id, joinedAt := now } venue.store =
        (.ok (), venue.store.record state) := by
    rw [hid]
    exact hsound.describes.saveParticipant_eq hstate hwritable habsent
  refine hsound.obeys_persist room ⟨_, rfl⟩ hsave ?_
  have hkeep := leads_keep (venue.withStore (venue.store.record state)) (hsound.registered hroom)
    state rfl
  exact (Leads.note _ _ _).bind (hkeep.bind ((Leads.publish _).bind (.pure _)))

end Joining

/-- Whoever has left is no longer among the accounts at hand, and everybody is told. -/
theorem leads_finishDeparture (venue : Venue)
    (hregistered : venue.lobby.rooms.get? room.id = some room)
    {state final : RoomState} (hfinal : final = { state with users := state.users.erase user })
    (hnumber : final.data.id = room.id) (now : Instant) :
    venue.Leads (room.finishDeparture user now state) (.ok ())
      (venue.withLobby ((venue.lobby.renew room final).announce (final.presenceEvent now))) := by
  have hfinish : venue.Leads (do room.keep final; publish (final.presenceEvent now)) (.ok ())
      (venue.withLobby ((venue.lobby.renew room final).announce (final.presenceEvent now))) :=
    (leads_keep venue hregistered final hnumber).bind (.publish _)
  rw [hfinal] at hfinish ⊢
  rw [Room.finishDeparture]
  cases state.users.get? user with
  | none => exact hfinish
  | some account => exact (Leads.note _ _ _).bind hfinish

theorem leads_noteOwner (venue : Venue) (room : Room) (owner : UserId) :
    venue.Leads (room.noteOwner owner) (.ok ()) venue :=
  Leads.note _ _ _

section Leaving

variable (hsound : venue.Sound) (hroom : venue.lobby.rooms.get? number = some room)

include hsound hroom

theorem leads_leave_stranger (habsent : room.state.presence.contains user = false) :
    venue.Leads (room.leave user) (.ok .notMember) venue := by
  refine (hsound.leads_ensureExists hroom).bind ((leads_roomTime venue room).bind ?_)
  simp only [Presence.leave_of_not_contains habsent]
  exact .pure _

/-- The last participant leaves a deleted room behind. -/
theorem obeys_leave_last (hmember : room.state.presence.contains user = true)
    (hlast : room.state.presence.roster.dismiss user = []) :
    let now := room.state.clock.noEarlier venue.now
    let state := room.state.release user
    venue.Obeys (room.leave user)
      (.granted true .deleted ((venue.withStore (venue.store.forget room.id)).withLobby
        ((venue.lobby.renew room state).announce (state.presenceEvent now)))) := by
  intro now state
  have hid := hsound.room_id hroom
  have hstored : venue.store.rooms.contains room.id = true := by
    rw [hid]
    exact hsound.describes.contains_room (Lobby.states_get? hroom)
  have hregistered := hsound.registered hroom
  have hgone : state = { { room.state with presence := .empty, deleted := true } with
      users := room.state.users.erase user } := by
    simp only [state, RoomState.release, Presence.leave_of_last hmember hlast]
    rfl
  refine obeys_bind (hsound.leads_ensureExists hroom) (obeys_bind (leads_roomTime venue room) ?_)
  simp only [Presence.leave_of_last hmember hlast]
  refine hsound.obeys_persist room ⟨_, rfl⟩ (fun hwritable => Store.deleteRoom_eq hwritable hstored)
    ((Leads.note _ _ _).bind ?_)
  have hfinish := leads_finishDeparture (venue.withStore (venue.store.forget room.id)) hregistered
    hgone rfl now
  exact hfinish.bind (.pure _)

section Others

variable (hmember : room.state.presence.contains user = true)
  (hothers : room.state.presence.roster.dismiss user ≠ [])

include hmember hothers

/-- While others remain, the row of the room is written if it has an heir, and then that of the
participant is deleted. -/
theorem obeys_persistDeparture {rest : Unit → Operation β} {answer : β} {next : Venue}
    (hrest : (venue.withStore (venue.store.record (room.state.release user))).Leads (rest ())
      (.ok answer) next) :
    venue.Obeys
      (room.persistDeparture user (room.state.presence.heir user) (room.state.release user).data
        >>= rest)
      (.granted true answer next) := by
  have hstate := Lobby.states_get? hroom
  have hid := hsound.room_id hroom
  have hdata := (hsound.backed hroom).sound.release_data hmember hothers
  have hdelete (hwritable : venue.store.failing = false) :=
    hsound.describes.deleteParticipant_release hstate hwritable hothers
  refine obeys_write (fun hfailing => ?_) (fun hwritable => ?_) hrest
  · rw [Room.persistDeparture]
    cases room.state.presence.heir user with
    | none =>
        exact (Leads.attempt_error hsound.calm (Store.write_failing _ hfailing)).bind
          ((leads_refusal venue room).bind (.throw _))
    | some owner =>
        exact (hsound.leads_persist_failing room (Store.write_failing _ hfailing)).bind_error
  · rw [Room.persistDeparture, hid]
    cases hheir : room.state.presence.heir user with
    | none =>
        -- Without an heir the row of the room is up to date already, so one write is enough.
        have hsame : (room.state.release user).data = room.state.data := by rw [hdata, hheir]; rfl
        rw [hsame, hsound.describes.rooms_insert_self hstate] at hdelete
        exact (Leads.attempt hsound.calm (hdelete hwritable)).bind (.pure _)
    | some owner =>
        have hnumber : (room.state.release user).data.id = number := (hsound.backed hroom).numbered
        have hsave : Store.saveRoom (room.state.release user).data venue.store = (.ok (),
            { venue.store with
              rooms := venue.store.rooms.insert number (room.state.release user).data }) := by
          rw [Store.saveRoom_eq hwritable (by
            rw [hnumber]
            exact hsound.describes.contains_room hstate), hnumber]
        exact (hsound.leads_persist room hsave).bind
          (Leads.bind (.attempt hsound.calm (hdelete hwritable)) (.pure _))

theorem obeys_leave_others :
    let now := room.state.clock.noEarlier venue.now
    let state := room.state.release user
    venue.Obeys (room.leave user)
      (.granted true (.left (room.state.presence.heir user))
        (venue.settle room state (state.presenceEvent now))) := by
  intro now state
  have hid := hsound.room_id hroom
  have hregistered := hsound.registered hroom
  have hdata := (hsound.backed hroom).sound.release_data hmember hothers
  have hleave : room.state.presence.leave user =
      (.left (room.state.presence.roster.dismiss user) (room.state.presence.heir user),
        state.presence) := by
    show _ = (_, (room.state.presence.leave user).2)
    rw [Presence.leave_of_others hmember hothers]
  have hlive : state.deleted = room.state.deleted := by
    rw [(hsound.backed hroom).sound.live]
    exact ((hsound.backed hroom).sound.release hothers).live
  refine obeys_bind (hsound.leads_ensureExists hroom) (obeys_bind (leads_roomTime venue room) ?_)
  dsimp only
  rw [hleave]
  dsimp only
  rw [← hdata]
  refine hsound.obeys_persistDeparture hroom hmember hothers ?_
  -- The operation erases the account last, after the other changes; the result is the same.
  have hfinal : state = { { room.state with presence := state.presence, data := state.data } with
      users := room.state.users.erase user } := by
    show state = { state with deleted := room.state.deleted }
    rw [← hlive]
  have hfinish := leads_finishDeparture (venue.withStore (venue.store.record state)) hregistered
    hfinal rfl now
  cases room.state.presence.heir user with
  | none => exact hfinish.bind (.pure _)
  | some owner => exact (leads_noteOwner _ _ _).bind (hfinish.bind (.pure _))

end Others

end Leaving

section Controlling

variable (hsound : venue.Sound) (hroom : venue.lobby.rooms.get? number = some room)

include hsound hroom

/-- A clock that changes is stored and committed. -/
theorem obeys_moveClock {clock : Clock} {rest : RoomState → Operation β} {answer : β} {next : Venue}
    (hchanged : clock ≠ room.state.clock)
    (hrest : ((venue.withStore (venue.store.record (room.state.steer clock))).withLobby
        (venue.lobby.renew room (room.state.steer clock))).Leads (rest (room.state.steer clock))
      (.ok answer) next) :
    venue.Obeys (room.moveClock clock >>= rest) (.granted true answer next) := by
  have hregistered := hsound.registered hroom
  rw [Room.moveClock, if_neg hchanged]
  refine obeys_write (fun hfailing => ?_) (fun hwritable => ?_) hrest
  · exact (hsound.leads_persist_failing room (Store.write_failing _ hfailing)).bind_error
  · have hsave := hsound.describes.saveRoom_steer (Lobby.states_get? hroom) clock hwritable
    have hkeep := leads_keep (venue.withStore (venue.store.record (room.state.steer clock)))
      hregistered (room.state.steer clock) rfl
    exact (hsound.leads_persist room hsave).bind (hkeep.bind (.pure _))

theorem obeys_steer (command : Command) :
    let now := room.state.clock.noEarlier venue.now
    venue.Obeys
      (do
        let state ← room.moveClock (room.state.clock.apply command now)
        let event := RoomEvent.playback room.id user (state.clock.report command.action now)
        let position := (state.clock.positionAt now).toFixed 3
        note .debug s!"Applied {command.action.name} in room {state.data.title} at {position}s"
        publish event
        return event)
      (venue.steerVerdict user room command) := by
  intro now
  rw [steerVerdict]
  by_cases hsame : room.state.clock.apply command now = room.state.clock
  · rw [if_pos hsame, hsame, Room.moveClock, if_pos rfl]
    exact (Leads.pure _).bind ((Leads.note _ _ _).bind ((Leads.publish _).bind (.pure _)))
  · rw [if_neg hsame]
    exact hsound.obeys_moveClock hroom hsame
      ((Leads.note _ _ _).bind ((Leads.publish _).bind (.pure _)))

theorem obeys_control (command : Command) :
    venue.Obeys (room.control user command)
      (withMember room user <|
        if venue.lobby.rules.mayControl room.state.presence.owner user then
          venue.steerVerdict user room command
        else .refused .controlNotPermitted) := by
  refine obeys_bind (hsound.leads_ensureExists hroom) (obeys_ensureMember fun _ => ?_)
  refine obeys_get fun journal => ?_
  cases hmay : venue.lobby.rules.mayControl room.state.presence.owner user with
  | true =>
      simp only
      exact obeys_bind (leads_roomTime venue room) (hsound.obeys_steer hroom command)
  | false =>
      simp only
      exact Leads.bind_error (.throw .controlNotPermitted)

end Controlling

section Chatting

variable (hsound : venue.Sound) (hroom : venue.lobby.rooms.get? number = some room)

include hsound hroom

theorem obeys_chat (content : String) :
    venue.Obeys (room.chat user content)
      (withChecked (Room.checkMessage venue.lobby.rules content) fun text =>
        withMember room user <|
          venue.withUser user fun sender =>
            let message :=
              venue.newMessage number sender text (room.state.clock.noEarlier venue.now)
            .granted true message (venue.converse message)) := by
  have hid := hsound.room_id hroom
  refine obeys_get fun journal => ?_
  cases Room.checkMessage venue.lobby.rules content with
  | error error => exact Leads.bind_error (.throw error)
  | ok text =>
      refine obeys_bind (.pure text) (obeys_bind (hsound.leads_ensureExists hroom) ?_)
      apply obeys_ensureMember
      intro hmember
      obtain ⟨sender, hsender, rfl⟩ := (hsound.backed hroom).sound.exists_account hmember
      have haccount := (hsound.backed hroom).accounts _ _ hsender
      have hstored := hsound.describes.contains_room (Lobby.states_get? hroom)
      let now := room.state.clock.noEarlier venue.now
      have hcreate (hwritable : venue.store.failing = false) :
          Store.createMessage number sender.id text now venue.store =
            (.ok (venue.newMessage number sender text now),
              venue.store.post (venue.newMessage number sender text now)) :=
        Store.createMessage_eq hwritable hstored haccount
      rw [withUser, haccount]
      refine obeys_bind (leads_roomTime venue room) ?_
      rw [hid]
      exact hsound.obeys_persist room ⟨_, rfl⟩ hcreate ((Leads.publish _).bind (.pure _))

/-- The history of a room is shown to its members. -/
theorem obeys_messages :
    venue.Obeys (room.messages user)
      (withMember room user (.granted false (venue.store.history number) venue)) := by
  have hlive : room.view.deleted = false := hsound.isDeleted_eq hroom
  have hany : (room.view.members.any fun member => decide (member.user.id = user)) =
      room.state.presence.contains user := by
    rw [hsound.view_eq hroom]
    exact (hsound.backed hroom).sound.any_members user
  rw [Room.messages, hlive, hany, withMember, hsound.room_id hroom]
  cases hmember : room.state.presence.contains user with
  | true =>
      have hlisted : Store.messagesByRoom number venue.store =
          (.ok (venue.store.history number), venue.store) := rfl
      exact (Leads.attempt hsound.calm hlisted).bind (.pure _)
  | false => exact Leads.bind_error (.throw .userNotInRoom)

end Chatting

end Venue.Sound

end WatchParty
