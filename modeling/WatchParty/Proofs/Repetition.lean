/-
# Doing nothing, and doing things twice

Some calls are granted although there is nothing to do: a member joins, a stranger leaves, or a
video is played that plays, or paused that is paused. Nothing has to be written for them, so they
are granted also while writes fail. The first two leave no trace; of the third the room hears.

It follows that joining twice is joining once, and that leaving twice is leaving once as long as the
room stays. Between the two any time may pass, and writes may begin to fail.
-/

import WatchParty.Proofs.Publishing
import WatchParty.Proofs.Restart

namespace WatchParty

open Verdict

/-- A command asks for what a clock does anyhow. -/
def Clock.Complies (clock : Clock) : Command → Prop
  | .play => clock.isPlaying = true
  | .pause => clock.isPlaying = false
  | .seek _ => False

theorem Clock.Complies.apply_eq {clock : Clock} {command : Command}
    (hcomplies : clock.Complies command) (now : Instant) : clock.apply command now = clock := by
  cases command with
  | play => exact if_pos hcomplies
  | pause =>
      have hpaused : clock.isPlaying = false := hcomplies
      rw [Clock.apply]
      simp [hpaused]
  | seek position => exact hcomplies.elim

theorem Clock.report_noEarlier (clock : Clock) (action : PlaybackAction) (now : Instant) :
    clock.report action (clock.noEarlier now) = clock.report action now := by
  rw [Clock.report, Clock.noEarlier_noEarlier, Clock.report]

theorem RoomState.snapshot_noEarlier (state : RoomState) (now : Instant) :
    state.snapshot (state.clock.noEarlier now) = state.snapshot now := by
  show state.view.snapshot (state.view.clock.noEarlier now) = state.view.snapshot now
  rw [RoomView.snapshot, Clock.noEarlier_noEarlier, RoomView.snapshot]

namespace Venue

variable {venue : Venue} {number : RoomId} {room : Room} {user : UserId}

namespace Sound

variable (hsound : venue.Sound) (hroom : venue.lobby.rooms.get? number = some room)

include hsound hroom

theorem leads_snapshot :
    venue.Leads (snapshot number) (.ok (room.state.snapshot venue.now)) venue := by
  have hobeys := hsound.obeys_snapshot number
  rwa [withRoom, hroom] at hobeys

/-- The members of a room have accounts. -/
theorem exists_account (hmember : room.state.presence.contains user = true) :
    ∃ account, venue.store.users.get? user = some account := by
  have hbacked := hsound.backed hroom
  obtain ⟨account, haccount, -⟩ := hbacked.sound.exists_account hmember
  exact ⟨account, hbacked.accounts _ _ haccount⟩

/-- A member who joins is told how things are. -/
theorem leads_join (hmember : room.state.presence.contains user = true) :
    venue.Leads (join number user) (.ok (room.state.snapshot venue.now)) venue := by
  obtain ⟨account, haccount⟩ := hsound.exists_account hroom hmember
  have hobeys := hsound.obeys_joinRoom number user
  rw [Venue.joinVerdict, withRoom, hroom] at hobeys
  simp only [withUser, haccount, if_pos hmember, RoomState.snapshot_noEarlier] at hobeys
  exact hobeys

/-- A stranger who leaves is let go. -/
theorem leads_leave (hstranger : room.state.presence.contains user = false) :
    venue.Leads (leave number user) (.ok ()) venue := by
  have hobeys := hsound.obeys_leaveRoom number user
  rw [Venue.leaveVerdict, withRoom, hroom] at hobeys
  simp only [hstranger] at hobeys
  exact hobeys

/-- A command for what the clock does anyhow is announced. -/
theorem leads_control (hmember : room.state.presence.contains user = true)
    (hmay : venue.lobby.rules.mayControl room.state.presence.owner user = true)
    {command : Command} (hcomplies : room.state.clock.Complies command) :
    let event := RoomEvent.playback number user (room.state.clock.report command.action venue.now)
    venue.Leads (control number user command) (.ok event)
      (venue.withLobby (venue.lobby.announce event)) := by
  intro event
  obtain ⟨account, haccount⟩ := hsound.exists_account hroom hmember
  have hobeys := hsound.obeys_controlRoom number user command
  rw [Venue.controlVerdict, withRoom, hroom] at hobeys
  simp only [withUser, haccount, withMember, if_pos hmember, if_pos hmay, steerVerdict,
    hcomplies.apply_eq, if_true, Clock.report_noEarlier, hsound.room_id hroom] at hobeys
  exact hobeys

end Sound

/-- Doing something again, at any time and whether writes fail by then or not, succeeds and changes
nothing. -/
def Settled (once : Venue) {α : Type} (operation : Operation α) : Prop :=
  ∀ now failing,
    let between := { once with now }.withStore (once.store.setFailing failing)
    ∃ answer journal, between.run operation = (.ok answer, { between with journal })

namespace Sound

variable (hsound : venue.Sound)

include hsound

/-- Whatever the time, and whether writes fail or not, a venue is sound. -/
theorem withCircumstances (now : Instant) (failing : Bool) :
    ({ venue with now }.withStore (venue.store.setFailing failing)).Sound :=
  ⟨hsound.calm, hsound.numbered.of_tables (Int.le_refl _) (fun _ _ => .inl) (fun _ _ => .inl)
      (fun _ => .inl),
    hsound.describes.of_tables rfl rfl rfl (fun _ _ h => h) fun _ _ h => h, hsound.lobby⟩

/-- Whoever has joined a room is in it. -/
theorem member_of_join {shown : Snapshot} (hjoin : (venue.run (join number user)).1 = .ok shown) :
    ∃ state, (venue.run (join number user)).2.lobby.states.get? number = some state ∧
      state.presence.contains user = true := by
  have hobeys := hsound.obeys_joinRoom number user
  have hbrings : venue.core.Brings (.join number user) (venue.run (join number user)).2.core := by
    rw [hobeys.core_eq]
    exact (grants_iff.mp (hsound.joinVerdict_brings number user)).of_enact
      (hobeys.answer_eq.symm.trans hjoin)
  generalize hcore : (venue.run (join number user)).2.core = core at hbrings
  have hstates : (venue.run (join number user)).2.lobby.states = core.states :=
    congrArg Core.states hcore
  rw [hstates]
  rcases hbrings with ⟨⟨state, hstate, hmember⟩, rfl⟩ | hchange
  · exact ⟨state, hstate, hmember⟩
  · cases hchange with
    | enter hstate huser habsent hnow =>
        exact ⟨_, IdMap.get?_insert_self _ _ _, Presence.contains_join.mpr (.inl rfl)⟩

/-- Whoever has left a room that remains is not in it. -/
theorem stranger_of_leave (hleave : (venue.run (leave number user)).1 = .ok ())
    (hstays : ((venue.run (leave number user)).2.lobby.liveRoom? number).isSome = true) :
    ∃ state, (venue.run (leave number user)).2.lobby.states.get? number = some state ∧
      state.presence.contains user = false := by
  have hobeys := hsound.obeys_leaveRoom number user
  have hnext : (venue.run (leave number user)).2.Sound :=
    hobeys.sound ((hsound.leaveVerdict number user).enact hsound)
  have hbrings : venue.core.Brings (.leave number user) (venue.run (leave number user)).2.core := by
    rw [hobeys.core_eq]
    exact (grants_iff.mp (hsound.leaveVerdict_brings number user)).of_enact
      (hobeys.answer_eq.symm.trans hleave)
  rw [hnext.isSome_liveRoom?] at hstays
  generalize hcore : (venue.run (leave number user)).2.core = core at hbrings hstays
  have hstates : (venue.run (leave number user)).2.lobby.states = core.states :=
    congrArg Core.states hcore
  rw [hstates]
  rcases hbrings with ⟨⟨state, hstate, hstranger⟩, rfl⟩ | hchange
  · exact ⟨state, hstate, hstranger⟩
  · cases hchange with
    | depart hstate hmember hothers hnow =>
        refine ⟨_, IdMap.get?_insert_self _ _ _, Bool.eq_false_iff.mpr fun hstill => ?_⟩
        exact (Presence.contains_leave.mp hstill).2 rfl
    | vacate hstate hmember hlast hnow =>
        simp at hstays

/-- Joining again changes nothing. -/
theorem settled_join {shown : Snapshot} (hjoin : (venue.run (join number user)).1 = .ok shown) :
    (venue.run (join number user)).2.Settled (join number user) := by
  intro now failing between
  obtain ⟨state, hstate, hmember⟩ := hsound.member_of_join hjoin
  obtain ⟨room, hroom, rfl⟩ := Lobby.exists_room hstate
  have hnext : (venue.run (join number user)).2.Sound :=
    (hsound.obeys_joinRoom number user).sound ((hsound.joinVerdict number user).enact hsound)
  obtain ⟨journal, hrun⟩ :=
    ((hnext.withCircumstances now failing).leads_join hroom hmember).run_eq
  exact ⟨_, journal, hrun⟩

/-- Leaving again changes nothing. -/
theorem settled_leave (hleave : (venue.run (leave number user)).1 = .ok ())
    (hstays : ((venue.run (leave number user)).2.lobby.liveRoom? number).isSome = true) :
    (venue.run (leave number user)).2.Settled (leave number user) := by
  intro now failing between
  obtain ⟨state, hstate, hstranger⟩ := hsound.stranger_of_leave hleave hstays
  obtain ⟨room, hroom, rfl⟩ := Lobby.exists_room hstate
  have hnext : (venue.run (leave number user)).2.Sound :=
    (hsound.obeys_leaveRoom number user).sound ((hsound.leaveVerdict number user).enact hsound)
  obtain ⟨journal, hrun⟩ :=
    ((hnext.withCircumstances now failing).leads_leave hroom hstranger).run_eq
  exact ⟨_, journal, hrun⟩

end Sound

/-- In every reachable venue, whether writes fail or not, calls without anything to do are granted.
A member who joins is told how things are, and a stranger who leaves is let go; both change nothing.
A permitted command for what the clock does anyhow is announced with a report of the clock, and
nothing else happens. So joining twice is joining once, and leaving twice is leaving once where the
room stays. -/
theorem Reachable.nothing_to_do (hreach : venue.Reachable) (number : RoomId) (user : UserId) :
    (∀ room, venue.lobby.liveRoom? number = some room →
      (room.state.presence.contains user = true → ∃ shown journal journal',
        venue.run (snapshot number) = (.ok shown, { venue with journal }) ∧
        venue.run (join number user) = (.ok shown, { venue with journal := journal' })) ∧
      (room.state.presence.contains user = false → ∃ journal,
        venue.run (leave number user) = (.ok (), { venue with journal })) ∧
      (∀ command, room.state.presence.contains user = true →
        venue.lobby.rules.mayControl room.state.presence.owner user = true →
        room.state.clock.Complies command →
        let event :=
          RoomEvent.playback number user (room.state.clock.report command.action venue.now)
        ∃ journal, venue.run (control number user command) = (.ok event,
          { venue with
            lobby := { venue.lobby with topics := (venue.lobby.topics.publish number event).2 }
            journal }))) ∧
    (∀ shown, (venue.run (join number user)).1 = .ok shown →
      (venue.run (join number user)).2.Settled (join number user)) ∧
    ((venue.run (leave number user)).1 = .ok () →
      ((venue.run (leave number user)).2.lobby.liveRoom? number).isSome = true →
      (venue.run (leave number user)).2.Settled (leave number user)) := by
  have hsound := hreach.sound
  refine ⟨fun room hlive => ?_, fun shown => hsound.settled_join, hsound.settled_leave⟩
  rw [hsound.liveRoom?_eq] at hlive
  refine ⟨fun hmember => ?_, fun hstranger => ?_, fun command hmember hmay hcomplies => ?_⟩
  · obtain ⟨journal, hsnapshot⟩ := (hsound.leads_snapshot hlive).run_eq
    obtain ⟨journal', hjoin⟩ := (hsound.leads_join hlive hmember).run_eq
    exact ⟨_, journal, journal', hsnapshot, hjoin⟩
  · exact (hsound.leads_leave hlive hstranger).run_eq
  · exact (hsound.leads_control hlive hmember hmay hcomplies).run_eq

theorem meeting_nothing_to_do :
    let failing := (Step.alter (.setFailing true)).take meeting
    (∃ journal, failing.run (leave 4 3) = (.ok (), { failing with journal })) ∧
      (meeting.run (leave 4 1)).2.Settled (leave 4 1) := by
  intro failing
  have hreach : failing.Reachable := meeting_reachable.take _ (by decide)
  exact ⟨((hreach.nothing_to_do 4 3).1 _ rfl).2.1 rfl,
    (meeting_reachable.nothing_to_do 4 1).2.2 (by decide) (by decide)⟩

end Venue

end WatchParty
