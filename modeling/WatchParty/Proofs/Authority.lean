/-
# Who may change or see a room

Whoever gives a command to a room has to be in it, and may have to own it; whoever talks has to be
in it, and is named as the sender; whoever reads what was said has to be in it. Nobody comes or goes
by what somebody else does. So each part of a room answers to one kind of call, and to the right
caller. What is done by way of a connection counts as a call of the connected user, and so does the
leaving that follows when the user's last connection is closed.
-/

import WatchParty.Proofs.Course

namespace WatchParty

open Operation Verdict

namespace Step

/-- A step is a playback command on a room that is granted to a participant, who owns the room if
only owners may give such commands. -/
def Steers (venue : Venue) (number : RoomId) (room : Room) (step : Step) : Prop :=
  ∃ user command, step.call? venue = some (.control number user command) ∧
    (step.answer? venue).isSome = true ∧ room.state.presence.contains user = true ∧
    (venue.lobby.rules.ownerOnlyControl = true → room.state.presence.owner = some user)

/-- A step is a chat message to a room that is granted to a participant, whose account is the sender
of what is posted. -/
def Posts (venue : Venue) (number : RoomId) (room : Room) (message : Message) (step : Step) :
    Prop :=
  ∃ content, step.call? venue = some (.chat number message.sender.id content) ∧
    (step.answer? venue).isSome = true ∧
    room.state.presence.contains message.sender.id = true ∧
    venue.store.users.get? message.sender.id = some message.sender ∧
    Room.checkMessage venue.lobby.rules content = .ok message.content

/-- A step is a join or a leave of a user. Closing the last connection of a user to a room is a
leave. -/
def Moves (venue : Venue) (number : RoomId) (user : UserId) (step : Step) : Prop :=
  step.call? venue = some (.join number user) ∨ step.call? venue = some (.leave number user)

end Step

namespace Venue

/-- What a step may change of a live room, and what may be seen of it. -/
structure Guards (venue : Venue) (number : RoomId) (room : Room) (step : Step) : Prop where
  clock : ∀ clock, (step.take venue).clock? number = some clock → clock ≠ room.state.clock →
    step.Steers venue number room
  /-- The stored playback. -/
  playback : ∀ row, (step.take venue).store.rooms.get? number = some row →
    (venue.store.rooms.get? number).map (·.playback) ≠ some row.playback →
    step.Steers venue number room
  /-- Messages are added by those who post them, until the room and its history go. -/
  history : ∃ said, (step.take venue).store.history number =
      (if ((step.take venue).lobby.liveRoom? number).isSome then
        venue.store.history number ++ said else []) ∧
    ∀ message ∈ said, step.Posts venue number room message
  /-- Those who neither join nor leave are there as they were, with the same instant of joining. -/
  participants : ∀ participant, ¬ step.Moves venue number participant.user →
    (participant ∈ (step.take venue).roster number ↔ participant ∈ venue.roster number)
  /-- The stored participants. -/
  rows : ∀ participant, ¬ step.Moves venue number participant.user →
    (participant ∈ (step.take venue).store.roster number ↔
      participant ∈ venue.store.roster number)
  readers : ∀ user messages, (venue.run (Venue.messages number user)).1 = .ok messages →
    room.state.presence.contains user = true

end Venue

/-- What a granted call does to a room makes no difference to those who do not call. -/
theorem Core.Affects.mem_roster_iff {core : Core} {number : RoomId} {state later : RoomState}
    {call : Call} {said : List Message} {event : RoomEvent}
    (haffects : core.Affects number state call (some later) said event)
    {participant : Participant} (hjoin : call ≠ .join number participant.user)
    (hleave : call ≠ .leave number participant.user) :
    participant ∈ later.presence.roster ↔ participant ∈ state.presence.roster := by
  cases haffects with
  | @enter user huser habsent now hnow =>
      have hne : participant.user ≠ user.id := fun heq => hjoin (heq ▸ rfl)
      rw [RoomState.welcome, Presence.join_of_not_contains habsent]
      refine Roster.mem_enrol.trans ⟨?_, fun hmem => .inr ⟨hmem, hne⟩⟩
      rintro (rfl | ⟨hmem, -⟩)
      · exact absurd rfl hne
      · exact hmem
  | @depart user hmember hothers now hnow =>
      have hne : participant.user ≠ user := fun heq => hleave (heq ▸ rfl)
      rw [RoomState.release, Presence.leave_roster]
      exact Roster.mem_dismiss.trans ⟨fun h => h.1, fun hmem => ⟨hmem, hne⟩⟩
  | steer => exact Iff.rfl
  | talk => exact Iff.rfl

namespace Venue

variable {venue : Venue} {number : RoomId} {state : RoomState}

/-- Only a participant is given the history of a room. -/
theorem Sound.contains_of_messages (hsound : venue.Sound)
    (hleft : venue.store.lastId < maxIdentifier)
    (hstate : venue.lobby.states.get? number = some state) {user : UserId}
    {messages : List Message}
    (hanswer : (venue.run (Venue.messages number user)).1 = .ok messages) :
    state.presence.contains user = true := by
  have hcall : (venue.run (Call.messages number user).operation).1 = .ok (.history messages) := by
    have hmap := ((hsound.obeys_roomMessages number user).map Answer.history).answer_eq
    rw [enact_map, ← (hsound.obeys_roomMessages number user).answer_eq, hanswer] at hmap
    exact hmap
  generalize hreply : Answer.history messages = answer at hcall
  cases hsound.reply hleft hcall with
  | history hcurrent hmember =>
      cases hcurrent.symm.trans hstate
      exact hmember

namespace Sound

variable (hsound : venue.Sound) (hleft : venue.store.lastId < maxIdentifier) {room : Room}
  (hroom : venue.lobby.rooms.get? room.id = some room) {step : Step}

include hsound hleft hroom

/-- The clock of a room changes by playback commands only. -/
theorem steers_of_clock {later : RoomState}
    (hlater : (step.take venue).lobby.states.get? room.id = some later)
    (hchanged : later.clock ≠ room.state.clock) : step.Steers venue room.id room := by
  have hstate := Lobby.states_get? hroom
  cases hsound.course hleft step hstate with
  | undisturbed hsame _ _ =>
      cases hlater.symm.trans hsame
      exact absurd rfl hchanged
  | affected hcall hanswer haffects hbecomes _ _ =>
      cases haffects with
      | steer hmember hmay _ command _ =>
          refine ⟨_, command, hcall, ?_, hmember, fun hrule => ?_⟩
          · rw [Step.answer?_eq_some.mpr ⟨_, hcall, hanswer⟩]
            rfl
          · have hmay' : (!venue.lobby.rules.ownerOnlyControl ||
                room.state.presence.owner == some _) = true := hmay
            rw [hrule] at hmay'
            exact eq_of_beq hmay'
      | vacate => cases hlater.symm.trans hbecomes
      | _ =>
          cases hlater.symm.trans hbecomes
          exact absurd rfl hchanged

/-- The stored playback is that of the clock, and so changes by playback commands only. -/
theorem steers_of_playback {row : RoomRecord}
    (hrow : (step.take venue).store.rooms.get? room.id = some row)
    (hchanged : (venue.store.rooms.get? room.id).map (·.playback) ≠ some row.playback) :
    step.Steers venue room.id room := by
  have hnext := hsound.take hleft step
  have hlive : (step.take venue).lobby.states.contains room.id = true := by
    rw [← hnext.describes.contains]
    exact IdMap.contains_of_get? hrow
  obtain ⟨later, hlater⟩ := Option.isSome_iff_exists.mp hlive
  apply hsound.steers_of_clock hleft hroom hlater
  intro hclock
  apply hchanged
  cases hrow.symm.trans (hnext.describes.get?_rooms hlater)
  rw [hsound.describes.get?_rooms (Lobby.states_get? hroom), Option.map_some,
    (hsound.backed hroom).sound.playback,
    (hnext.describes.backed _ _ hlater).sound.playback, hclock]

/-- What is added to a history was posted. -/
theorem history_take : ∃ said, (step.take venue).store.history room.id =
      (if ((step.take venue).lobby.liveRoom? room.id).isSome then
        venue.store.history room.id ++ said else []) ∧
    ∀ message ∈ said, step.Posts venue room.id room message := by
  have hnext := hsound.take hleft step
  have hlive : ((step.take venue).lobby.liveRoom? room.id).isSome =
      ((step.take venue).lobby.states.get? room.id).isSome := hnext.isSome_liveRoom? room.id
  rw [hlive]
  cases hsound.course hleft step (Lobby.states_get? hroom) with
  | undisturbed hsame hhistory _ =>
      refine ⟨[], ?_, fun _ hmem => (nomatch hmem)⟩
      rw [hsame, hhistory, List.append_nil, Option.isSome_some, if_pos rfl]
  | @affected _ _ _ said _ hcall hanswer haffects hbecomes hhistory _ =>
      refine ⟨said, by rw [hbecomes, hhistory], fun message hmem => ?_⟩
      cases haffects with
      | talk hmember htext _ hsender hcontent _ =>
          obtain rfl := List.mem_singleton.mp hmem
          have hid := (hsound.numbered.users _ _ hsender).1
          rw [← hid] at hcall hmember hsender
          refine ⟨_, hcall, ?_, hmember, hsender, hcontent ▸ htext⟩
          rw [Step.answer?_eq_some.mpr ⟨_, hcall, hid ▸ hanswer⟩]
          rfl
      | _ => cases hmem

/-- Nobody comes or goes by what somebody else does. -/
theorem mem_roster_take {participant : Participant}
    (hmoves : ¬ step.Moves venue room.id participant.user) :
    participant ∈ (step.take venue).roster room.id ↔ participant ∈ venue.roster room.id := by
  have hnext := hsound.take hleft step
  have hstate := Lobby.states_get? hroom
  rw [hsound.roster_eq hstate]
  cases hsound.course hleft step hstate with
  | undisturbed hsame _ _ => rw [hnext.roster_eq hsame]
  | @affected call _ becomes _ _ hcall _ haffects hbecomes _ _ =>
      have hjoin : call ≠ .join room.id participant.user :=
        fun heq => hmoves (.inl (hcall.trans (congrArg some heq)))
      have hleave : call ≠ .leave room.id participant.user :=
        fun heq => hmoves (.inr (hcall.trans (congrArg some heq)))
      cases becomes with
      | some later =>
          rw [hnext.roster_eq hbecomes]
          exact haffects.mem_roster_iff hjoin hleave
      | none =>
          -- The room is gone with its last participant, who left.
          rw [Venue.roster, hnext.liveRoom?_eq_none.mpr hbecomes]
          refine ⟨fun h => absurd h List.not_mem_nil, fun hmem => ?_⟩
          cases haffects with
          | vacate _ hlast _ =>
              have hself := Roster.dismiss_eq_nil_iff.mp hlast _ (Roster.has_of_mem hmem)
              exact absurd (hself ▸ rfl) hleave

end Sound

/-- In every reachable venue, a step changes of a live room only what its maker may change: the
clock by a command of a participant who may control it, the history by a message of a participant
in the participant's own name, and who is there by joining and leaving oneself. Only participants
are given the history. -/
theorem Reachable.guards (hreach : venue.Reachable) {room : Room}
    (hroom : venue.lobby.liveRoom? number = some room) (step : Step) :
    venue.Guards number room step := by
  have hsound := hreach.sound
  have hleft := hreach.lastId_lt
  have hnext := hsound.take hleft step
  rw [hsound.liveRoom?_eq] at hroom
  obtain rfl := hsound.room_id hroom
  constructor
  · intro clock hclock hchanged
    rw [hnext.clock?_eq] at hclock
    obtain ⟨later, hlater, rfl⟩ := Option.map_eq_some_iff.mp hclock
    exact hsound.steers_of_clock hleft hroom hlater hchanged
  · exact fun row hrow hchanged => hsound.steers_of_playback hleft hroom hrow hchanged
  · exact hsound.history_take hleft hroom
  · exact fun participant hmoves => hsound.mem_roster_take hleft hroom hmoves
  · intro participant hmoves
    rw [hnext.store_roster, hsound.store_roster]
    exact hsound.mem_roster_take hleft hroom hmoves
  · exact fun user messages hanswer =>
      hsound.contains_of_messages hleft (Lobby.states_get? hroom) hanswer

/-- The second participant starts the video, which needs a participant to do so. -/
theorem meeting_guards :
    let step := Step.ask (.control 4 2 .play)
    ∃ room, meeting.lobby.liveRoom? 4 = some room ∧ meeting.Guards 4 room step ∧
      step.Steers meeting 4 room := by
  intro step
  have hlive : (meeting.lobby.liveRoom? 4).isSome = true := by decide +kernel
  obtain ⟨room, hroom⟩ := Option.isSome_iff_exists.mp hlive
  have hguards := meeting_reachable.guards hroom step
  have hafter : ((step.take meeting).clock? 4).isSome = true := by decide +kernel
  obtain ⟨clock, hclock⟩ := Option.isSome_iff_exists.mp hafter
  have hchanged : (step.take meeting).clock? 4 ≠ meeting.clock? 4 := by decide +kernel
  refine ⟨room, hroom, hguards, hguards.clock clock hclock fun hsame => hchanged ?_⟩
  rw [hclock, clock?, hroom, hsame, Option.map_some]

end Venue

end WatchParty
