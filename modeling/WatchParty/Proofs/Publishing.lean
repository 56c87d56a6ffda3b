/-
# Which calls publish

A granted call publishes one event to the topic of its room if somebody comes who was not there, if
somebody goes who was, if the video is controlled, even to no effect, or if somebody talks. Nothing
else that happens publishes anything: not what is refused, not what is only asked, and not what
listeners do.

Starting over is left out, because it makes new topics. What the events tell is said elsewhere.
-/

import WatchParty.Proofs.Change

namespace WatchParty

open Operation

/-- Whether readers of a live room find a user among its members. -/
def Lobby.hasMember (lobby : Lobby) (number : RoomId) (user : UserId) : Bool :=
  (lobby.liveRoom? number).any fun room => room.view.members.any (·.user.id = user)

namespace Call

/-- The room to whose topic a call publishes if it is granted. -/
def publishesTo (lobby : Lobby) : Call → Option RoomId
  | .join number user => if lobby.hasMember number user then none else some number
  | .leave number user => if lobby.hasMember number user then some number else none
  | .control number _ _ => some number
  | .chat number _ _ => some number
  | _ => none

/-- An event is the news that a call makes. -/
def Announces (event : RoomEvent) : Call → Prop
  | .join number _ =>
    ∃ members owner deleted now, event = .presence number members owner deleted now
  | .leave number _ =>
    ∃ members owner deleted now, event = .presence number members owner deleted now
  | .control number user command =>
    ∃ report, event = .playback number user report ∧ report.action = command.action
  | .chat number _ _ => ∃ message, event = .chat number message
  | _ => False

end Call

namespace Venue

variable {venue next : Venue} {number : RoomId}

/-- Between two venues one event is published, to the topic of a live room. Nothing else happens to
topics, except that this one closes if the room is not live any more. -/
def Publishes (venue : Venue) (number : RoomId) (event : RoomEvent) (next : Venue) : Prop :=
  let published := (venue.lobby.topics.publish number event).2
  (venue.lobby.liveRoom? number).isSome = true ∧
    next.lobby.topics =
      if (next.lobby.liveRoom? number).isSome then published else published.closeTopic number

/-- Between two venues nothing is published, and at most a topic is opened for a new room. -/
def Silent (venue next : Venue) : Prop :=
  next.lobby.topics = venue.lobby.topics ∨
    ∃ number, venue.lobby.liveRoom? number = none ∧
      next.lobby.topics = venue.lobby.topics.openTopic number

/-- A step publishes one event if it makes a call that is granted and that is news to a room, and
publishes nothing otherwise. -/
structure PublishesOnce (venue : Venue) (step : Step) : Prop where
  news : ∀ call answer number, step.call? venue = some call →
    (venue.run call.operation).1 = .ok answer → call.publishesTo venue.lobby = some number →
    ∃ event, call.Announces event ∧ venue.Publishes number event (step.take venue)
  silent : ∀ call answer, step.call? venue = some call →
    (venue.run call.operation).1 = .ok answer → call.publishesTo venue.lobby = none →
    venue.Silent (step.take venue)
  refused : ∀ call error, step.call? venue = some call →
    (venue.run call.operation).1 = .error error →
    (step.take venue).lobby.topics = venue.lobby.topics
  /-- Listeners come, go and receive. -/
  listening : step.call? venue = none →
    (step.take venue).lobby.topics = venue.lobby.topics.follow step.listens

theorem still_snapshot (number : RoomId) : Still (snapshot number) := by
  apply (still_findRoom number).bind
  intro room
  rw [Room.snapshot]
  cases room.view.deleted with
  | true => exact .throw _
  | false => exact Still.get.bind fun _ => .pure _

theorem still_headCount (number : RoomId) : Still (headCount number) :=
  (still_findRoom number).bind fun _ => .pure _

/-- A room is live if it has a state. -/
theorem Sound.isSome_liveRoom? (hsound : venue.Sound) (number : RoomId) :
    (venue.lobby.liveRoom? number).isSome = venue.core.states.contains number := by
  rw [hsound.liveRoom?_eq, core, Lobby.contains_states, IdMap.contains_eq_isSome]

theorem Sound.hasMember_eq (hsound : venue.Sound) {state : RoomState}
    (hstate : venue.core.states.get? number = some state) (user : UserId) :
    venue.lobby.hasMember number user = state.presence.contains user := by
  obtain ⟨room, hroom, rfl⟩ := Lobby.exists_room hstate
  rw [Lobby.hasMember, hsound.liveRoom?_eq, hroom, Option.any_some, hsound.view_eq hroom]
  exact (hsound.backed hroom).sound.any_members user

/-- A call without anything to change is no news. -/
theorem Sound.publishesTo_of_idle (hsound : venue.Sound) {call : Call}
    (hidle : venue.core.Idle call) : call.publishesTo venue.lobby = none := by
  cases call with
  | join number user =>
      obtain ⟨state, hstate, hmember⟩ := hidle
      rw [Call.publishesTo, hsound.hasMember_eq hstate, hmember]
      rfl
  | leave number user =>
      obtain ⟨state, hstate, habsent⟩ := hidle
      rw [Call.publishesTo, hsound.hasMember_eq hstate, habsent]
      rfl
  | messages number user => rfl
  | _ => exact hidle.elim

/-- An event goes to a room that keeps a state. -/
theorem Sound.publishes (hsound : venue.Sound) (hnext : next.Sound) {event : RoomEvent}
    (hlive : venue.core.states.contains number = true)
    (hstays : next.core.states.contains number = true)
    (htopics : next.core.topics = (venue.core.topics.publish number event).2) :
    venue.Publishes number event next := by
  refine ⟨(hsound.isSome_liveRoom? number).trans hlive, ?_⟩
  rw [hnext.isSome_liveRoom?, hstays]
  exact htopics

/-- A change is news of its call to one room, or else opens the topic of a new one. -/
theorem Sound.publishes_of_change (hsound : venue.Sound) (hnext : next.Sound)
    (hleft : venue.store.lastId < maxIdentifier) {call : Call}
    (hchange : venue.core.Change call next.core) :
    (∃ number event, call.publishesTo venue.lobby = some number ∧ call.Announces event ∧
      venue.Publishes number event next) ∨
    (call.publishesTo venue.lobby = none ∧ venue.Silent next) := by
  generalize hcore : next.core = core at hchange
  have hstates : next.core.states = core.states := congrArg Core.states hcore
  have htopics : next.core.topics = core.topics := congrArg Core.topics hcore
  have hpresence : ∀ {number state}, venue.core.states.get? number = some state →
      ∀ members owner deleted now, ∃ members' owner' deleted' now',
        RoomEvent.presence state.data.id members owner deleted now =
          .presence number members' owner' deleted' now' := by
    intro number state hstate members owner deleted now
    rw [(hsound.describes.backed number state hstate).numbered]
    exact ⟨members, owner, deleted, now, rfl⟩
  have hinserted : ∀ {number state}, core.states = venue.core.states.insert number state →
      next.core.states.contains number = true := by
    intro number state hinsert
    rw [hstates, hinsert]
    exact IdMap.contains_of_get? (IdMap.get?_insert_self _ _ _)
  cases hchange with
  | @found user content title owner shown howner hshown state hstate =>
      right
      have hnumber : state.data.id = venue.store.nextId := by
        rw [hstate]
        rfl
      refine ⟨rfl, .inr ⟨state.data.id, ?_, htopics⟩⟩
      rw [hnumber, ← Option.not_isSome_iff_eq_none, hsound.isSome_liveRoom?,
        IdMap.contains_eq_isSome, Bool.not_eq_true]
      exact congrArg Option.isSome (hsound.get?_nextId hleft)
  | @enter number user state hstate huser habsent now hnow =>
      refine .inl ⟨number, _, ?_, ?_, hsound.publishes hnext
        (IdMap.contains_of_get? hstate) (hinserted rfl) htopics⟩
      · rw [Call.publishesTo, hsound.hasMember_eq hstate, habsent]
        rfl
      · exact hpresence hstate _ _ _ _
  | @depart number user state hstate hmember hothers now hnow =>
      refine .inl ⟨number, _, ?_, ?_, hsound.publishes hnext
        (IdMap.contains_of_get? hstate) (hinserted rfl) htopics⟩
      · rw [Call.publishesTo, hsound.hasMember_eq hstate, hmember]
        rfl
      · exact hpresence hstate _ _ _ _
  | @vacate number user state hstate hmember hlast now hnow =>
      refine .inl ⟨number, (state.release user).presenceEvent now, ?_, hpresence hstate _ _ _ _, ?_⟩
      · rw [Call.publishesTo, hsound.hasMember_eq hstate, hmember]
        rfl
      · refine ⟨(hsound.isSome_liveRoom? number).trans (IdMap.contains_of_get? hstate), ?_⟩
        rw [hnext.isSome_liveRoom?, hstates, IdMap.contains_erase, if_neg (by simp)]
        exact htopics
  | @steer number user state hstate hmember hmay now hnow command clock hclock =>
      exact .inl ⟨number, _, rfl, ⟨_, rfl, rfl⟩, hsound.publishes hnext
        (IdMap.contains_of_get? hstate) (hinserted rfl) htopics⟩
  | @talk number user state hstate hmember content text htext message hid hroom hsender hcontent
      hnow =>
      have hlive := IdMap.contains_of_get? hstate
      refine .inl ⟨number, _, rfl, ⟨message, rfl⟩, hsound.publishes hnext hlive ?_ htopics⟩
      rw [hstates]
      exact hlive

/-- Whatever happens to a sound venue publishes once at most. -/
theorem Sound.publishesOnce (hsound : venue.Sound) (hleft : venue.store.lastId < maxIdentifier)
    {step : Step} (hsame : ∀ rules, step ≠ .restart rules) : venue.PublishesOnce step := by
  have hnext := hsound.take hleft step
  have hgranted : ∀ call answer, step.call? venue = some call →
      (venue.run call.operation).1 = .ok answer →
      (∃ number event, call.publishesTo venue.lobby = some number ∧ call.Announces event ∧
        venue.Publishes number event (step.take venue)) ∨
      (call.publishesTo venue.lobby = none ∧ venue.Silent (step.take venue)) := by
    intro call answer hcall hok
    cases hsound.take_call hleft hcall with
    | refused herror _ => cases hok.symm.trans herror
    | idle _ hidle hsame =>
        exact .inr ⟨hsound.publishesTo_of_idle hidle, .inl (congrArg Core.topics hsame)⟩
    | changed _ hchange => exact hsound.publishes_of_change hnext hleft hchange
  refine ⟨?_, ?_, ?_, fun hcall => (hsound.take_quiet hleft hcall hsame).topics⟩
  · intro call answer number hcall hok hnews
    rcases hgranted call answer hcall hok with ⟨_, event, hnews', hevent, hpublishes⟩ | ⟨hnone, -⟩
    · cases hnews.symm.trans hnews'
      exact ⟨event, hevent, hpublishes⟩
    · cases hnews.symm.trans hnone
  · intro call answer hcall hok hnone
    rcases hgranted call answer hcall hok with ⟨_, _, hnews, -⟩ | ⟨-, hsilent⟩
    · cases hnone.symm.trans hnews
    · exact hsilent
  · intro call error hcall herror
    cases hsound.take_call hleft hcall with
    | refused _ hsame => exact congrArg Core.topics hsame
    | idle hok _ _ => cases herror.symm.trans hok
    | changed hok _ => cases herror.symm.trans hok

end Venue

end WatchParty
