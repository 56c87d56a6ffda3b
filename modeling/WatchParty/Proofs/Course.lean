/-
# What becomes of a room

A granted call does one of five things to the room that it is about: somebody enters it, somebody
departs, the last one vacates it, its clock is steered, or somebody talks. Each has its next state,
its messages and its event. For a room that is there, every other step is of no consequence, and a
room that is not there can only be founded.

This is the view of one room on what steps change in all rooms. The other side of a granted call,
its answer, is described here as well.
-/

import WatchParty.Proofs.Connections
import WatchParty.Proofs.Lineage
import WatchParty.Proofs.Publishing

namespace WatchParty

open Operation Verdict Topics

/-- What a granted call does to the room that it is about: the next state of the room if it stays,
the messages that are added, and the event that tells of it. -/
inductive Core.Affects (core : Core) (number : RoomId) (state : RoomState) :
    Call → Option RoomState → List Message → RoomEvent → Prop where
  | enter {user : User} (huser : core.store.users.get? user.id = some user)
      (habsent : state.presence.contains user.id = false) {now : Instant}
      (hnow : now = state.clock.noEarlier core.now) :
      Affects core number state (.join number user.id) (some (state.welcome user now)) []
        ((state.welcome user now).presenceEvent now)
  | depart {user : UserId} (hmember : state.presence.contains user = true)
      (hothers : state.presence.roster.dismiss user ≠ []) {now : Instant}
      (hnow : now = state.clock.noEarlier core.now) :
      Affects core number state (.leave number user) (some (state.release user)) []
        ((state.release user).presenceEvent now)
  | vacate {user : UserId} (hmember : state.presence.contains user = true)
      (hlast : state.presence.roster.dismiss user = []) {now : Instant}
      (hnow : now = state.clock.noEarlier core.now) :
      Affects core number state (.leave number user) none []
        ((state.release user).presenceEvent now)
  | steer {user : UserId} (hmember : state.presence.contains user = true)
      (hmay : core.rules.mayControl state.presence.owner user = true) {now : Instant}
      (hnow : now = state.clock.noEarlier core.now) (command : Command) {clock : Clock}
      (hclock : clock = state.clock.apply command now) :
      Affects core number state (.control number user command) (some (state.steer clock)) []
        (.playback number user (clock.report command.action now))
  | talk {user : UserId} (hmember : state.presence.contains user = true)
      {content text : String} (htext : Room.checkMessage core.rules content = .ok text)
      {message : Message} (hroom : message.room = number)
      (hsender : core.store.users.get? user = some message.sender)
      (hcontent : message.content = text)
      (hnow : message.createdAt = state.clock.noEarlier core.now) :
      Affects core number state (.chat number user content) (some state) [message]
        (.chat number message)

namespace Step

/-- The answer to the call that a step makes, if it makes one that is granted. -/
def answer? (venue : Venue) (step : Step) : Option Answer :=
  (step.call? venue).bind fun call => (venue.run call.operation).1.toOption

/-- Those who listen to a room are owed some events by a step. Nobody listens to a new system
yet. -/
def Owes (venue : Venue) (number : RoomId) (events : List RoomEvent) (step : Step) : Prop :=
  (∃ rules, step = .restart rules ∧ events = []) ∨
    ∃ acts, (step.take venue).lobby.topics = venue.lobby.topics.follow acts ∧
      owed number acts = events

variable {venue : Venue} {step : Step} {answer : Answer}

theorem answer?_eq_some : step.answer? venue = some answer ↔
    ∃ call, step.call? venue = some call ∧ (venue.run call.operation).1 = .ok answer := by
  rw [answer?, Option.bind_eq_some_iff]
  constructor
  · rintro ⟨call, hcall, hanswer⟩
    refine ⟨call, hcall, ?_⟩
    cases hrun : (venue.run call.operation).1 with
    | error error =>
        rw [hrun] at hanswer
        cases hanswer
    | ok value =>
        rw [hrun] at hanswer
        cases hanswer
        rfl
  · rintro ⟨call, hcall, hanswer⟩
    exact ⟨call, hcall, by rw [hanswer]; rfl⟩

end Step

namespace Venue

/-- What becomes of a live room in a step. -/
inductive Course (venue : Venue) (step : Step) (number : RoomId) (state : RoomState) : Prop where
  /-- The room stays as it is, and nothing is told of it. -/
  | undisturbed
      (hstate : (step.take venue).lobby.states.get? number = some state)
      (hhistory : (step.take venue).store.history number = venue.store.history number)
      (howes : step.Owes venue number [])
  /-- A call is granted that is about the room. -/
  | affected {call : Call} {answer : Answer} {later : Option RoomState} {said : List Message}
      {event : RoomEvent} (hcall : step.call? venue = some call)
      (hanswer : (venue.run call.operation).1 = .ok answer)
      (haffects : venue.core.Affects number state call later said event)
      (hstate : (step.take venue).lobby.states.get? number = later)
      (hhistory : (step.take venue).store.history number =
        if later.isSome then venue.store.history number ++ said else [])
      (howes : step.Owes venue number [event])

variable {venue : Venue} {step : Step} {number other : RoomId} {state later : RoomState}

/-- A room takes a state, and an event tells of that and of what is said. -/
theorem Course.of_insert {call : Call} {answer : Answer} {said : List Message} {event : RoomEvent}
    (hstate : venue.lobby.states.get? number = some state) (hcall : step.call? venue = some call)
    (hanswer : (venue.run call.operation).1 = .ok answer)
    (haffects : ∀ current, venue.lobby.states.get? other = some current →
      venue.core.Affects other current call (some later) said event)
    (hstates : (step.take venue).lobby.states = venue.lobby.states.insert other later)
    (hhistory : (step.take venue).store.history number =
      venue.store.history number ++ if other = number then said else [])
    (htopics : (step.take venue).lobby.topics = (venue.lobby.topics.publish other event).2) :
    venue.Course step number state := by
  by_cases hroom : other = number
  · subst hroom
    refine .affected hcall hanswer (haffects state hstate) ?_ ?_
      (.inr ⟨[.publish other event], htopics, ?_⟩)
    · rw [hstates, IdMap.get?_insert_self]
    · rw [hhistory, if_pos rfl, Option.isSome_some, if_pos rfl]
    · simp [owed, Act.closes, Act.news]
  · refine .undisturbed ?_ ?_ (.inr ⟨[.publish other event], htopics, ?_⟩)
    · rw [hstates, IdMap.get?_insert, if_neg (Ne.symm hroom), hstate]
    · rw [hhistory, if_neg hroom, List.append_nil]
    · simp [owed, Act.closes, Act.news, hroom]

/-- A change is about one room, and leaves all others as they are. -/
theorem Sound.course_of_change (hsound : venue.Sound) (hleft : venue.store.lastId < maxIdentifier)
    (hstate : venue.lobby.states.get? number = some state) {call : Call} {answer : Answer}
    (hcall : step.call? venue = some call) (hanswer : (venue.run call.operation).1 = .ok answer)
    (hchange : venue.core.Change call (step.take venue).core) : venue.Course step number state := by
  generalize hcore : (step.take venue).core = core at hchange
  have hstates : (step.take venue).lobby.states = core.states := congrArg Core.states hcore
  have hstore : (step.take venue).store = core.store := congrArg Core.store hcore
  have htopics : (step.take venue).lobby.topics = core.topics := congrArg Core.topics hcore
  have hsilent : core.store.messages = venue.store.messages → ∀ other : RoomId,
      (step.take venue).store.history number =
        venue.store.history number ++ if other = number then [] else [] := by
    intro hmessages other
    rw [hstore, Store.history_eq_of_messages hmessages, ite_self, List.append_nil]
  cases hchange with
  | @found user content title owner shown howner hshown new hnew =>
      have hne : number ≠ new.data.id := by
        rintro rfl
        rw [hnew] at hstate
        have hfresh := hsound.get?_nextId hleft
        cases hfresh.symm.trans hstate
      refine .undisturbed ?_ (congrArg (·.history number) hstore)
        (.inr ⟨[.openTopic new.data.id], htopics, rfl⟩)
      rw [hstates]
      exact (IdMap.get?_insert _ _ _ _).trans ((if_neg hne).trans hstate)
  | @enter room user current hcurrent huser habsent now hnow =>
      refine .of_insert hstate hcall hanswer (fun found hfound => ?_) hstates (hsilent rfl _)
        htopics
      cases hcurrent.symm.trans hfound
      exact .enter huser habsent hnow
  | @depart room user current hcurrent hmember hothers now hnow =>
      refine .of_insert hstate hcall hanswer (fun found hfound => ?_) hstates (hsilent rfl _)
        htopics
      cases hcurrent.symm.trans hfound
      exact .depart hmember hothers hnow
  | @vacate room user current hcurrent hmember hlast now hnow =>
      by_cases hroom : number = room
      · subst hroom
        cases hcurrent.symm.trans hstate
        refine .affected hcall hanswer (.vacate hmember hlast hnow) ?_ ?_
          (.inr ⟨[.publish number _, .closeTopic number], htopics, ?_⟩)
        · rw [hstates, IdMap.get?_erase, if_pos rfl]
        · rw [hstore, Store.history, Store.forget, List.filter_filter]
          simp
        · simp [owed, Act.closes, Act.news]
      · refine .undisturbed ?_ ?_ (.inr ⟨[.publish room _, .closeTopic room], htopics, ?_⟩)
        · rw [hstates, IdMap.get?_erase, if_neg hroom]
          exact hstate
        · rw [hstore]
          exact Store.history_forget hroom
        · simp [owed, Act.closes, Act.news, Ne.symm hroom]
  | @steer room user current hcurrent hmember hmay now hnow command clock hclock =>
      refine .of_insert hstate hcall hanswer (fun found hfound => ?_) hstates (hsilent rfl _)
        htopics
      cases hcurrent.symm.trans hfound
      exact .steer hmember hmay hnow command hclock
  | @talk room user current hcurrent hmember content text htext message hid hroom hsender
      hcontent hnow =>
      have hstay := hstates.trans (IdMap.insert_eq_self hcurrent).symm
      have hsaid : (step.take venue).store.history number =
          venue.store.history number ++ if room = number then [message] else [] := by
        rw [hstore, Store.history_post, hroom]
        rfl
      refine .of_insert hstate hcall hanswer (fun found hfound => ?_) hstay hsaid htopics
      cases hcurrent.symm.trans hfound
      exact .talk hmember htext hroom hsender hcontent hnow

/-- What happens without a change of rooms is of no consequence to any of them. -/
theorem Course.of_quiet (hstate : venue.lobby.states.get? number = some state)
    (hquiet : venue.core.Quiet step.listens (step.take venue).core) :
    venue.Course step number state := by
  refine .undisturbed ?_ (Store.history_eq_of_messages hquiet.messages number)
    (.inr ⟨step.listens, hquiet.topics, ?_⟩)
  · rw [← hstate]
    exact congrArg (·.get? number) hquiet.states
  · cases step <;> rfl

/-- What becomes of a live room in a step: it stays as it is, or a granted call is about it. -/
theorem Sound.course (hsound : venue.Sound) (hleft : venue.store.lastId < maxIdentifier)
    (step : Step) (hstate : venue.lobby.states.get? number = some state) :
    venue.Course step number state := by
  obtain ⟨rules, rfl⟩ | hsame := step.eq_restart_or_ne
  · obtain ⟨hstore, hstates⟩ := hsound.take_restart rules
    refine .undisturbed ?_ ?_ (.inl ⟨rules, rfl, rfl⟩)
    · rw [hstates, hstate]
    · rw [hstore]
  · rcases hsound.take_cases hleft hsame with ⟨call, answer, hcall, hanswer, hchange⟩ | hquiet
    · exact hsound.course_of_change hleft hstate hcall hanswer hchange
    · exact .of_quiet hstate hquiet

/-- A room that was not there has been founded. -/
theorem Sound.founded (hsound : venue.Sound) (hleft : venue.store.lastId < maxIdentifier)
    {step : Step} (habsent : venue.lobby.states.get? number = none)
    (hlater : (step.take venue).lobby.states.get? number = some later) :
    ∃ user content title, step.call? venue = some (.createRoom user content title) ∧
      ∃ owner shown, later = .found (venue.newRow owner shown title) shown owner := by
  have hstill : (step.take venue).lobby.states ≠ venue.lobby.states := by
    intro hsame
    rw [hsame, habsent] at hlater
    cases hlater
  -- A room that takes a new state was there before, so it is not the one that has come.
  have hinsert : ∀ {room current state}, venue.lobby.states.get? room = some current →
      (step.take venue).lobby.states ≠ venue.lobby.states.insert room state := by
    intro room current state hcurrent hsame
    rw [hsame] at hlater
    rcases IdMap.of_get?_insert hlater with ⟨rfl, -⟩ | hold
    · cases habsent.symm.trans hcurrent
    · cases habsent.symm.trans hold
  obtain ⟨rules, rfl⟩ | hsame := step.eq_restart_or_ne
  · exact absurd (hsound.take_restart rules).2 hstill
  · rcases hsound.take_cases hleft hsame with ⟨call, -, hcall, -, hchange⟩ | hquiet
    · generalize hcore : (step.take venue).core = core at hchange
      have hstates : (step.take venue).lobby.states = core.states := congrArg Core.states hcore
      cases hchange with
      | @found user content title owner shown howner hshown state hstate =>
          refine ⟨user, content, title, hcall, owner, shown, ?_⟩
          rw [hstates] at hlater
          rcases IdMap.of_get?_insert hlater with ⟨-, rfl⟩ | hold
          · exact hstate
          · cases habsent.symm.trans hold
      | enter hcurrent => exact absurd hstates (hinsert hcurrent)
      | depart hcurrent => exact absurd hstates (hinsert hcurrent)
      | vacate hcurrent =>
          rw [hstates] at hlater
          cases habsent.symm.trans (IdMap.of_get?_erase hlater)
      | steer hcurrent => exact absurd hstates (hinsert hcurrent)
      | talk => exact absurd hstates hstill
    · exact absurd hquiet.states hstill

end Venue

namespace Venue

/-- The participants of a live room. -/
def roster (venue : Venue) (number : RoomId) : Roster :=
  ((venue.lobby.liveRoom? number).map (·.state.presence.roster)).getD []

/-- The clock of a live room. -/
def clock? (venue : Venue) (number : RoomId) : Option Clock :=
  (venue.lobby.liveRoom? number).map (·.state.clock)

namespace Sound

variable {venue : Venue} (hsound : venue.Sound) {number : RoomId} {state : RoomState}

include hsound

theorem roster_eq (hstate : venue.lobby.states.get? number = some state) :
    venue.roster number = state.presence.roster := by
  obtain ⟨room, hroom, rfl⟩ := Lobby.exists_room hstate
  rw [Venue.roster, hsound.liveRoom?_eq, hroom]
  rfl

/-- The stored participants are those in the room. -/
theorem store_roster (number : RoomId) : venue.store.roster number = venue.roster number := by
  cases hstate : venue.lobby.states.get? number with
  | none =>
      rw [Store.roster, hsound.describes.participants, IdMap.get?_mapValues, hstate, Venue.roster,
        hsound.liveRoom?_eq_none.mpr hstate]
      rfl
  | some state => rw [hsound.describes.roster hstate, hsound.roster_eq hstate]

theorem clock?_eq (number : RoomId) :
    venue.clock? number = (venue.lobby.states.get? number).map (·.clock) := by
  rw [clock?, hsound.liveRoom?_eq, Lobby.states, IdMap.get?_mapValues, Option.map_map]
  rfl

end Sound

end Venue

/-- What a granted call answers. -/
inductive Core.Replies (core : Core) : Call → Answer → Prop where
  | created {user : UserId} {content : ContentId} (title : Option String) {owner : User}
      {shown : Content} (howner : core.store.users.get? user = some owner)
      (hshown : core.store.contents.get? content = some shown) :
      Replies core (.createRoom user content title)
        (.snapshot
          ((RoomState.found (core.newRow owner shown title) shown owner).snapshot core.now))
  /-- A member who joins is told how things are. -/
  | present {number : RoomId} {user : UserId} {state : RoomState}
      (hstate : core.states.get? number = some state)
      (hmember : state.presence.contains user = true) :
      Replies core (.join number user) (.snapshot (state.snapshot (state.clock.noEarlier core.now)))
  | joined {number : RoomId} {user : User} {state : RoomState}
      (hstate : core.states.get? number = some state)
      (huser : core.store.users.get? user.id = some user)
      (habsent : state.presence.contains user.id = false) {now : Instant}
      (hnow : now = state.clock.noEarlier core.now) :
      Replies core (.join number user.id) (.snapshot ((state.welcome user now).snapshot now))
  | left {number : RoomId} {user : UserId} {state : RoomState}
      (hstate : core.states.get? number = some state) : Replies core (.leave number user) .left
  | applied {number : RoomId} {user : UserId} {state : RoomState}
      (hstate : core.states.get? number = some state) (command : Command) {now : Instant}
      (hnow : now = state.clock.noEarlier core.now) :
      Replies core (.control number user command)
        (.applied (.playback number user
          ((state.clock.apply command now).report command.action now)))
  | posted {number : RoomId} {user : UserId} {state : RoomState} {content : String}
      (hstate : core.states.get? number = some state) {message : Message}
      (hroom : message.room = number) (hsender : core.store.users.get? user = some message.sender)
      (hnow : message.createdAt = state.clock.noEarlier core.now) :
      Replies core (.chat number user content) (.posted message)
  /-- Only members may read. -/
  | history {number : RoomId} {user : UserId} {state : RoomState}
      (hstate : core.states.get? number = some state)
      (hmember : state.presence.contains user = true) :
      Replies core (.messages number user) (.history (core.store.history number))

namespace Venue.Sound

variable {venue : Venue} (hsound : venue.Sound)

include hsound

theorem ensures_reply (call : Call) :
    (call.verdict venue).Ensures fun answer _ => venue.core.Replies call answer := by
  cases call with
  | createRoom user content title =>
      apply Ensures.map
      apply ensures_withUser
      intro owner howner
      cases hcontent : venue.store.contents.get? content with
      | none => exact trivial
      | some shown => exact .created title howner hcontent
  | join number user =>
      apply Ensures.map
      apply ensures_withRoom
      intro room hroom
      have hstate := Lobby.states_get? hroom
      apply ensures_withUser
      intro account haccount
      obtain rfl := (hsound.numbered.users _ _ haccount).1
      apply ensures_ite
      · exact fun hmember => .present hstate hmember
      · exact fun habsent => .joined hstate haccount (Bool.eq_false_iff.mpr habsent) rfl
  | leave number user =>
      apply Ensures.map
      apply ensures_withRoom
      intro room hroom
      have hstate := Lobby.states_get? hroom
      exact ensures_ite (fun _ => .left hstate) fun _ => .left hstate
  | control number user command =>
      apply Ensures.map
      apply ensures_withRoom
      intro room hroom
      have hstate := Lobby.states_get? hroom
      obtain rfl := hsound.room_id hroom
      apply ensures_withUser
      intro _ _
      apply ensures_withMember
      intro _
      apply ensures_ite
      · intro _
        exact ensures_ite (fun _ => .applied hstate command rfl) fun _ =>
          .applied hstate command rfl
      · exact fun _ => trivial
  | chat number user content =>
      apply Ensures.map
      apply ensures_withRoom
      intro room hroom
      have hstate := Lobby.states_get? hroom
      cases Room.checkMessage venue.lobby.rules content with
      | error error => exact trivial
      | ok text =>
          apply ensures_withMember
          intro _
          apply ensures_withUser
          intro sender hsender
          exact .posted hstate rfl hsender rfl
  | messages number user =>
      apply Ensures.map
      apply ensures_withRoom
      intro room hroom
      exact ensures_withMember fun hmember => .history (Lobby.states_get? hroom) hmember

/-- What a granted call answers is read off from what was there. -/
theorem reply (hleft : venue.store.lastId < maxIdentifier) {call : Call} {answer : Answer}
    (hanswer : (venue.run call.operation).1 = .ok answer) : venue.core.Replies call answer := by
  rw [(call.obeys hsound hleft).answer_eq] at hanswer
  exact (hsound.ensures_reply call).of_enact hanswer

end Venue.Sound

end WatchParty
