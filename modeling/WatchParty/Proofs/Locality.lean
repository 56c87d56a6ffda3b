/-
# What a call on a room reads and changes

Whoever joins, leaves, controls or talks in a room deals with that room alone. The call reads the
time, the rules, the accounts, whether writes fail, and the state of the room. It changes the state
and the history of the room and tells its topic, and leaves all other rooms as they are. The shared
counter gives a message its number, and nothing else of it is ever read.

Hence two venues that agree in what is read answer alike, and the room goes through the same in
both.
-/

import WatchParty.Proofs.Genuine

namespace WatchParty

open Operation Verdict Topics

/-- A message whose number does not count. -/
def Message.unnumbered (message : Message) : Message := { message with id := 0 }

/-- An event in which the number of a message does not count. -/
def RoomEvent.unnumbered : RoomEvent → RoomEvent
  | .chat room message => .chat room message.unnumbered
  | event => event

/-- An answer in which the number of a message does not count. -/
def Answer.unnumbered : Answer → Answer
  | .posted message => .posted message.unnumbered
  | answer => answer

/-- A reply in which the number of a message does not count. -/
def CommandReply.unnumbered : CommandReply → CommandReply
  | .posted message => .posted message.unnumbered
  | reply => reply

/-- What becomes of a room. -/
inductive Effect where
  /-- Nothing. -/
  | rests
  /-- It takes a state, messages are added, and an event tells of it. -/
  | turns (state : RoomState) (said : List Message) (event : RoomEvent)
  /-- It goes, and an event says so. -/
  | ends (event : RoomEvent)

namespace Effect

/-- The next state of a room, if it stays. -/
def state? (former : Option RoomState) : Effect → Option RoomState
  | rests => former
  | turns state _ _ => some state
  | ends _ => none

/-- The messages that are added. -/
def said : Effect → List Message
  | turns _ said _ => said
  | _ => []

/-- The next history of a room. -/
def history (former : List Message) : Effect → List Message
  | ends _ => []
  | effect => former ++ effect.said

/-- What is done with the topic of a room. -/
def acts (number : RoomId) : Effect → List (Act RoomEvent)
  | rests => []
  | turns _ _ event => [.publish number event]
  | ends event => [.publish number event, .closeTopic number]

/-- An effect in which the numbers of messages do not count. -/
def unnumbered : Effect → Effect
  | rests => rests
  | turns state said event => turns state (said.map Message.unnumbered) event.unnumbered
  | ends event => ends event.unnumbered

end Effect

namespace Venue

/-- A room goes through an effect, and other rooms do not. -/
structure Undergoes (venue : Venue) (number : RoomId) (effect : Effect) (next : Venue) : Prop where
  now : next.now = venue.now
  rules : next.lobby.rules = venue.lobby.rules
  users : next.store.users = venue.store.users
  failing : next.store.failing = venue.store.failing
  state : next.lobby.states.get? number = effect.state? (venue.lobby.states.get? number)
  rooms : ∀ other, other ≠ number → next.lobby.rooms.get? other = venue.lobby.rooms.get? other
  history : next.store.history number = effect.history (venue.store.history number)
  elsewhere : ∀ other, other ≠ number → next.store.history other = venue.store.history other
  topics : next.lobby.topics = venue.lobby.topics.follow (effect.acts number)

variable {venue next : Venue} {number : RoomId} {effect : Effect} {room : Room} {state : RoomState}
  {event : RoomEvent}

theorem Undergoes.rests (venue : Venue) (number : RoomId) : venue.Undergoes number .rests venue :=
  ⟨rfl, rfl, rfl, rfl, rfl, fun _ _ => rfl, (List.append_nil _).symm, fun _ _ => rfl, rfl⟩

/-- Neither connections nor the journal tell what a room went through. -/
theorem Undergoes.withConnections (hundergoes : venue.Undergoes number effect next)
    (connections : IdMap Connection) (journal : Journal) :
    venue.Undergoes number effect { next.withConnections connections with journal } :=
  ⟨hundergoes.now, hundergoes.rules, hundergoes.users, hundergoes.failing,
    hundergoes.state, hundergoes.rooms, hundergoes.history, hundergoes.elsewhere,
    hundergoes.topics⟩

namespace Sound

variable (hsound : venue.Sound) (hroom : venue.lobby.rooms.get? number = some room)
  (hevent : event.room = number)

include hsound hroom hevent

theorem undergoes_settle :
    venue.Undergoes number (.turns state [] event) (venue.settle room state event) := by
  have hid := hsound.room_id hroom
  subst hevent
  exact
    { now := rfl, rules := rfl, users := rfl, failing := rfl, topics := rfl
      state := by
        show ((venue.lobby.renew room state).announce event).states.get? event.room = _
        rw [Lobby.states_announce, Lobby.states_renew, hid]
        exact IdMap.get?_insert_self _ _ _
      rooms := fun other hother => by
        show (venue.lobby.rooms.insert room.id (room.commit state)).get? other = _
        rw [hid, IdMap.get?_insert, if_neg hother]
      history := (List.append_nil _).symm
      elsewhere := fun _ _ => rfl }

theorem undergoes_dissolve :
    venue.Undergoes number (.ends event) (venue.dissolve room state event) := by
  have hid := hsound.room_id hroom
  subst hevent
  exact
    { now := rfl, rules := rfl, users := rfl, failing := rfl
      state := by
        show (((venue.lobby.renew room state).announce event).remove room.id).states.get? _ = _
        rw [Lobby.states_remove, hid, IdMap.get?_erase, if_pos rfl]
        rfl
      rooms := fun other hother => by
        show ((venue.lobby.rooms.insert room.id (room.commit state)).erase room.id).get? other = _
        rw [IdMap.erase_insert, hid, IdMap.get?_erase, if_neg hother]
      history := by
        show (venue.store.forget room.id).history event.room = _
        simp [hid, Store.history, Store.forget, List.filter_filter, Effect.history]
      elsewhere := fun other hother => Store.history_forget (hid ▸ hother)
      topics := by
        show (venue.lobby.topics.publish event.room event).2.closeTopic room.id = _
        rw [hid]
        rfl }

omit hsound in
theorem undergoes_announce :
    venue.Undergoes number (.turns room.state [] event)
      (venue.withLobby (venue.lobby.announce event)) := by
  subst hevent
  exact
    { now := rfl, rules := rfl, users := rfl, failing := rfl, topics := rfl
      state := Lobby.states_get? hroom
      rooms := fun _ _ => rfl
      history := (List.append_nil _).symm
      elsewhere := fun _ _ => rfl }

omit hsound hevent in
theorem undergoes_converse {message : Message} (hmessage : message.room = number) :
    venue.Undergoes number (.turns room.state [message] (.chat number message))
      (venue.converse message) := by
  subst hmessage
  exact
    { now := rfl, rules := rfl, users := rfl, failing := rfl, topics := rfl
      state := Lobby.states_get? hroom
      rooms := fun _ _ => rfl
      history := by
        show (venue.store.post message).history message.room = _
        rw [Store.history_post, if_pos rfl]
        rfl
      elsewhere := fun other hother => by
        show (venue.store.post message).history other = _
        rw [Store.history_post, if_neg (Ne.symm hother), List.append_nil] }

end Sound

end Venue

/-- Two cores agree in what calls on a room read. -/
structure Core.Agrees (first second : Core) (number : RoomId) : Prop where
  now : second.now = first.now
  rules : second.rules = first.rules
  users : second.store.users = first.store.users
  failing : second.store.failing = first.store.failing
  state : second.states.get? number = first.states.get? number

/-! ## Verdicts in two venues -/

namespace Verdict

variable {α β γ : Type} {first second : Venue} {number : RoomId} {view : α → β}

/-- Two verdicts refuse for the same reason, or they grant answers that look the same and put a room
through what is the same up to the numbers of messages. -/
inductive Kindred (first second : Venue) (number : RoomId) (view : α → β) :
    Verdict α → Verdict α → Prop where
  | refused (error : RoomError) : Kindred first second number view (.refused error) (.refused error)
  | granted (stores : Bool) {value value' : α} (hsame : view value = view value')
    {effect effect' : Effect} (halike : effect.unnumbered = effect'.unnumbered)
    {next next' : Venue} (hfirst : first.Undergoes number effect next)
    (hsecond : second.Undergoes number effect' next') :
    Kindred first second number view (.granted stores value next) (.granted stores value' next')

variable {verdict other : Verdict α}

/-- Two verdicts that grant the same at once. -/
theorem Kindred.same (stores : Bool) (value : α) (effect : Effect) {next next' : Venue}
    (hfirst : first.Undergoes number effect next)
    (hsecond : second.Undergoes number effect next') :
    Kindred first second number view (.granted stores value next) (.granted stores value next') :=
  .granted stores rfl rfl hfirst hsecond

theorem Kindred.map {f : γ → α} {verdict other : Verdict γ}
    (hkindred : Kindred first second number (fun value => view (f value)) verdict other) :
    Kindred first second number view (verdict.map f) (other.map f) := by
  cases hkindred with
  | refused error => exact .refused error
  | granted stores hsame halike hfirst hsecond => exact .granted stores hsame halike hfirst hsecond

/-- Whether writes fail is the same in both, and so is what becomes of the verdicts. -/
theorem Kindred.enact (hkindred : Kindred first second number view verdict other)
    (hfailing : second.store.failing = first.store.failing) :
    (verdict.enact first).1.map view = (other.enact second).1.map view ∧
      ∃ effect effect', effect.unnumbered = effect'.unnumbered ∧
        first.Undergoes number effect (verdict.enact first).2 ∧
        second.Undergoes number effect' (other.enact second).2 := by
  cases hkindred with
  | refused error => exact ⟨rfl, _, _, rfl, .rests _ _, .rests _ _⟩
  | @granted stores value value' hsame effect effect' halike next next' hnext hnext' =>
      rw [Verdict.enact, Verdict.enact, hfailing]
      split
      · exact ⟨rfl, _, _, rfl, .rests _ _, .rests _ _⟩
      · exact ⟨congrArg Except.ok hsame, effect, effect', halike, hnext, hnext'⟩

theorem kindred_ite {condition : Prop} [Decidable condition] {verdict' other' : Verdict α}
    (hthen : Kindred first second number view verdict other)
    (helse : Kindred first second number view verdict' other') :
    Kindred first second number view (if condition then verdict else verdict')
      (if condition then other else other') := by
  split
  · exact hthen
  · exact helse

variable {user : UserId} (hagrees : first.core.Agrees second.core number)

include hagrees

theorem kindred_withRoom {verdict other : Room → Verdict α}
    (hkindred : ∀ room room', first.lobby.rooms.get? number = some room →
      second.lobby.rooms.get? number = some room' → room'.state = room.state →
      Kindred first second number view (verdict room) (other room')) :
    Kindred first second number view (first.withRoom number verdict)
      (second.withRoom number other) := by
  have hstates : (second.lobby.rooms.get? number).map (·.state) =
      (first.lobby.rooms.get? number).map (·.state) := by
    have hstate := hagrees.state
    simp only [Venue.core, Lobby.states, IdMap.get?_mapValues] at hstate
    exact hstate
  unfold Venue.withRoom
  cases hfirst : first.lobby.rooms.get? number with
  | none =>
      rw [hfirst] at hstates
      rw [Option.map_eq_none_iff.mp hstates]
      exact .refused _
  | some room =>
      rw [hfirst] at hstates
      obtain ⟨room', hsecond, hstate⟩ := Option.map_eq_some_iff.mp hstates
      rw [hsecond]
      exact hkindred room room' hfirst hsecond hstate

theorem kindred_withUser {verdict other : User → Verdict α}
    (hkindred : ∀ account, Kindred first second number view (verdict account) (other account)) :
    Kindred first second number view (first.withUser user verdict)
      (second.withUser user other) := by
  unfold Venue.withUser
  rw [show second.store.users = first.store.users from hagrees.users]
  cases first.store.users.get? user with
  | none => exact .refused _
  | some account => exact hkindred account

omit hagrees in
theorem kindred_withMember {room room' : Room} (hstate : room'.state = room.state)
    (hkindred : Kindred first second number view verdict other) :
    Kindred first second number view (Venue.withMember room user verdict)
      (Venue.withMember room' user other) := by
  rw [Venue.withMember, Venue.withMember, hstate]
  exact kindred_ite hkindred (.refused _)

end Verdict

namespace Core.Agrees

variable {β : Type} {first second : Venue} {number : RoomId}
  (hagrees : first.core.Agrees second.core number) (hfirst : first.Sound) (hsecond : second.Sound)

include hagrees hfirst hsecond

theorem joinVerdict (user : UserId) (view : Snapshot → β) :
    Kindred first second number view (first.joinVerdict number user)
      (second.joinVerdict number user) := by
  have hnow : second.now = first.now := hagrees.now
  apply kindred_withRoom hagrees
  intro room room' hroom hroom' hstate
  apply kindred_withUser hagrees
  intro account
  simp only [hstate, hnow]
  apply kindred_ite
  · exact .same _ _ .rests (.rests _ _) (.rests _ _)
  · have hid := hfirst.room_id hroom
    exact .same _ _ (.turns _ [] _) (hfirst.undergoes_settle hroom hid)
      (hsecond.undergoes_settle hroom' hid)

theorem leaveVerdict (user : UserId) (view : Unit → β) :
    Kindred first second number view (first.leaveVerdict number user)
      (second.leaveVerdict number user) := by
  have hnow : second.now = first.now := hagrees.now
  apply kindred_withRoom hagrees
  intro room room' hroom hroom' hstate
  have hid := hfirst.room_id hroom
  simp only [hstate, hnow]
  apply kindred_ite
  · cases (room.state.release user).deleted with
    | true =>
        exact .same _ _ (.ends _) (hfirst.undergoes_dissolve hroom hid)
          (hsecond.undergoes_dissolve hroom' hid)
    | false =>
        exact .same _ _ (.turns _ [] _) (hfirst.undergoes_settle hroom hid)
          (hsecond.undergoes_settle hroom' hid)
  · exact .same _ _ .rests (.rests _ _) (.rests _ _)

theorem controlVerdict (user : UserId) (command : Command) (view : RoomEvent → β) :
    Kindred first second number view (first.controlVerdict number user command)
      (second.controlVerdict number user command) := by
  have hnow : second.now = first.now := hagrees.now
  have hrules : second.lobby.rules = first.lobby.rules := hagrees.rules
  apply kindred_withRoom hagrees
  intro room room' hroom hroom' hstate
  apply kindred_withUser hagrees
  intro account
  apply kindred_withMember hstate
  simp only [Venue.steerVerdict, hsecond.room_id hroom', hfirst.room_id hroom, hstate, hnow, hrules]
  apply kindred_ite _ (.refused _)
  apply kindred_ite
  · refine .same _ _ (.turns room.state [] _) (Venue.Sound.undergoes_announce hroom rfl) ?_
    rw [← hstate]
    exact Venue.Sound.undergoes_announce hroom' rfl
  · exact .same _ _ (.turns _ [] _) (hfirst.undergoes_settle hroom rfl)
      (hsecond.undergoes_settle hroom' rfl)

omit hfirst hsecond in
theorem chatVerdict (user : UserId) (content : String) {view : Message → β}
    (hview : ∀ message message', message.unnumbered = message'.unnumbered →
      view message = view message') :
    Kindred first second number view (first.chatVerdict number user content)
      (second.chatVerdict number user content) := by
  have hnow : second.now = first.now := hagrees.now
  have hrules : second.lobby.rules = first.lobby.rules := hagrees.rules
  apply kindred_withRoom hagrees
  intro room room' hroom hroom' hstate
  rw [hrules]
  cases Room.checkMessage first.lobby.rules content with
  | error error => exact .refused error
  | ok text =>
      apply kindred_withMember hstate
      apply kindred_withUser hagrees
      intro sender
      have halike : ∀ time, (first.newMessage number sender text time).unnumbered =
          (second.newMessage number sender text time).unnumbered := fun _ => rfl
      simp only [hstate, hnow]
      refine .granted _ (hview _ _ (halike _)) ?_ (Venue.Sound.undergoes_converse hroom rfl)
        (Venue.Sound.undergoes_converse hroom' rfl)
      rw [Effect.unnumbered, Effect.unnumbered, hstate]
      rfl

end Core.Agrees

/-- A call deals with a room, and may change it. -/
def Call.Addresses (number : RoomId) : Call → Prop
  | .join room _ => room = number
  | .leave room _ => room = number
  | .control room _ _ => room = number
  | .chat room _ _ => room = number
  | _ => False

section Calls

variable {first second : Venue} {number : RoomId}
  (hagrees : first.core.Agrees second.core number) (hfirst : first.Sound) (hsecond : second.Sound)

include hagrees hfirst hsecond

theorem Call.kindred {call : Call} (haddresses : call.Addresses number) :
    Kindred first second number Answer.unnumbered (call.verdict first) (call.verdict second) := by
  cases call with
  | join room user =>
      obtain rfl : room = number := haddresses
      exact (hagrees.joinVerdict hfirst hsecond user _).map
  | leave room user =>
      obtain rfl : room = number := haddresses
      exact (hagrees.leaveVerdict hfirst hsecond user _).map
  | control room user command =>
      obtain rfl : room = number := haddresses
      exact (hagrees.controlVerdict hfirst hsecond user command _).map
  | chat room user content =>
      obtain rfl : room = number := haddresses
      have hview : ∀ message message' : Message, message.unnumbered = message'.unnumbered →
          (Answer.posted message).unnumbered = (Answer.posted message').unnumbered :=
        fun _ _ hsame => congrArg Answer.posted hsame
      exact (hagrees.chatVerdict user content hview).map
  | createRoom user content title => exact haddresses.elim
  | messages room user => exact haddresses.elim

end Calls

theorem RoomCommand.addresses_call (handle : ConnectionHandle) (command : RoomCommand) :
    (command.call handle).Addresses handle.room := by
  cases command <;> rfl

/-! ## Steps in two venues -/

namespace Step

/-- A step is a call that deals with a room, made as such or over a connection, or the closing of a
connection to the room. -/
def Concerns (lobby : Lobby) (number : RoomId) : Step → Prop
  | .ask call => call.Addresses number
  | .order handle _ => handle.room = number
  | .say handle _ => handle.room = number
  | .close handle => handle.room = number ∧ handle.Genuine lobby
  | _ => False

/-- A step is answered alike in two venues, up to the number of a message that is posted. -/
def AnswersAlike (first second : Venue) : Step → Prop
  | .ask call => (first.run call.operation).1.map Answer.unnumbered =
      (second.run call.operation).1.map Answer.unnumbered
  | .order handle command => (first.run (handle.handle command)).1.map CommandReply.unnumbered =
      (second.run (handle.handle command)).1.map CommandReply.unnumbered
  | .say handle text => (first.run (handle.handleText text)).1 =
      (second.run (handle.handleText text)).1
  | .close handle => (first.run handle.close).1 = (second.run handle.close).1
  | _ => True

/-- The venue after the call that a step makes, if it makes one. -/
def afterCall (venue : Venue) (step : Step) : Venue :=
  match step.call? venue with
  | some call => ((call.verdict venue).enact venue).2
  | none => venue

/-- The connections that are left after a step of those that there were. -/
def connectionsLeft (connections : IdMap Connection) : Step → IdMap Connection
  | .close handle => connections.erase handle.id
  | _ => connections

variable {lobby : Lobby} {first second : Venue} {number : RoomId} {step : Step}

/-- The call that a step makes deals with the room that the step concerns. -/
theorem Concerns.addresses (hconcerns : step.Concerns first.lobby number) {call : Call}
    (hcall : step.call? first = some call) : call.Addresses number := by
  cases step with
  | ask call =>
      cases hcall
      exact hconcerns
  | order handle command =>
      cases hcall
      obtain rfl : handle.room = number := hconcerns
      exact command.addresses_call handle
  | say handle text =>
      rw [call?_say] at hcall
      obtain ⟨command, -, rfl⟩ := Option.map_eq_some_iff.mp hcall
      obtain rfl : handle.room = number := hconcerns
      exact command.addresses_call handle
  | close handle =>
      rw [call?] at hcall
      obtain ⟨-, hleave⟩ := Option.ite_none_right_eq_some.mp hcall
      cases hleave
      exact hconcerns.1
  | _ => cases hcall

/-- A step leaves the connections to rooms that it does not concern. -/
theorem Concerns.get?_connectionsLeft (hconcerns : step.Concerns lobby number)
    {id : ConnectionId} {connection : Connection} (hother : connection.room ≠ number) :
    (step.connectionsLeft lobby.connections).get? id = some connection ↔
      lobby.connections.get? id = some connection := by
  cases step with
  | close handle =>
      obtain ⟨rfl, hgenuine⟩ := hconcerns
      rw [connectionsLeft, IdMap.get?_erase]
      split
      · rename_i hid
        subst hid
        constructor
        · intro hnone
          cases hnone
        · intro hget
          exact absurd (hgenuine connection hget).1 hother
      · exact Iff.rfl
  | _ => exact Iff.rfl

theorem connectionsLeft_congr {connections connections' : IdMap Connection} {id : ConnectionId}
    {connection : Connection}
    (hsame : connections'.get? id = some connection ↔ connections.get? id = some connection) :
    (step.connectionsLeft connections').get? id = some connection ↔
      (step.connectionsLeft connections).get? id = some connection := by
  cases step with
  | close handle =>
      rw [connectionsLeft, connectionsLeft, IdMap.get?_erase, IdMap.get?_erase]
      split
      · exact Iff.rfl
      · exact hsame
  | _ => exact hsame

/-- With the same connections to the room the same call is made. -/
theorem Concerns.call?_eq (hconcerns : step.Concerns first.lobby number)
    (hconcerns' : step.Concerns second.lobby number)
    (hshares : first.lobby.SharesConnections second.lobby number) :
    step.call? second = step.call? first := by
  cases step with
  | close handle =>
      obtain ⟨rfl, hgenuine⟩ := hconcerns
      rw [call?, call?, hshares.isLast_eq hgenuine hconcerns'.2]
  | _ => rfl

end Step

theorem Answer.unnumbered_reply (answer : Answer) :
    answer.reply.unnumbered = answer.unnumbered.reply := by
  cases answer <;> rfl

theorem ServerMessage.ofAnswer_unnumbered (answer : Except RoomError Answer) :
    ServerMessage.ofAnswer (answer.map Answer.unnumbered) = ServerMessage.ofAnswer answer := by
  cases answer with
  | error error => rfl
  | ok answer => cases answer <;> rfl

namespace Venue.Sound

variable {first second : Venue} {number : RoomId} {step : Step}

/-- What a step that concerns a room comes to: the call that it makes is carried out, if it makes
one, and a connection that it closes is taken off. -/
theorem take_eq {venue : Venue} (hsound : venue.Sound) (hleft : venue.store.lastId < maxIdentifier)
    (hconcerns : step.Concerns venue.lobby number) :
    ∃ journal, step.take venue =
      { (step.afterCall venue).withConnections
          (step.connectionsLeft venue.lobby.connections) with journal } := by
  -- No call touches the connections.
  have hkept : ∀ {α : Type} {operation : Operation α} {answer : Except RoomError α} {call : Call},
      venue.Leads operation answer ((call.verdict venue).enact venue).2 →
      ∃ journal, (venue.run operation).2 =
        { ((call.verdict venue).enact venue).2.withConnections venue.lobby.connections with
          journal } := by
    intro α operation answer call hleads
    obtain ⟨journal, hrun⟩ := hleads.run_eq
    have hsame : venue.lobby.SameConnections ((call.verdict venue).enact venue).2.lobby :=
      (call.grants_sameConnections venue).enact ⟨rfl, rfl⟩
    refine ⟨journal, ?_⟩
    rw [hrun, ← hsame.connections]
    rfl
  cases step with
  | ask call => exact hkept (hsound.leads_call hleft call)
  | order handle command => exact hkept (hsound.leads_handle hleft handle command)
  | say handle text =>
      rw [Step.afterCall, Step.call?_say]
      cases hread : RoomCommand.read? text with
      | none =>
          obtain ⟨_, hleads⟩ := leads_handleText_none venue handle hread
          obtain ⟨journal, hrun⟩ := hleads.run_eq
          exact ⟨journal, congrArg Prod.snd hrun⟩
      | some command => exact hkept (hsound.leads_handleText hleft hread)
  | close handle =>
      obtain ⟨journal, hrun⟩ := (hsound.leads_close handle).run_eq
      refine ⟨journal, ?_⟩
      rw [Step.take, hrun, Step.afterCall, Step.call?]
      cases handle.isLast venue.lobby with
      | true =>
          rw [if_pos rfl, if_pos rfl]
          dsimp only
          rw [Call.verdict.eq_def, enact_map]
          rfl
      | false => rfl
  | _ => exact hconcerns.elim

theorem connections_take {venue : Venue} (hsound : venue.Sound)
    (hleft : venue.store.lastId < maxIdentifier) (hconcerns : step.Concerns venue.lobby number) :
    (step.take venue).lobby.connections = step.connectionsLeft venue.lobby.connections := by
  obtain ⟨journal, htake⟩ := hsound.take_eq hleft hconcerns
  rw [htake]
  rfl

variable (hfirst : first.Sound) (hsecond : second.Sound)
  (hleft : first.store.lastId < maxIdentifier) (hleft' : second.store.lastId < maxIdentifier)
  (hagrees : first.core.Agrees second.core number)
  (hconcerns : step.Concerns first.lobby number) (hconcerns' : step.Concerns second.lobby number)
  (hshares : first.lobby.SharesConnections second.lobby number)

include hfirst hsecond hleft hleft' hagrees hconcerns hconcerns' hshares

/-- A step that concerns a room puts it through the same in two venues that agree in what is read,
up to the numbers of messages. -/
theorem undergoes_take : ∃ effect effect', effect.unnumbered = effect'.unnumbered ∧
    first.Undergoes number effect (step.take first) ∧
    second.Undergoes number effect' (step.take second) := by
  obtain ⟨journal, htake⟩ := hfirst.take_eq hleft hconcerns
  obtain ⟨journal', htake'⟩ := hsecond.take_eq hleft' hconcerns'
  have hcall := hconcerns.call?_eq hconcerns' hshares
  obtain ⟨effect, effect', halike, hundergoes, hundergoes'⟩ :
      ∃ effect effect', effect.unnumbered = effect'.unnumbered ∧
        first.Undergoes number effect (step.afterCall first) ∧
        second.Undergoes number effect' (step.afterCall second) := by
    rw [Step.afterCall, Step.afterCall, hcall]
    cases hmakes : step.call? first with
    | none => exact ⟨_, _, rfl, .rests _ _, .rests _ _⟩
    | some call =>
        have haddresses := hconcerns.addresses hmakes
        exact ((call.kindred hagrees hfirst hsecond haddresses).enact hagrees.failing).2
  rw [htake, htake']
  exact ⟨effect, effect', halike, hundergoes.withConnections _ _, hundergoes'.withConnections _ _⟩

/-- And it is answered alike. -/
theorem answersAlike : step.AnswersAlike first second := by
  have hcall : ∀ {call : Call}, call.Addresses number →
      (first.run call.operation).1.map Answer.unnumbered =
        (second.run call.operation).1.map Answer.unnumbered := by
    intro call haddresses
    rw [(call.obeys hfirst hleft).answer_eq, (call.obeys hsecond hleft').answer_eq]
    exact ((call.kindred hagrees hfirst hsecond haddresses).enact hagrees.failing).1
  cases step with
  | ask call => exact hcall hconcerns
  | order handle command =>
      obtain rfl : handle.room = number := hconcerns
      have hreply : ∀ answer : Except RoomError Answer,
          (answer.map Answer.reply).map CommandReply.unnumbered =
            (answer.map Answer.unnumbered).map Answer.reply := by
        intro answer
        cases answer with
        | error error => rfl
        | ok answer => exact congrArg Except.ok answer.unnumbered_reply
      show (first.run (handle.handle command)).1.map CommandReply.unnumbered =
        (second.run (handle.handle command)).1.map CommandReply.unnumbered
      rw [(hfirst.leads_handle hleft handle command).answer_eq,
        (hsecond.leads_handle hleft' handle command).answer_eq, hreply, hreply,
        hcall (command.addresses_call handle)]
  | say handle text =>
      obtain rfl : handle.room = number := hconcerns
      show (first.run (handle.handleText text)).1 = (second.run (handle.handleText text)).1
      cases hread : RoomCommand.read? text with
      | none =>
          obtain ⟨_, hleads⟩ := rejection_of_read?_none hread
          rw [(hleads first handle).answer_eq, (hleads second handle).answer_eq]
      | some command =>
          rw [(hfirst.leads_handleText hleft hread).answer_eq,
            (hsecond.leads_handleText hleft' hread).answer_eq, ← ServerMessage.ofAnswer_unnumbered,
            hcall (command.addresses_call handle), ServerMessage.ofAnswer_unnumbered]
  | close handle =>
      show (first.run handle.close).1 = (second.run handle.close).1
      rw [(hfirst.leads_close handle).answer_eq, (hsecond.leads_close handle).answer_eq]
  | _ => trivial

end Venue.Sound

end WatchParty
