/-
# Conversations

Somebody who is in a room may post a text if, without the blanks around it, it is neither empty nor
too long, and if the store can be written. The chat history of a room is the list of all messages
that have been posted in it so, in the order in which this happened. Messages of other rooms, texts
that are refused, members who come and go, and starting over leave no trace in it.

All rooms share one table of messages. A step that posts a message adds it to the end of the table,
and otherwise messages only go with their rooms.
-/

import WatchParty.Proofs.Ownership
import WatchParty.Proofs.Refusal
import WatchParty.Proofs.RoomTime

namespace WatchParty

open Operation Verdict

theorem Room.checkMessage_eq_ok {rules : Rules} {content text : String} :
    Room.checkMessage rules content = .ok text ↔ text = Text.trim content ∧
      1 ≤ (Text.trim content).length ∧ (Text.trim content).length ≤ rules.maxMessageLength := by
  rw [Room.checkMessage]
  by_cases hempty : (Text.trim content).isEmpty = true
  · have hlength : (Text.trim content).length = 0 := by
      rw [String.isEmpty_iff.mp hempty]
      rfl
    simp [hempty, hlength]
  · have hlength : 1 ≤ (Text.trim content).length := by
      rw [String.isEmpty_iff] at hempty
      exact Nat.pos_of_ne_zero (mt String.length_eq_zero_iff.mp hempty)
    by_cases hlong : rules.maxMessageLength < (Text.trim content).length
    · simp [hempty, hlong, Nat.not_le.mpr hlong]
    · simp [hempty, hlong, hlength, Nat.not_lt.mp hlong, eq_comm]

namespace Venue

/-- A user may post a text in a room. -/
structure MayPost (venue : Venue) (number : RoomId) (user : UserId) (content : String) :
    Prop where
  live : (venue.lobby.liveRoom? number).isSome = true
  present : ∃ participant ∈ venue.roster number, participant.user = user
  filled : 1 ≤ (Text.trim content).length
  short : (Text.trim content).length ≤ venue.lobby.rules.maxMessageLength
  writable : venue.store.failing = false

/-- A message is what becomes of a text that a user posts in a room. -/
structure Utters (venue : Venue) (number : RoomId) (user : UserId) (content : String)
    (message : Message) : Prop where
  id : message.id = venue.store.nextId
  room : message.room = number
  sender : venue.store.users.get? user = some message.sender
  content : message.content = Text.trim content
  createdAt : ∃ clock, venue.clock? number = some clock ∧
    message.createdAt = clock.noEarlier venue.now

variable {venue : Venue} {number : RoomId} {user : UserId} {content : String} {message : Message}

/-- Whoever may post a text needs nothing but a write, which succeeds. -/
theorem mayPost_iff : venue.MayPost number user content ↔
    (Call.chat number user content).NeedsWrite venue ∧ venue.store.failing = false := by
  have hroster : ∀ room, venue.lobby.liveRoom? number = some room →
      venue.roster number = room.state.presence.roster := by
    intro room hroom
    rw [Venue.roster, hroom]
    rfl
  constructor
  · rintro ⟨hlive, hpresent, hfilled, hshort, hwritable⟩
    obtain ⟨room, hroom⟩ := Option.isSome_iff_exists.mp hlive
    rw [hroster room hroom] at hpresent
    have htext := Room.checkMessage_eq_ok.mpr ⟨rfl, hfilled, hshort⟩
    exact ⟨⟨room, hroom, Roster.has_iff.mpr hpresent, _, htext⟩, hwritable⟩
  · rintro ⟨⟨room, hroom, hmember, text, htext⟩, hwritable⟩
    obtain ⟨-, hfilled, hshort⟩ := Room.checkMessage_eq_ok.mp htext
    have hpresent := Roster.has_iff.mp hmember
    rw [← hroster room hroom] at hpresent
    exact ⟨Option.isSome_iff_exists.mpr ⟨room, hroom⟩, hpresent, hfilled, hshort, hwritable⟩

namespace Sound

variable (hsound : venue.Sound)

include hsound

/-- A text is granted if it passes the checks, and then it becomes the next message. -/
theorem ensures_utters (number : RoomId) (user : UserId) (content : String) :
    (venue.chatVerdict number user content).Ensures fun message next =>
      (Call.chat number user content).NeedsWrite venue ∧
        venue.Utters number user content message ∧ next = venue.converse message := by
  apply ensures_withRoom
  intro room hroom
  cases htext : Room.checkMessage venue.lobby.rules content with
  | error error => exact trivial
  | ok text =>
      apply ensures_withMember
      intro hmember
      apply ensures_withUser
      intro sender hsender
      have hlive : venue.lobby.liveRoom? number = some room := by rw [hsound.liveRoom?_eq, hroom]
      have hclock : venue.clock? number = some room.state.clock := by rw [clock?, hlive]; rfl
      exact ⟨⟨room, hlive, hmember, text, htext⟩,
        ⟨rfl, rfl, hsender, (Room.checkMessage_eq_ok.mp htext).1, _, hclock, rfl⟩, rfl⟩

/-- A text is granted to whoever may post it. -/
theorem exists_message_iff :
    (∃ message, (venue.run (Venue.chat number user content)).1 = .ok message) ↔
      venue.MayPost number user content := by
  rw [(hsound.obeys_chatRoom number user content).answer_eq, mayPost_iff]
  constructor
  · rintro ⟨message, hok⟩
    have hneeds := ((hsound.ensures_utters number user content).of_enact hok).1
    refine ⟨hneeds, Bool.eq_false_iff.mpr fun hfailing => ?_⟩
    have herror := (hsound.stores hneeds).enact_failing hfailing
    rw [Call.verdict, enact_map, hok] at herror
    cases herror
  · rintro ⟨hneeds, hwritable⟩
    have hstores := hsound.stores hneeds
    rw [Call.verdict] at hstores
    cases hverdict : venue.chatVerdict number user content with
    | refused error =>
        rw [hverdict] at hstores
        exact hstores.elim
    | granted stores message next => exact ⟨message, by rw [enact_writable hwritable]⟩

/-- What is posted is added to the history of the room. -/
theorem utters_of_chat
    (hok : (venue.run (Venue.chat number user content)).1 = .ok message) :
    venue.Utters number user content message ∧
      (venue.run (Venue.chat number user content)).2.store = venue.store.post message := by
  have hobeys := hsound.obeys_chatRoom number user content
  rw [hobeys.answer_eq] at hok
  obtain ⟨-, hutters, hnext⟩ := (hsound.ensures_utters number user content).of_enact hok
  refine ⟨hutters, ?_⟩
  rw [store, hobeys.database_eq, hnext]
  rfl

/-- Whoever is in a room is told its history. -/
theorem run_messages (hpresent : ∃ participant ∈ venue.roster number, participant.user = user) :
    (venue.run (Venue.messages number user)).1 = .ok (venue.store.history number) := by
  rw [(hsound.obeys_roomMessages number user).answer_eq, Venue.messagesVerdict, withRoom]
  rw [Venue.roster, hsound.liveRoom?_eq] at hpresent
  cases hroom : venue.lobby.rooms.get? number with
  | none =>
      rw [hroom] at hpresent
      obtain ⟨_, hmem, -⟩ := hpresent
      cases hmem
  | some room =>
      rw [hroom] at hpresent
      have hmember : room.state.presence.contains user = true := Roster.has_iff.mpr hpresent
      simp only [withMember, if_pos hmember]
      rfl

end Sound

end Venue

/-- The message that is accepted in a room in a step, if there is one. -/
def Step.accepted? (venue : Venue) (number : RoomId) (step : Step) : Option Message :=
  match step.answer? venue with
  | some (.posted message) => if message.room = number then some message else none
  | _ => none

namespace Venue

/-- The messages that are accepted in a room in some steps, in order. -/
def accepted (number : RoomId) : Venue → List Step → List Message
  | _, [] => []
  | venue, step :: rest =>
    (step.accepted? venue number).toList ++ accepted number (step.take venue) rest

variable {venue : Venue} {number : RoomId} {step : Step} {state later : RoomState}
  {message : Message}

namespace Sound

variable (hsound : venue.Sound) (hleft : venue.store.lastId < maxIdentifier)

include hsound

/-- A message is posted by talking, and by nothing else. -/
theorem ensures_posted (call : Call) :
    (call.verdict venue).Ensures fun answer next => ∀ message, answer = .posted message →
      ∃ number user content, call = .chat number user content ∧
        venue.Utters number user content message ∧ next = venue.converse message := by
  cases call with
  | chat number user content =>
      apply Ensures.map
      have hutters := hsound.ensures_utters number user content
      cases hverdict : venue.chatVerdict number user content with
      | refused error => exact trivial
      | granted stores message next =>
          rw [hverdict] at hutters
          rintro _ heq
          cases heq
          exact ⟨number, user, content, rfl, hutters.2⟩
  | _ => exact Ensures.map (ensures_of_forall fun _ _ _ heq => nomatch heq)

include hleft

/-- A message that is accepted is added to the table, and nothing else changes in the rooms. -/
theorem of_accepted (haccepted : step.accepted? venue number = some message) :
    (∃ user content, venue.Utters number user content message) ∧
      (step.take venue).core = (venue.converse message).core := by
  rw [Step.accepted?] at haccepted
  cases hanswer : step.answer? venue with
  | none =>
      rw [hanswer] at haccepted
      cases haccepted
  | some answer =>
      obtain ⟨call, hcall, hok⟩ := Step.answer?_eq_some.mp hanswer
      rw [hanswer] at haccepted
      cases answer with
      | posted posted =>
          obtain ⟨hroom, heq⟩ := Option.ite_none_right_eq_some.mp haccepted
          cases heq
          rw [(call.obeys hsound hleft).answer_eq] at hok
          obtain ⟨other, user, content, -, hutters, hnext⟩ :=
            (hsound.ensures_posted call).of_enact hok message rfl
          have hsame : other = number := hutters.room.symm.trans hroom
          subst hsame
          rw [hsound.core_take hleft hcall, hnext]
          exact ⟨⟨user, content, hutters⟩, rfl⟩
      | _ => cases haccepted

/-- Whoever talks and is granted it has a message accepted. -/
theorem accepted?_isSome_of_chat {user : UserId} {content : String} {answer : Answer}
    (hcall : step.call? venue = some (.chat number user content))
    (hok : (venue.run (Call.chat number user content).operation).1 = .ok answer) :
    (step.accepted? venue number).isSome = true := by
  have hanswer := Step.answer?_eq_some.mpr ⟨_, hcall, hok⟩
  cases hsound.reply hleft hok with
  | posted hstate hroom hsender hnow => simp [Step.accepted?, hanswer, hroom]

omit hleft

/-- Nothing has been said in a room that is not there. -/
theorem history_of_absent (habsent : venue.lobby.states.get? number = none) :
    venue.store.history number = [] := by
  apply List.filter_eq_nil_iff.mpr
  intro message hmem hroom
  have hlive := hsound.describes.messages message hmem
  rw [of_decide_eq_true hroom, IdMap.contains_eq_isSome, habsent] at hlive
  cases hlive

include hleft

/-- Nothing has been said in a new room. -/
theorem history_of_founded (habsent : venue.lobby.states.get? number = none) :
    (step.take venue).store.history number = [] := by
  have hnext := hsound.take hleft step
  cases hlater : (step.take venue).lobby.states.get? number with
  | none => exact hnext.history_of_absent hlater
  | some later =>
      rw [← hsound.history_of_absent habsent]
      apply Store.history_eq_of_messages
      obtain ⟨_, _, _, hcall, -⟩ := hsound.founded hleft habsent hlater
      cases hsound.take_call hleft hcall with
      | refused _ hsame => exact congrArg (·.store.messages) hsame
      | idle _ _ hsame => exact congrArg (·.store.messages) hsame
      | changed _ hchange =>
          generalize hcore : (step.take venue).core = core at hchange
          have hstore : (step.take venue).store = core.store := congrArg Core.store hcore
          have hmessages : core.store.messages = venue.store.messages := by
            cases hchange
            rfl
          exact (congrArg Store.messages hstore).trans hmessages

/-- The history of a room that stays grows by what is accepted in it. -/
theorem history_grows
    (hstays : venue.lobby.states.contains number = true →
      (step.take venue).lobby.states.contains number = true) :
    (step.take venue).store.history number =
      venue.store.history number ++ (step.accepted? venue number).toList := by
  cases haccepted : step.accepted? venue number with
  | some message =>
      obtain ⟨⟨_, _, hutters⟩, hcore⟩ := hsound.of_accepted hleft haccepted
      have hstore : (step.take venue).store = venue.store.post message :=
        congrArg Core.store hcore
      rw [hstore, Store.history_post, if_pos hutters.room]
      rfl
  | none =>
      rw [Option.toList_none, List.append_nil]
      cases hstate : venue.lobby.states.get? number with
      | none => rw [hsound.history_of_founded hleft hstate, hsound.history_of_absent hstate]
      | some state =>
          cases hsound.course hleft step hstate with
          | undisturbed _ hhistory _ => exact hhistory
          | affected hcall hanswer haffects hbecomes hhistory _ =>
              cases haffects with
              | talk =>
                  have hsome := hsound.accepted?_isSome_of_chat hleft hcall hanswer
                  rw [haccepted] at hsome
                  cases hsome
              | vacate =>
                  have hlive := hstays (IdMap.contains_of_get? hstate)
                  rw [IdMap.contains_eq_isSome, hbecomes] at hlive
                  cases hlive
              | _ => rwa [Option.isSome_some, if_pos rfl, List.append_nil] at hhistory

omit hleft

/-- The history of a room that is there at the end has grown by what was accepted. -/
theorem history_follow {steps : List Step} (hlasts : venue.Lasts steps)
    (hlive : (venue.follow steps).lobby.states.contains number = true) :
    (venue.follow steps).store.history number =
      venue.store.history number ++ venue.accepted number steps := by
  induction steps generalizing venue with
  | nil => exact (List.append_nil _).symm
  | cons step rest ih =>
      have hgrows := hsound.history_grows hlasts.1 fun hbefore =>
        hsound.stays_live hlasts hbefore hlive
      calc (venue.follow (step :: rest)).store.history number
        _ = (step.take venue).store.history number ++ (step.take venue).accepted number rest :=
          ih (hsound.take hlasts.1 step) hlasts.2 hlive
        _ = venue.store.history number ++ venue.accepted number (step :: rest) := by
          rw [hgrows, accepted, List.append_assoc]

/-- Messages are numbered on from those before. -/
theorem accepted_ids {steps : List Step} (hlasts : venue.Lasts steps) (number : RoomId) :
    (venue.store.lastId :: (venue.accepted number steps).map (·.id)).Pairwise (· < ·) := by
  induction steps generalizing venue with
  | nil => exact List.pairwise_singleton _ _
  | cons step rest ih =>
      obtain ⟨hlater, hordered⟩ :=
        List.pairwise_cons.mp (ih (hsound.take hlasts.1 step) hlasts.2)
      rw [accepted, List.map_append]
      cases haccepted : step.accepted? venue number with
      | none =>
          have hcount := (hsound.precedes_take hlasts.1 step).counted
          exact List.pairwise_cons.mpr
            ⟨fun id hid => Int.lt_of_le_of_lt hcount (hlater id hid), hordered⟩
      | some message =>
          obtain ⟨⟨_, _, hutters⟩, hcore⟩ := hsound.of_accepted hlasts.1 haccepted
          have hcount : (step.take venue).store.lastId = message.id :=
            congrArg (·.store.lastId) hcore
          have hfresh : venue.store.lastId < message.id := by
            rw [hutters.id]
            exact hsound.numbered.lt_nextId hlasts.1
          rw [hcount] at hlater
          apply List.pairwise_cons.mpr ⟨?_, List.pairwise_cons.mpr ⟨hlater, hordered⟩⟩
          intro id hid
          rcases List.mem_cons.mp hid with rfl | hrest
          · exact hfresh
          · exact Int.lt_trans hfresh (hlater id hrest)

/-- The time of a room goes on as long as that of the server does. -/
theorem noEarlier_take (hleft : venue.store.lastId < maxIdentifier)
    (hforward : venue.now ≤ (step.take venue).now) {clock : Clock}
    (hclock : venue.clock? number = some clock)
    (hlive : (step.take venue).lobby.states.contains number = true) :
    ∃ later, (step.take venue).clock? number = some later ∧
      clock.noEarlier venue.now ≤ later.noEarlier (step.take venue).now := by
  rw [hsound.clock?_eq, Option.map_eq_some_iff] at hclock
  obtain ⟨state, hstate, rfl⟩ := hclock
  obtain ⟨later, hlater⟩ := Option.isSome_iff_exists.mp hlive
  have hreference : state.clock.reference ≤ later.clock.reference := by
    rcases hsound.clock_take hleft hstate hlater with ⟨-, hsame⟩ | ⟨_, _, -, hmoved, hle, -⟩
    · exact Int.le_of_eq (congrArg Clock.reference hsame.symm)
    · rwa [hmoved]
  refine ⟨later.clock, ?_, Clock.noEarlier_mono hreference hforward⟩
  rw [(hsound.take hleft step).clock?_eq, hlater]
  rfl

/-- If the time is never set back, messages are not of an earlier time than those before, nor of one
before the time that the room has already. -/
theorem accepted_times {steps : List Step} (hlasts : venue.Lasts steps)
    (hforward : venue.Forward steps)
    (hlive : (venue.follow steps).lobby.states.contains number = true) :
    ((venue.accepted number steps).map (·.createdAt)).Pairwise (· ≤ ·) ∧
      ∀ clock, venue.clock? number = some clock →
        ∀ message ∈ venue.accepted number steps,
          clock.noEarlier venue.now ≤ message.createdAt := by
  induction steps generalizing venue with
  | nil => exact ⟨.nil, fun _ _ _ hmem => nomatch hmem⟩
  | cons step rest ih =>
      obtain ⟨hordered, hbound⟩ := ih (hsound.take hlasts.1 step) hlasts.2 hforward.2 hlive
      -- What is accepted later is of no earlier time than the room has now.
      have hlater : ∀ clock, venue.clock? number = some clock →
          ∀ message ∈ (step.take venue).accepted number rest,
            clock.noEarlier venue.now ≤ message.createdAt := by
        intro clock hclock message hmem
        have hbefore : venue.lobby.states.contains number = true := by
          rw [hsound.clock?_eq, Option.map_eq_some_iff] at hclock
          obtain ⟨state, hstate, -⟩ := hclock
          exact IdMap.contains_of_get? hstate
        obtain ⟨later, hlater, hle⟩ := hsound.noEarlier_take hlasts.1 hforward.1 hclock
          (hsound.stays_live hlasts hbefore hlive)
        exact Int.le_trans hle (hbound later hlater message hmem)
      rw [accepted]
      cases haccepted : step.accepted? venue number with
      | none => exact ⟨hordered, hlater⟩
      | some message =>
          obtain ⟨⟨_, _, hutters⟩, -⟩ := hsound.of_accepted hlasts.1 haccepted
          obtain ⟨clock, hclock, hcreated⟩ := hutters.createdAt
          refine ⟨List.pairwise_cons.mpr ⟨fun instant hinstant => ?_, hordered⟩,
            fun clock' hclock' other hother => ?_⟩
          · obtain ⟨other, hother, rfl⟩ := List.mem_map.mp hinstant
            exact Int.le_trans (Int.le_of_eq hcreated) (hlater clock hclock other hother)
          · rcases List.mem_cons.mp hother with rfl | hrest
            · cases hclock.symm.trans hclock'
              exact Int.le_of_eq hcreated.symm
            · exact hlater clock' hclock' other hrest

/-- Whoever is somewhere is in a room that is there. -/
theorem contains_of_present {user : UserId}
    (hpresent : ∃ participant ∈ venue.roster number, participant.user = user) :
    venue.lobby.states.contains number = true := by
  cases hstate : venue.lobby.states.get? number with
  | some state => exact IdMap.contains_of_get? hstate
  | none =>
      obtain ⟨participant, hmem, -⟩ := hpresent
      rw [Venue.roster, hsound.liveRoom?_eq_none.mpr hstate] at hmem
      cases hmem

end Sound

/-- In every run, a text is accepted in a room exactly if its sender is in the room and the text is,
without the blanks around it, neither empty nor too long, and if the store can be written. What is
stored is the text without the blanks. Whoever is in the room is told exactly what has been accepted
in it, in order, under increasing numbers, and if the time is never set back at instants that do not
decrease. -/
theorem chat_of_run (rules : Rules) (now : Instant) (steps : List Step)
    (hlasts : (opening rules now .empty).Lasts steps) :
    let venue := (opening rules now .empty).follow steps
    (∀ number user content,
      ((∃ message, (venue.run (Venue.chat number user content)).1 = .ok message) ↔
        venue.MayPost number user content) ∧
      ∀ message, (venue.run (Venue.chat number user content)).1 = .ok message →
        venue.Utters number user content message ∧
          (venue.run (Venue.chat number user content)).2.store.history number =
            venue.store.history number ++ [message]) ∧
    ∀ number user, (∃ participant ∈ venue.roster number, participant.user = user) →
      let messages := (opening rules now .empty).accepted number steps
      (venue.run (Venue.messages number user)).1 = .ok messages ∧
      (messages.map (·.id)).Pairwise (· < ·) ∧
      ((opening rules now .empty).Forward steps →
        (messages.map (·.createdAt)).Pairwise (· ≤ ·)) := by
  intro venue
  have hopening := Sound.opening rules now
  have hsound : venue.Sound := hopening.follow hlasts
  constructor
  · intro number user content
    refine ⟨hsound.exists_message_iff, fun message hok => ?_⟩
    obtain ⟨hutters, hstore⟩ := hsound.utters_of_chat hok
    rw [hstore, Store.history_post, if_pos hutters.room]
    exact ⟨hutters, rfl⟩
  · intro number user hpresent messages
    have hlive := hsound.contains_of_present hpresent
    refine ⟨?_, ?_, fun hforward => (hopening.accepted_times hlasts hforward hlive).1⟩
    · rw [hsound.run_messages hpresent, hopening.history_follow hlasts hlive]
      rfl
    · exact (List.pairwise_cons.mp (hopening.accepted_ids hlasts number)).2

/-- Of two rooms one is talked in, also by somebody who may not, and again after starting over. -/
theorem two_rooms_chat_of_run :
    let steps : List Step :=
      [.alter (.addUser "ada" "Ada"), .alter (.addUser "bob" "Bob"),
        .alter (.addContent "A Film" none), .ask (.createRoom 1 3 none),
        .ask (.createRoom 2 3 none), .ask (.chat 4 1 " hello "), .ask (.chat 4 2 "let me in"),
        .ask (.chat 5 2 "anybody?"), .ask (.join 4 2), .alter (.setTime 3), .restart {},
        .ask (.chat 4 2 "hi\n"), .ask (.chat 4 1 " \t")]
    let venue := (opening {} 0 .empty).follow steps
    (opening {} 0 .empty).Lasts steps ∧ (opening {} 0 .empty).Forward steps ∧
      (∃ participant ∈ venue.roster 4, participant.user = 2) ∧
      ∃ messages, (venue.run (Venue.messages 4 2)).1 = .ok messages ∧
        messages.map (fun message => (message.id, message.sender.id, message.content)) =
          [(6, 1, "hello"), (8, 2, "hi")] ∧
        (messages.map (·.createdAt)).Pairwise (· ≤ ·) := by
  intro steps venue
  have hlasts : (opening {} 0 .empty).Lasts steps := by decide +kernel
  have hforward : (opening {} 0 .empty).Forward steps := by decide +kernel
  have hpresent : ∃ participant ∈ venue.roster 4, participant.user = 2 := by decide +kernel
  obtain ⟨-, hmessages⟩ := chat_of_run {} 0 steps hlasts
  obtain ⟨htold, -, htimes⟩ := hmessages 4 2 hpresent
  exact ⟨hlasts, hforward, hpresent, _, htold, by decide +kernel, htimes hforward⟩

end Venue

end WatchParty
