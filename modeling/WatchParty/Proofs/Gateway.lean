/-
# What becomes of a client's text

It ends in one of four ways with a text that arrives over a connection. The text is no message; or
the message is refused, and then nothing has happened; or the client has joined, and is shown the
room as it is from now on; or the client's leaving, command or chat message has been carried out, of
which the client hears like everybody else.

The connection says which user and which room it is about. A text says what to do, and of an object
only four fields are looked at. So it makes no difference whatever else a client writes.
-/

import Mathlib.Data.List.Permutation
import WatchParty.Proofs.Course
import WatchParty.Proofs.Repetition

namespace WatchParty

open Operation Verdict

namespace ClientMessage

/-- The fields of a message that are looked at. -/
def knownFields : List String := ["type", "action", "position", "content"]

variable {fields others : List (String × Json)}

/-- A required field is looked at by name. -/
theorem requiredField?_congr {name : String}
    (hsame : Json.fieldsNamed name fields = Json.fieldsNamed name others) :
    requiredField? name fields = requiredField? name others := by
  rw [requiredField?, requiredField?, Json.fieldAtMostOnce?, Json.fieldAtMostOnce?, hsame]

/-- Objects that agree on the known fields are the same message. -/
theorem ofJson?_congr (hsame : ∀ name ∈ knownFields,
      Json.fieldsNamed name fields = Json.fieldsNamed name others) :
    ofJson? (.object fields) = ofJson? (.object others) := by
  have htype := requiredField?_congr (hsame "type" (by decide))
  have haction := requiredField?_congr (hsame "action" (by decide))
  have hcontent := requiredField?_congr (hsame "content" (by decide))
  have hposition : Json.fieldAtMostOnce? "position" fields =
      Json.fieldAtMostOnce? "position" others := by
    rw [Json.fieldAtMostOnce?, Json.fieldAtMostOnce?, hsame "position" (by decide)]
  have hfields : ∀ type, ofFields? type fields = ofFields? type others := by
    intro type
    simp only [ofFields?, haction, hcontent, hposition]
  simp only [ofJson?, htype, hfields]

theorem eq_join {message : ClientMessage} (hcommand : message.toCommand = .ok .join) :
    message = .join := by
  cases message with
  | join => rfl
  | leave => cases hcommand
  | chat content => cases hcommand
  | control action position =>
      rw [toCommand] at hcommand
      cases hparse : Command.parse action position <;> rw [hparse] at hcommand <;> cases hcommand

end ClientMessage

/-- What a text asks for is settled by its command, or by why it has none. -/
theorem ConnectionHandle.handleText_congr (handle : ConnectionHandle) {first second : String}
    (hsame : (ClientMessage.read? first).map ClientMessage.toCommand =
      (ClientMessage.read? second).map ClientMessage.toCommand) :
    handle.handleText first = handle.handleText second := by
  rw [handleText, handleText]
  cases hfirst : ClientMessage.read? first with
  | none =>
      rw [hfirst, Option.map_none, eq_comm, Option.map_eq_none_iff] at hsame
      rw [hsame]
  | some message =>
      rw [hfirst, Option.map_some, eq_comm, Option.map_eq_some_iff] at hsame
      obtain ⟨message', hsecond, hcommand⟩ := hsame
      have hperform : handle.perform message = handle.perform message' := by
        rw [perform, perform, hcommand]
      rw [hsecond]
      simp only [hperform]

/-- How it ends with a text. -/
inductive Ending where
  /-- The text is no message. -/
  | notMessage
  | refused
  | joined
  /-- The client's leaving, command or chat message is carried out. -/
  | carriedOut
deriving DecidableEq, Repr

/-- What an end with a text comes to. The reply tells the client what has become of the text, and
whatever happens in the rooms is what the call of the connected user on the connection's room
does. -/
def Ending.Holds (venue : Venue) (handle : ConnectionHandle) (text : String) : Ending → Prop
  | .notMessage =>
    ClientMessage.read? text = none ∧
      ∃ rejection, venue.run (handle.handleText text) =
          (.ok (some (.rejected rejection)), venue) ∧
        rejection.reason = "INVALID_COMMAND"
  | .refused =>
    ∃ message error, ClientMessage.read? text = some message ∧
      (message.toCommand = .error error ∨ ∃ command, message.toCommand = .ok command ∧
        (venue.run (command.call handle).operation).1 = .error error) ∧
      ∃ rejection journal, venue.run (handle.handleText text) =
          (.ok (some (.rejected rejection)), { venue with journal }) ∧
        rejection.reason = error.reason ∧ rejection.message? = some error.message
  | .joined =>
    ∃ shown next, ClientMessage.read? text = some .join ∧
      venue.run (Venue.join handle.room handle.user.id) = (.ok shown, next) ∧
      venue.run (handle.handleText text) = (.ok (some (.snapshot shown)), next) ∧
      (next.run (Venue.snapshot handle.room)).1 = .ok shown
  | .carriedOut =>
    ∃ message command answer next, ClientMessage.read? text = some message ∧
      message.toCommand = .ok command ∧ command ≠ .join ∧
      venue.run (command.call handle).operation = (.ok answer, next) ∧
      venue.run (handle.handleText text) = (.ok none, next)

/-- How it has ended, read off from the message and the reply. -/
def Ending.told : Option ClientMessage → Except RoomError (Option ServerMessage) → Ending
  | none, _ => .notMessage
  | some _, .ok (some (.rejected _)) => .refused
  | some _, .ok (some _) => .joined
  | some _, _ => .carriedOut

/-- It ends in one way at most. -/
theorem Ending.Holds.eq_told {venue : Venue} {handle : ConnectionHandle} {text : String}
    {ending : Ending} (hends : ending.Holds venue handle text) :
    ending = .told (ClientMessage.read? text) (venue.run (handle.handleText text)).1 := by
  cases ending with
  | notMessage =>
      obtain ⟨hmessage, -⟩ := hends
      rw [hmessage, told]
  | refused =>
      obtain ⟨message, error, hmessage, -, rejection, journal, hrun, -⟩ := hends
      rw [hmessage, hrun, told]
  | joined =>
      obtain ⟨shown, next, hmessage, -, hrun, -⟩ := hends
      rw [hmessage, hrun, told]
      exact fun _ heq => nomatch heq
  | carriedOut =>
      obtain ⟨message, command, answer, next, hmessage, -, -, -, hrun⟩ := hends
      rw [hmessage, hrun]
      rfl

namespace Venue

variable {α β : Type} {venue next : Venue} {handle : ConnectionHandle} {text : String}
  {message : ClientMessage} {command : RoomCommand}

theorem run_map (venue : Venue) (f : α → β) (operation : Operation α) :
    venue.run (f <$> operation) = ((venue.run operation).1.map f, (venue.run operation).2) := by
  rw [map_eq_pure_bind]
  cases hrun : venue.run operation with
  | mk answer next =>
      cases answer with
      | ok value => exact run_bind hrun
      | error error => exact run_bind_error hrun

theorem run_outcome (venue : Venue) (operation : Operation α) :
    venue.run (outcome operation) = (.ok (venue.run operation).1, (venue.run operation).2) := by
  unfold run outcome
  cases operation venue <;> rfl

/-- A command that can be built is the call of the connected user. -/
theorem run_perform (hcommand : message.toCommand = .ok command) (venue : Venue)
    (handle : ConnectionHandle) :
    venue.run (handle.perform message) =
      ((venue.run (command.call handle).operation).1.map Answer.reply,
        (venue.run (command.call handle).operation).2) := by
  rw [ConnectionHandle.perform, hcommand]
  dsimp only
  rw [handle.handle_eq, run_map]

/-- A message that is granted is answered after joining only. -/
theorem run_handleText_of_ok (hmessage : ClientMessage.read? text = some message)
    (hcommand : message.toCommand = .ok command) {answer : Answer}
    (hrun : venue.run (command.call handle).operation = (.ok answer, next)) :
    venue.run (handle.handleText text) = (.ok (ServerMessage.ofAnswer (.ok answer)), next) := by
  have hperform := run_outcome venue (handle.perform message)
  rw [run_perform hcommand, hrun] at hperform
  rw [ConnectionHandle.handleText, hmessage]
  dsimp only
  rw [run_bind hperform]
  cases answer <;> rfl

/-- A message that fails is rejected, which is written down. -/
theorem run_handleText_of_error (hmessage : ClientMessage.read? text = some message)
    {error : RoomError} {journal : Journal}
    (hrun : venue.run (handle.perform message) = (.error error, { venue with journal })) :
    ∃ journal', venue.run (handle.handleText text) =
      (.ok (some (.rejected (.refused error))), { venue with journal := journal' }) := by
  have hperform := run_outcome venue (handle.perform message)
  rw [hrun] at hperform
  rw [ConnectionHandle.handleText, hmessage]
  dsimp only
  rw [run_bind hperform]
  exact ⟨_, rfl⟩

/-- Joining by way of a call is joining. -/
theorem run_join_of_call {number : RoomId} {user : UserId} {answer : Answer}
    (hcall : venue.run (Call.join number user).operation = (.ok answer, next)) :
    ∃ shown, answer = .snapshot shown ∧
      venue.run (Venue.join number user) = (.ok shown, next) := by
  rw [Call.operation, run_map] at hcall
  obtain ⟨hanswer, hnext⟩ := Prod.ext_iff.mp hcall
  cases hjoin : (venue.run (Venue.join number user)).1 with
  | error error =>
      rw [hjoin] at hanswer
      cases hanswer
  | ok shown =>
      rw [hjoin] at hanswer
      cases hanswer
      exact ⟨shown, rfl, Prod.ext hjoin hnext⟩

namespace Sound

variable (hsound : venue.Sound) (hleft : venue.store.lastId < maxIdentifier)

include hsound

/-- Whoever joins is shown the room as it is then. -/
theorem ensures_joined (number : RoomId) (user : UserId) :
    (venue.joinVerdict number user).Ensures fun shown next =>
      ∃ state, next.lobby.states.get? number = some state ∧ shown = state.snapshot next.now := by
  apply ensures_withRoom
  intro room hroom
  obtain rfl := hsound.room_id hroom
  apply ensures_withUser
  intro account _
  apply ensures_ite
  · intro _
    exact ⟨room.state, Lobby.states_get? hroom, room.state.snapshot_noEarlier venue.now⟩
  · intro _
    obtain ⟨now, hnow⟩ : ∃ now, now = room.state.clock.noEarlier venue.now := ⟨_, rfl⟩
    refine ⟨room.state.welcome account now, ?_, ?_⟩
    · show (Core.states (venue.settle room _ _).core).get? room.id = _
      rw [core_settle, ← hnow]
      exact IdMap.get?_insert_self _ _ _
    · rw [← hnow]
      have hsame := (room.state.welcome account now).snapshot_noEarlier venue.now
      rw [hnow] at hsame ⊢
      exact hsame

/-- After joining, the room is what the client has been shown. -/
theorem snapshot_of_joined {number : RoomId} {user : UserId} {shown : Snapshot}
    (hrun : venue.run (Venue.join number user) = (.ok shown, next)) :
    (next.run (Venue.snapshot number)).1 = .ok shown := by
  have hobeys := hsound.obeys_joinRoom number user
  have hnext : (venue.run (Venue.join number user)).2.Sound :=
    Leads.sound hobeys ((hsound.joinVerdict number user).enact hsound)
  have hanswer := hobeys.answer_eq
  have hlobby := hobeys.lobby_eq
  have hnow := hobeys.now_eq
  rw [hrun] at hnext hanswer hlobby hnow
  obtain ⟨state, hstate, hshown⟩ := (hsound.ensures_joined number user).of_enact hanswer.symm
  rw [← hlobby] at hstate
  obtain ⟨room, hroom, rfl⟩ := Lobby.exists_room hstate
  rw [(hnext.leads_snapshot hroom).answer_eq, hshown, ← hnow]

include hleft

/-- A call that is refused changes nothing but the journal. -/
theorem run_refused {call : Call} {error : RoomError}
    (herror : (venue.run call.operation).1 = .error error) :
    ∃ journal, venue.run call.operation = (.error error, { venue with journal }) := by
  have hobeys := call.obeys hsound hleft
  rw [hobeys.answer_eq] at herror
  obtain ⟨journal, hrun⟩ := hobeys.run_eq
  rw [herror, enact_eq_self herror] at hrun
  exact ⟨journal, hrun⟩

/-- Only joining is answered with the room. -/
theorem ofAnswer_eq_none (hother : command ≠ .join) {answer : Answer}
    (hanswer : (venue.run (command.call handle).operation).1 = .ok answer) :
    ServerMessage.ofAnswer (.ok answer) = none := by
  cases command with
  | join => exact absurd rfl hother
  | leave =>
      cases hsound.reply hleft hanswer
      rfl
  | control command =>
      cases hsound.reply hleft hanswer
      rfl
  | chat content =>
      cases hsound.reply hleft hanswer
      rfl

/-- It ends in one of the four ways with every text. -/
theorem exists_ending (handle : ConnectionHandle) (text : String) :
    ∃ ending : Ending, ending.Holds venue handle text := by
  cases hmessage : ClientMessage.read? text with
  | none =>
      refine ⟨.notMessage, hmessage, .notMessage, ?_, rfl⟩
      rw [ConnectionHandle.handleText, hmessage]
      rfl
  | some message =>
      cases hcommand : message.toCommand with
      | error error =>
          have hperform : venue.run (handle.perform message) =
              (.error error, { venue with journal := venue.journal }) := by
            rw [ConnectionHandle.perform, hcommand]
            rfl
          obtain ⟨journal, hrun⟩ := run_handleText_of_error hmessage hperform
          exact ⟨.refused, message, error, hmessage, .inl hcommand, _, journal, hrun, rfl, rfl⟩
      | ok command =>
          cases hcall : venue.run (command.call handle).operation with
          | mk outcome next =>
              have hanswer : (venue.run (command.call handle).operation).1 = outcome := by
                rw [hcall]
              cases outcome with
              | error error =>
                  obtain ⟨journal, hrefused⟩ := hsound.run_refused hleft hanswer
                  have hperform := run_perform hcommand venue handle
                  rw [hrefused] at hperform
                  obtain ⟨journal', hrun⟩ := run_handleText_of_error hmessage hperform
                  exact ⟨.refused, message, error, hmessage, .inr ⟨command, hcommand, hanswer⟩, _,
                    journal', hrun, rfl, rfl⟩
              | ok answer =>
                  have hrun := run_handleText_of_ok hmessage hcommand hcall
                  by_cases hjoin : command = .join
                  · subst hjoin
                    obtain rfl := ClientMessage.eq_join hcommand
                    obtain ⟨shown, rfl, hjoined⟩ := run_join_of_call hcall
                    exact ⟨.joined, shown, next, hmessage, hjoined, hrun,
                      hsound.snapshot_of_joined hjoined⟩
                  · rw [hsound.ofAnswer_eq_none hleft hjoin hanswer] at hrun
                    exact ⟨.carriedOut, message, command, answer, next, hmessage, hcommand, hjoin,
                      hcall, hrun⟩

end Sound

/-- It ends in exactly one of four ways with every text that arrives over a connection. Texts with
the same command, or without one for the same reason, have the same effect, and so do objects that
agree on the known fields. -/
theorem Reachable.text_ends (hreach : venue.Reachable) (handle : ConnectionHandle) :
    (∀ text, ∃! ending : Ending, ending.Holds venue handle text) ∧
    (∀ first second, (ClientMessage.read? first).map ClientMessage.toCommand =
        (ClientMessage.read? second).map ClientMessage.toCommand →
      venue.run (handle.handleText first) = venue.run (handle.handleText second)) ∧
    ∀ first second fields others, Json.read? first = some (.object fields) →
      Json.read? second = some (.object others) →
      (∀ name ∈ ClientMessage.knownFields,
        Json.fieldsNamed name fields = Json.fieldsNamed name others) →
        venue.run (handle.handleText first) = venue.run (handle.handleText second) := by
  refine ⟨fun text => ?_, fun first second hsame => ?_,
    fun first second fields others hfirst hsecond hsame => ?_⟩
  · obtain ⟨ending, hends⟩ := hreach.sound.exists_ending hreach.lastId_lt handle text
    exact ⟨ending, hends, fun other hother => hother.eq_told.trans hends.eq_told.symm⟩
  · rw [handle.handleText_congr hsame]
  · have hmessage : ClientMessage.read? first = ClientMessage.read? second := by
      rw [ClientMessage.read?, ClientMessage.read?, hfirst, hsecond]
      exact ClientMessage.ofJson?_congr hsame
    rw [handle.handleText_congr (congrArg _ hmessage)]

/-- Somebody in a room writes in the name of somebody else, or says the same in other ways. -/
theorem meeting_text_ends :
    let handle : ConnectionHandle := { id := 1, room := 4, user := ⟨2, "bob", "Bob"⟩ }
    let first := "\x7b\"type\":\"chat\",\"content\":\"hi\",\"user\":\"ada\"\x7d"
    let second := "[\"chat\",\"hi\"]"
    let third := "\x7b\"content\":\"hi\",\"type\":\"chat\"\x7d"
    meeting.Reachable ∧ Ending.carriedOut.Holds meeting handle first ∧
      meeting.run (handle.handleText first) = meeting.run (handle.handleText second) ∧
      meeting.run (handle.handleText first) = meeting.run (handle.handleText third) := by
  intro handle first second third
  obtain ⟨hends, hcommand, hfields⟩ := meeting_reachable.text_ends handle
  refine ⟨meeting_reachable, ?_, hcommand _ _ (by decide +kernel), hfields _ _
    [("type", .string "chat"), ("content", .string "hi"), ("user", .string "ada")]
    [("content", .string "hi"), ("type", .string "chat")] ?_ ?_ ?_⟩
  · obtain ⟨ending, hholds, -⟩ := hends first
    have htold : ending = .carriedOut := by
      rw [hholds.eq_told]
      decide +kernel
    exact htold ▸ hholds
  · subst first
    cbv
  · subst third
    cbv
  · simp [ClientMessage.knownFields, Json.fieldsNamed]

end Venue

end WatchParty
