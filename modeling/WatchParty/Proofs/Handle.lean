/-
# What is done over a connection

A command over a connection is a call of the connected user, and a text is the command that it says.
Closing a connection takes it off the register, and lets its user leave if it was the user's last
one to the room. Leaving does not look at connections, so it makes no difference that this one is
off the register by then.

What is said here of a handle is said of any handle, also of one whose connection is not registered.
-/

import WatchParty.Gateway
import WatchParty.Proofs.Call

namespace WatchParty

open Operation Verdict

namespace RoomCommand

/-- The call that a command over a connection stands for. -/
def call (handle : ConnectionHandle) : RoomCommand → Call
  | .join => .join handle.room handle.user.id
  | .leave => .leave handle.room handle.user.id
  | .control command => .control handle.room handle.user.id command
  | .chat content => .chat handle.room handle.user.id content

/-- The command that a text says, if it says one. -/
def read? (text : String) : Option RoomCommand :=
  (ClientMessage.read? text).bind fun message => message.toCommand.toOption

end RoomCommand

/-- What is told over a connection when its command is answered. -/
def Answer.reply : Answer → CommandReply
  | .snapshot room => .snapshot room
  | .applied event => .applied event
  | .posted message => .posted message
  | _ => .left

/-- What a client is told when the command of its text is answered or refused. -/
def ServerMessage.ofAnswer : Except RoomError Answer → Option ServerMessage
  | .ok (.snapshot room) => some (.snapshot room)
  | .ok _ => none
  | .error error => some (.rejected (.refused error))

namespace ConnectionHandle

/-- Whether a connection is registered, and the only one of its user to its room. -/
def isLast (lobby : Lobby) (handle : ConnectionHandle) : Bool :=
  lobby.connections.contains handle.id &&
    !{ lobby with connections := lobby.connections.erase handle.id }.isConnected handle.room
      handle.user.id

/-- A command over a connection is its call, with the answer put as a reply. -/
theorem handle_eq (handle : ConnectionHandle) (command : RoomCommand) :
    handle.handle command = Answer.reply <$> (command.call handle).operation := by
  cases command <;>
    simp only [ConnectionHandle.handle, RoomCommand.call, Call.operation, Functor.map_map,
      bind_pure_comp, Answer.reply]

end ConnectionHandle

namespace Venue

/-- The venue with other connections. -/
def withConnections (venue : Venue) (connections : IdMap Connection) : Venue :=
  venue.withLobby { venue.lobby with connections }

variable {venue : Venue} {handle : ConnectionHandle} {text : String} {command : RoomCommand}

namespace Sound

variable (hsound : venue.Sound) (hleft : venue.store.lastId < maxIdentifier)

include hsound hleft

/-- A call answers, and comes to its verdict. -/
theorem leads_call (call : Call) :
    venue.Leads call.operation (venue.run call.operation).1
      ((call.verdict venue).enact venue).2 := by
  have hobeys := call.obeys hsound hleft
  rw [hobeys.answer_eq]
  exact hobeys

/-- A command comes to its call. -/
theorem leads_handle (handle : ConnectionHandle) (command : RoomCommand) :
    venue.Leads (handle.handle command)
      ((venue.run (command.call handle).operation).1.map Answer.reply)
      (((command.call handle).verdict venue).enact venue).2 := by
  rw [handle.handle_eq]
  exact (hsound.leads_call hleft _).map_answer Answer.reply

/-- A text with a command comes to the call of the command. -/
theorem leads_handleText (hread : RoomCommand.read? text = some command) :
    venue.Leads (handle.handleText text)
      (.ok (ServerMessage.ofAnswer (venue.run (command.call handle).operation).1))
      (((command.call handle).verdict venue).enact venue).2 := by
  obtain ⟨message, hmessage, hcommand⟩ := Option.bind_eq_some_iff.mp hread
  have hperform : handle.perform message = handle.handle command := by
    rw [ConnectionHandle.perform]
    cases hmeant : message.toCommand with
    | error error =>
        rw [hmeant] at hcommand
        cases hcommand
    | ok meant =>
        rw [hmeant] at hcommand
        cases hcommand
        rfl
  rw [ConnectionHandle.handleText, hmessage]
  dsimp only
  rw [hperform]
  refine (hsound.leads_handle hleft handle command).outcome.bind ?_
  cases (venue.run (command.call handle).operation).1 with
  | error error => exact (Leads.note _ _ _).bind (.pure _)
  | ok answer => cases answer <;> exact .pure _

end Sound

/-- A text without a command is rejected, wherever it arrives. -/
theorem rejection_of_read?_none (hread : RoomCommand.read? text = none) :
    ∃ rejection, ∀ (venue : Venue) (handle : ConnectionHandle),
      venue.Leads (handle.handleText text) (.ok (some (.rejected rejection))) venue := by
  rw [RoomCommand.read?] at hread
  cases hmessage : ClientMessage.read? text with
  | none =>
      refine ⟨.notMessage, fun venue handle => ?_⟩
      rw [ConnectionHandle.handleText, hmessage]
      exact .pure _
  | some message =>
      rw [hmessage, Option.bind_some] at hread
      cases hmeant : message.toCommand with
      | ok command =>
          rw [hmeant] at hread
          cases hread
      | error error =>
          refine ⟨.refused error, fun venue handle => ?_⟩
          have hperform : venue.Leads (handle.perform message) (.error error) venue := by
            rw [ConnectionHandle.perform, hmeant]
            exact .throw error
          rw [ConnectionHandle.handleText, hmessage]
          exact hperform.outcome.bind ((Leads.note _ _ _).bind (.pure _))

/-- A text without a command is rejected. -/
theorem leads_handleText_none (venue : Venue) (handle : ConnectionHandle)
    (hread : RoomCommand.read? text = none) :
    ∃ rejection, venue.Leads (handle.handleText text) (.ok (some (.rejected rejection))) venue :=
  (rejection_of_read?_none hread).imp fun _ hleads => hleads venue handle

/-- Leaving neither looks at connections nor touches them. -/
theorem enact_leaveVerdict_withConnections (venue : Venue) (connections : IdMap Connection)
    (number : RoomId) (user : UserId) :
    ((venue.withConnections connections).leaveVerdict number user).enact
        (venue.withConnections connections) =
      (((venue.leaveVerdict number user).enact venue).1,
        ((venue.leaveVerdict number user).enact venue).2.withConnections connections) := by
  have hrooms : (venue.withConnections connections).lobby.rooms.get? number =
    venue.lobby.rooms.get? number := rfl
  rw [leaveVerdict, leaveVerdict, withRoom, withRoom, hrooms]
  cases venue.lobby.rooms.get? number with
  | none => rfl
  | some room =>
      have hfailing : (venue.withConnections connections).store.failing = venue.store.failing := rfl
      dsimp only
      by_cases hmember : room.state.presence.contains user = true
      · rw [if_pos hmember, if_pos hmember, enact, enact, hfailing]
        cases venue.store.failing with
        | true => rfl
        | false =>
            cases (room.state.release user).deleted with
            | true => rfl
            | false => rfl
      · rw [if_neg hmember, if_neg hmember]
        rfl

theorem leads_unregister (venue : Venue) (handle : ConnectionHandle) :
    venue.Leads handle.unregister (.ok (handle.isLast venue.lobby))
      (venue.withConnections (venue.lobby.connections.erase handle.id)) := by
  refine .get_bind fun journal => ?_
  cases hcontains : venue.lobby.connections.contains handle.id with
  | false =>
      rw [ConnectionHandle.isLast, hcontains, IdMap.erase_eq_self hcontains]
      exact .pure _
  | true =>
      refine Leads.bind (.changeLobby _) ((Leads.note _ _ _).bind (.get_bind fun journal => ?_))
      rw [ConnectionHandle.isLast, hcontains]
      exact .pure _

theorem leads_abandon (venue : Venue) (handle : ConnectionHandle) :
    venue.Leads handle.abandon (.ok ())
      (venue.withConnections (venue.lobby.connections.erase handle.id)) := by
  refine (leads_unregister venue handle).bind ?_
  cases handle.isLast venue.lobby with
  | true => exact .note _ _ _
  | false => exact .pure ()

namespace Sound

variable (hsound : venue.Sound)

include hsound

theorem withConnections (connections : IdMap Connection) :
    (venue.withConnections connections).Sound := hsound.of_rooms rfl fun _ => rfl

/-- A refusal to let the user leave is only written down. -/
theorem leads_leaveAfterwards (handle : ConnectionHandle) :
    venue.Leads handle.leaveAfterwards (.ok ())
      ((venue.leaveVerdict handle.room handle.user.id).enact venue).2 := by
  refine (Leads.outcome (hsound.obeys_leaveRoom handle.room handle.user.id)).bind ?_
  cases ((venue.leaveVerdict handle.room handle.user.id).enact venue).1 with
  | ok value => exact .pure ()
  | error error => cases error <;> first | exact .pure () | exact .note _ _ _

/-- Closing a connection takes it off, and lets the user leave if it was the last. -/
theorem leads_close (handle : ConnectionHandle) :
    venue.Leads handle.close (.ok ())
      ((if handle.isLast venue.lobby then
          ((venue.leaveVerdict handle.room handle.user.id).enact venue).2
        else venue).withConnections (venue.lobby.connections.erase handle.id)) := by
  refine (leads_unregister venue handle).bind ?_
  cases handle.isLast venue.lobby with
  | false => exact .pure ()
  | true =>
      have hleads := (hsound.withConnections
        (venue.lobby.connections.erase handle.id)).leads_leaveAfterwards handle
      rwa [enact_leaveVerdict_withConnections] at hleads

end Sound

end Venue

end WatchParty
