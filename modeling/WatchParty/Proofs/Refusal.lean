/-
# What is refused changes nothing

A call that is refused, for whatever reason, leaves the time, the database and the lobby as they
were: rooms, rows, the counter, connections, topics, and all that waits in subscriptions. Only the
journal may tell of it. While writes fail, a call that passes all checks and has something to write
is refused for that.
-/

import WatchParty.Proofs.Run

namespace WatchParty

open Verdict

/-- A call passes its lookups and checks, and comes to something that has to be written: a new
room, a newcomer, a member's departure, a clock that changes, or a message of a member. -/
def Call.NeedsWrite (venue : Venue) : Call → Prop
  | .createRoom user content _ =>
    venue.store.users.contains user = true ∧ venue.store.contents.contains content = true
  | .join number user =>
    ∃ room, venue.lobby.liveRoom? number = some room ∧ venue.store.users.contains user = true ∧
      room.state.presence.contains user = false
  | .leave number user =>
    ∃ room, venue.lobby.liveRoom? number = some room ∧ room.state.presence.contains user = true
  | .control number user command =>
    ∃ room, venue.lobby.liveRoom? number = some room ∧ venue.store.users.contains user = true ∧
      room.state.presence.contains user = true ∧
      venue.lobby.rules.mayControl room.state.presence.owner user = true ∧
      room.state.clock.apply command (room.state.clock.noEarlier venue.now) ≠ room.state.clock
  | .chat number user content =>
    ∃ room, venue.lobby.liveRoom? number = some room ∧
      room.state.presence.contains user = true ∧
      ∃ text, Room.checkMessage venue.lobby.rules content = .ok text
  | .messages _ _ => False

namespace Verdict

variable {α : Type} {venue : Venue}

/-- A verdict grants something for which a write has to succeed. -/
def Stores : Verdict α → Prop
  | .refused _ => False
  | .granted stores _ _ => stores = true

theorem Stores.map {β : Type} {verdict : Verdict α} (hstores : verdict.Stores) (f : α → β) :
    (verdict.map f).Stores := by
  cases verdict with
  | refused => exact hstores
  | granted stores value next => exact hstores

theorem Stores.enact_failing {verdict : Verdict α} (hstores : verdict.Stores)
    (hfailing : venue.store.failing = true) : (verdict.enact venue).1 = .error .writesFail := by
  cases verdict with
  | refused => exact hstores.elim
  | granted stores value next =>
      obtain rfl : stores = true := hstores
      rw [Verdict.enact_failing hfailing]

theorem stores_withUser {user : UserId} {verdict : User → Verdict α}
    (huser : venue.store.users.contains user = true)
    (hstores : ∀ account, (verdict account).Stores) : (venue.withUser user verdict).Stores := by
  obtain ⟨account, haccount⟩ := Option.isSome_iff_exists.mp huser
  rw [Venue.withUser, haccount]
  exact hstores account

end Verdict

namespace Venue

variable {venue : Venue}

/-- Whatever needs a write is granted on the condition that the write succeeds. -/
theorem Sound.stores (hsound : venue.Sound) {call : Call} (hneeds : call.NeedsWrite venue) :
    (call.verdict venue).Stores := by
  cases call with
  | createRoom user content title =>
      obtain ⟨huser, hcontent⟩ := hneeds
      obtain ⟨content', hcontent⟩ := Option.isSome_iff_exists.mp hcontent
      apply Stores.map
      apply stores_withUser huser
      intro owner
      rw [hcontent]
      rfl
  | join number user =>
      obtain ⟨room, hroom, huser, habsent⟩ := hneeds
      rw [hsound.liveRoom?_eq] at hroom
      apply Stores.map
      rw [Venue.joinVerdict, withRoom, hroom]
      apply stores_withUser huser
      intro account
      simp only [habsent]
      rfl
  | leave number user =>
      obtain ⟨room, hroom, hmember⟩ := hneeds
      rw [hsound.liveRoom?_eq] at hroom
      apply Stores.map
      rw [Venue.leaveVerdict, withRoom, hroom]
      simp only [hmember]
      rfl
  | control number user command =>
      obtain ⟨room, hroom, huser, hmember, hmay, hchanged⟩ := hneeds
      rw [hsound.liveRoom?_eq] at hroom
      apply Stores.map
      rw [Venue.controlVerdict, withRoom, hroom]
      apply stores_withUser huser
      intro account
      rw [withMember, if_pos hmember, if_pos hmay, steerVerdict]
      rw [if_neg hchanged]
      rfl
  | chat number user content =>
      obtain ⟨room, hroom, hmember, text, htext⟩ := hneeds
      rw [hsound.liveRoom?_eq] at hroom
      apply Stores.map
      rw [Venue.chatVerdict, withRoom, hroom]
      obtain ⟨account, haccount, -⟩ := (hsound.backed hroom).sound.exists_account hmember
      have hstored := (hsound.backed hroom).accounts _ _ haccount
      simp only [htext, withChecked, withMember, hmember, withUser, hstored]
      rfl
  | messages number user => exact hneeds.elim

/-- In every reachable venue a refused call leaves everything but the journal as it was, and while
writes fail whatever needs a write is refused. -/
theorem Reachable.refused_changes_nothing (hreach : venue.Reachable) (call : Call) :
    (∀ error, (venue.run call.operation).1 = .error error →
      (venue.run call.operation).2.lobby = venue.lobby ∧
      (venue.run call.operation).2.database = venue.database ∧
      (venue.run call.operation).2.now = venue.now) ∧
    (venue.store.failing = true → call.NeedsWrite venue →
      (venue.run call.operation).1 =
        .error (.storeUnavailable "The in-memory database is set to fail")) := by
  have hobeys := call.obeys hreach.sound hreach.lastId_lt
  constructor
  · intro error herror
    rw [hobeys.answer_eq] at herror
    have hsame := enact_eq_self herror
    rw [hobeys.lobby_eq, hobeys.database_eq, hobeys.now_eq, hsame]
    exact ⟨rfl, rfl, rfl⟩
  · intro hfailing hneeds
    rw [hobeys.answer_eq]
    exact (hreach.sound.stores hneeds).enact_failing hfailing

theorem meeting_refuses_while_failing :
    let failing := (Step.alter (.setFailing true)).take meeting
    let refused := failing.run (Call.leave 4 2).operation
    refused.1 = .error (.storeUnavailable "The in-memory database is set to fail") ∧
      refused.2.lobby = failing.lobby ∧ refused.2.database = failing.database := by
  intro failing refused
  have hreach : failing.Reachable := meeting_reachable.take _ (by decide)
  obtain ⟨hsame, hfails⟩ := hreach.refused_changes_nothing (.leave 4 2)
  have herror := hfails rfl ⟨_, rfl, rfl⟩
  obtain ⟨hlobby, hdatabase, -⟩ := hsame _ herror
  exact ⟨herror, hlobby, hdatabase⟩

end Venue

end WatchParty
