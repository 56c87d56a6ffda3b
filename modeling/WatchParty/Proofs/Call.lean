/-
# Calls on rooms

The six calls by which rooms are used, with their answers, as one datum. In a sound venue that has
numbers left every call comes to its verdict. Hence every call leaves a sound venue, and a call that
is refused leaves all but the journal as it was.
-/

import WatchParty.Proofs.Room.Operation

namespace WatchParty

open Operation Verdict

/-- Something that is asked of a room, or for one. -/
inductive Call where
  | createRoom (user : UserId) (content : ContentId) (title : Option String)
  | join (room : RoomId) (user : UserId)
  | leave (room : RoomId) (user : UserId)
  | control (room : RoomId) (user : UserId) (command : Command)
  | chat (room : RoomId) (user : UserId) (content : String)
  | messages (room : RoomId) (user : UserId)
deriving DecidableEq, Repr

/-- The answer to a call that is granted. -/
inductive Answer where
  | snapshot (room : Snapshot)
  | left
  | applied (event : RoomEvent)
  | posted (message : Message)
  | history (messages : List Message)
deriving DecidableEq, Repr

namespace Call

/-- The operation that deals with a call. -/
def operation : Call → Operation Answer
  | .createRoom user content title => .snapshot <$> Venue.createRoom user content title
  | .join room user => .snapshot <$> Venue.join room user
  | .leave room user => (fun _ => .left) <$> Venue.leave room user
  | .control room user command => .applied <$> Venue.control room user command
  | .chat room user content => .posted <$> Venue.chat room user content
  | .messages room user => .history <$> Venue.messages room user

/-- The verdict on a call. -/
def verdict (venue : Venue) : Call → Verdict Answer
  | .createRoom user content title => (venue.createVerdict user content title).map .snapshot
  | .join room user => (venue.joinVerdict room user).map .snapshot
  | .leave room user => (venue.leaveVerdict room user).map fun _ => .left
  | .control room user command => (venue.controlVerdict room user command).map .applied
  | .chat room user content => (venue.chatVerdict room user content).map .posted
  | .messages room user => (venue.messagesVerdict room user).map .history

end Call

namespace Venue

variable {α β : Type} {venue : Venue} {number : RoomId} {user : UserId}

theorem Obeys.map {operation : Operation α} {verdict : Verdict α}
    (hobeys : venue.Obeys operation verdict) (f : α → β) :
    venue.Obeys (f <$> operation) (verdict.map f) := by
  unfold Obeys at hobeys ⊢
  rw [enact_map]
  generalize (verdict.enact venue).1 = answer at hobeys
  cases answer with
  | error error => exact hobeys.map_error
  | ok value => exact hobeys.map

/-- The room that is made of the row and the participants of a sound state is the room of that
state. -/
theorem leads_makeRoom (venue : Venue) {state : RoomState} (hstate : state.Sound)
    {members : List (Participant × User)} (hroster : members.map (·.1) = state.presence.roster)
    (haccounts : ∀ member ∈ members, state.users.get? member.1.user = some member.2) :
    venue.Leads (makeRoom state.data state.content members)
      (.ok (Room.ofState venue.lobby.nextSerial state))
      (venue.withLobby { venue.lobby with nextSerial := venue.lobby.nextSerial + 1 }) := by
  rw [← Room.ofRecord_eq_ofState hstate venue.lobby.nextSerial hroster haccounts]
  exact fun journal => ⟨journal, rfl⟩

theorem leads_openRoom (venue : Venue) {state : RoomState} (hstate : state.Sound)
    {members : List (Participant × User)} (hroster : members.map (·.1) = state.presence.roster)
    (haccounts : ∀ member ∈ members, state.users.get? member.1.user = some member.2) :
    venue.Leads (openRoom state.data state.content members)
      (.ok (Room.ofState venue.lobby.nextSerial state))
      (venue.withLobby (venue.lobby.host state)) :=
  (leads_makeRoom venue hstate hroster haccounts).bind ((Leads.changeLobby _).bind (.pure _))

theorem leads_snapshot (venue : Venue) {room : Room} (hlive : room.view.deleted = false) :
    venue.Leads room.snapshot (.ok (room.view.snapshot venue.now)) venue := by
  rw [Room.snapshot, hlive]
  exact .get_bind fun journal => .pure _

/-- What follows upon something that is granted. -/
theorem Obeys.bind {operation : Operation α} {rest : α → Operation β} {stores : Bool} {value : α}
    {answer : β} {middle next : Venue}
    (hobeys : venue.Obeys operation (.granted stores value middle))
    (hrest : middle.Leads (rest value) (.ok answer) next) :
    venue.Obeys (operation >>= rest) (.granted stores answer next) := by
  unfold Obeys at hobeys ⊢
  rw [enact] at hobeys ⊢
  split
  · rename_i hfails
    rw [if_pos hfails] at hobeys
    exact hobeys.bind_error
  · rename_i hstored
    rw [if_neg hstored] at hobeys
    exact hobeys.bind hrest

namespace Sound

variable (hsound : venue.Sound)

include hsound

theorem obeys_findRoom {rest : Room → Operation α} {verdict : Room → Verdict α}
    (hrest : ∀ room, venue.lobby.rooms.get? number = some room →
      venue.Obeys (rest room) (verdict room)) :
    venue.Obeys (findRoom number >>= rest) (venue.withRoom number verdict) := by
  have hlive := hsound.liveRoom?_eq number
  rw [withRoom]
  cases hroom : venue.lobby.rooms.get? number with
  | none =>
      have hnone : venue.lobby.liveRoom? number = none := hlive.trans hroom
      have hfind : venue.Leads (findRoom number) (.error .roomNotFound) venue := by
        refine .get_bind fun journal => ?_
        simp only [hnone]
        exact .throw _
      exact hfind.bind_error
  | some room =>
      have hsome : venue.lobby.liveRoom? number = some room := hlive.trans hroom
      have hfind : venue.Leads (findRoom number) (.ok room) venue := by
        refine .get_bind fun journal => ?_
        simp only [hsome]
        exact .pure _
      exact obeys_bind hfind (hrest room hroom)

theorem obeys_userById {rest : User → Operation α} {verdict : User → Verdict α}
    (hrest : ∀ account, venue.store.users.get? user = some account →
      venue.Obeys (rest account) (verdict account)) :
    venue.Obeys (userById user >>= rest) (venue.withUser user verdict) := by
  rw [withUser]
  cases haccount : venue.store.users.get? user with
  | none =>
      have hmissing : Store.userById user venue.store =
          (.error (.notFound .user), venue.store) := Store.require_of_none haccount
      exact (Leads.ask_error hsound.calm hmissing).bind_error
  | some account =>
      have hfound : Store.userById user venue.store = (.ok account, venue.store) :=
        Store.require_of_some haccount
      exact obeys_bind (.ask hsound.calm hfound) (hrest account haccount)

/-- What the store does for a new room. -/
theorem createRoom_eq (hleft : venue.store.lastId < maxIdentifier)
    (hwritable : venue.store.failing = false) (owner : User) (content : Content)
    (title : Option String) :
    let row := venue.newRow owner content title
    Store.createRoom
        { content := row.content, title := row.title, owner := row.owner
          createdAt := row.createdAt, playback := row.playback } venue.store =
      (.ok row, { venue.store.record (RoomState.found row content owner) with
        lastId := row.id }) := by
  intro row
  have hvacant : venue.store.roster venue.store.nextId = [] := by
    have hnone : venue.lobby.states.get? venue.store.nextId = none :=
      hsound.numbered.get?_nextId hleft fun id state hstate =>
        hsound.numbered.rooms id (hsound.describes.contains_room hstate)
    rw [Store.roster, hsound.describes.participants, IdMap.get?_mapValues, hnone]
    rfl
  rw [Store.createRoom, Store.write_of_writable _ hwritable]
  simp only [hvacant]
  rfl

theorem obeys_createRoom (hleft : venue.store.lastId < maxIdentifier) (content : ContentId)
    (title : Option String) :
    venue.Obeys (createRoom user content title) (venue.createVerdict user content title) := by
  apply hsound.obeys_userById
  intro owner howner
  cases hcontent : venue.store.contents.get? content with
  | none =>
      have hmissing : Store.contentById content venue.store =
          (.error (.notFound .content), venue.store) := Store.require_of_none hcontent
      exact (Leads.ask_error hsound.calm hmissing).bind_error
  | some content' =>
      have hfound : Store.contentById content venue.store = (.ok content', venue.store) :=
        Store.require_of_some hcontent
      refine obeys_bind (.ask hsound.calm hfound) (obeys_get fun journal => ?_)
      unfold Obeys
      cases hset : venue.store.failing with
      | true =>
          rw [enact_failing hset]
          exact (Leads.attempt_error hsound.calm (Store.write_failing _ hset)).bind
            ((Leads.note _ _ _).bind (.throw (.ofStoreError .setToFail)))
      | false =>
          rw [enact_writable hset]
          have hbacked := hsound.backed_newRow user howner hcontent title
          have hcreate := hsound.createRoom_eq hleft hset owner content' title
          refine (Leads.attempt hsound.calm hcreate).bind ((Leads.note _ _ _).bind ?_)
          refine Leads.bind (leads_openRoom _ hbacked.sound rfl ?_) (leads_snapshot _ rfl)
          intro member hmem
          rw [List.mem_singleton.mp hmem]
          exact IdMap.get?_insert_self _ _ _

theorem obeys_joinRoom (number : RoomId) (user : UserId) :
    venue.Obeys (join number user) (venue.joinVerdict number user) := by
  apply hsound.obeys_findRoom
  intro room hroom
  apply hsound.obeys_userById
  intro account haccount
  obtain rfl := (hsound.numbered.users _ _ haccount).1
  cases hmember : room.state.presence.contains account.id with
  | true => exact hsound.leads_join_member hroom hmember
  | false => exact hsound.obeys_join hroom hmember

theorem obeys_leaveRoom (number : RoomId) (user : UserId) :
    venue.Obeys (leave number user) (venue.leaveVerdict number user) := by
  apply hsound.obeys_findRoom
  intro room hroom
  have hid := hsound.room_id hroom
  cases hmember : room.state.presence.contains user with
  | false =>
      exact (hsound.leads_leave_stranger hroom hmember).bind (.pure ())
  | true =>
      by_cases hlast : room.state.presence.roster.dismiss user = []
      · have hdeleted : (room.state.release user).deleted = true :=
          RoomState.deleted_release.mpr hlast
        rw [if_pos rfl, if_pos hdeleted, Venue.dissolve, hid]
        have hleave := hsound.obeys_leave_last hroom hmember hlast
        rw [hid] at hleave
        refine hleave.bind ?_
        rw [if_pos rfl]
        exact .changeLobby _
      · have hlive := ((hsound.backed hroom).sound.release hlast).live
        rw [if_pos rfl, if_neg (by simp [hlive])]
        exact (hsound.obeys_leave_others hroom hmember hlast).bind (.pure ())

theorem obeys_controlRoom (number : RoomId) (user : UserId) (command : Command) :
    venue.Obeys (control number user command) (venue.controlVerdict number user command) :=
  hsound.obeys_findRoom fun _ hroom => hsound.obeys_userById fun _ _ =>
    hsound.obeys_control hroom command

theorem obeys_chatRoom (number : RoomId) (user : UserId) (content : String) :
    venue.Obeys (chat number user content) (venue.chatVerdict number user content) :=
  hsound.obeys_findRoom fun _ hroom => hsound.obeys_chat hroom content

theorem obeys_roomMessages (number : RoomId) (user : UserId) :
    venue.Obeys (messages number user) (venue.messagesVerdict number user) :=
  hsound.obeys_findRoom fun _ hroom => hsound.obeys_messages hroom

end Sound

end Venue

namespace Call

variable {venue : Venue} (hsound : venue.Sound) (hleft : venue.store.lastId < maxIdentifier)

include hsound hleft

/-- Every call comes to its verdict. -/
theorem obeys (call : Call) : venue.Obeys call.operation (call.verdict venue) := by
  cases call with
  | createRoom user content title => exact (hsound.obeys_createRoom hleft content title).map _
  | join room user => exact (hsound.obeys_joinRoom room user).map _
  | leave room user => exact (hsound.obeys_leaveRoom room user).map _
  | control room user command => exact (hsound.obeys_controlRoom room user command).map _
  | chat room user content => exact (hsound.obeys_chatRoom room user content).map _
  | messages room user => exact (hsound.obeys_roomMessages room user).map _

theorem grants_sound (call : Call) : (call.verdict venue).Grants Venue.Sound := by
  cases call with
  | createRoom user content title => exact (hsound.createVerdict user hleft content title).map _
  | join room user => exact (hsound.joinVerdict room user).map _
  | leave room user => exact (hsound.leaveVerdict room user).map _
  | control room user command => exact (hsound.controlVerdict room user command).map _
  | chat room user content => exact (hsound.chatVerdict room user hleft content).map _
  | messages room user => exact (hsound.messagesVerdict room user).map _

end Call

end WatchParty
