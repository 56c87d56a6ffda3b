/-
# Verdicts on what is asked of rooms

What is asked of a room is refused, or it is granted with an answer and a next venue. A verdict says
which, and whether anything has to be stored first: while writes fail, what has to be stored is
refused after all. Carrying a verdict out is therefore all or nothing.

This module supplies the verdicts on the six kinds of call, each read off from the venue as a whole,
and shows that they lead from sound venues to sound venues. That the operations, which go step by
step and undo what they cannot finish, come to these verdicts is not said here.
-/

import WatchParty.Proofs.Venue
import WatchParty.Venue.Rooms

namespace WatchParty

/-- The refusal of what has to be stored while writes fail. -/
def RoomError.writesFail : RoomError := .storeUnavailable StoreError.setToFail.message

/-- What is to become of something that was asked. -/
inductive Verdict (α : Type) where
  | refused (error : RoomError)
  /-- An answer and the next venue, and whether a write has to succeed for them. -/
  | granted (stores : Bool) (value : α) (next : Venue)

namespace Verdict

variable {α : Type} {venue other next : Venue} {verdict : Verdict α} {error : RoomError}
  {stores : Bool} {value : α}

/-- Carry a verdict out. -/
def enact (venue : Venue) : Verdict α → Except RoomError α × Venue
  | .refused error => (.error error, venue)
  | .granted stores value next =>
    if stores && venue.store.failing then (.error .writesFail, venue) else (.ok value, next)

/-- A verdict with another answer. -/
def map {β : Type} (f : α → β) : Verdict α → Verdict β
  | .refused error => .refused error
  | .granted stores value next => .granted stores (f value) next

/-- The answer and the next venue, if there are any, fit together. -/
def Ensures (property : α → Venue → Prop) : Verdict α → Prop
  | .refused _ => True
  | .granted _ value next => property value next

/-- The next venue, if there is one, has a property. -/
def Grants (property : Venue → Prop) : Verdict α → Prop
  | .refused _ => True
  | .granted _ _ next => property next

theorem enact_failing (hfailing : venue.store.failing = true) :
    (granted true value next).enact venue = (.error .writesFail, venue) := by
  rw [enact, hfailing]
  rfl

theorem enact_writable (hwritable : venue.store.failing = false) :
    (granted stores value next).enact venue = (.ok value, next) := by
  rw [enact, hwritable, Bool.and_false]
  rfl

/-- What is refused changes nothing. -/
theorem enact_eq_self (herror : (verdict.enact venue).1 = .error error) :
    (verdict.enact venue).2 = venue := by
  cases verdict with
  | refused => rfl
  | granted stores value next =>
      rw [enact] at herror ⊢
      split
      · rfl
      · rename_i hstored
        rw [if_neg hstored] at herror
        cases herror

theorem enact_map {β : Type} (f : α → β) (venue : Venue) (verdict : Verdict α) :
    (verdict.map f).enact venue =
      ((verdict.enact venue).1.map f, (verdict.enact venue).2) := by
  cases verdict with
  | refused => rfl
  | granted stores value next =>
      rw [map, enact, enact]
      split <;> rfl

theorem Ensures.map {β : Type} {f : α → β} {property : β → Venue → Prop}
    (hensures : verdict.Ensures fun value => property (f value)) :
    (verdict.map f).Ensures property := by
  cases verdict with
  | refused => exact trivial
  | granted stores value next => exact hensures

/-- What a verdict ensures holds if it is carried out to an answer. -/
theorem Ensures.of_enact {property : α → Venue → Prop} (hensures : verdict.Ensures property)
    (hanswer : (verdict.enact venue).1 = .ok value) : property value (verdict.enact venue).2 := by
  cases verdict with
  | refused => cases hanswer
  | granted stores value next =>
      rw [enact] at hanswer ⊢
      split at hanswer
      · cases hanswer
      · rename_i hstored
        cases hanswer
        rw [if_neg hstored]
        exact hensures

theorem ensures_of_forall {property : α → Venue → Prop}
    (hall : ∀ value next, property value next) : verdict.Ensures property := by
  cases verdict with
  | refused => exact trivial
  | granted stores value next => exact hall value next

theorem grants_iff {property : Venue → Prop} :
    verdict.Grants property ↔ verdict.Ensures fun _ => property := by
  cases verdict <;> exact Iff.rfl

theorem Grants.map {β : Type} {property : Venue → Prop} (hgrants : verdict.Grants property)
    (f : α → β) : (verdict.map f).Grants property :=
  grants_iff.mpr (grants_iff.mp hgrants).map

/-- A property that is granted is kept by carrying the verdict out. -/
theorem Grants.enact {property : Venue → Prop} (hgrants : verdict.Grants property)
    (hvenue : property venue) : property (verdict.enact venue).2 := by
  cases verdict with
  | refused => exact hvenue
  | granted stores value next =>
      rw [Verdict.enact]
      split
      · exact hvenue
      · exact hgrants

end Verdict

/-- The row of a room that is created at an instant, under the next number. -/
def Store.newRow (store : Store) (now : Instant) (owner : User) (content : Content)
    (title : Option String) : RoomRecord :=
  { id := store.nextId
    content := content.id
    title := Venue.roomTitle title content
    owner := owner.id
    createdAt := now
    playback := ((Clock.start now).withDuration content.duration).save }

namespace Venue

variable {α : Type}

/-- An operation comes to a verdict. -/
def Obeys (venue : Venue) (operation : Operation α) (verdict : Verdict α) : Prop :=
  venue.Leads operation (verdict.enact venue).1 (verdict.enact venue).2

/-- Something is asked of a room, which has to be registered. -/
def withRoom (venue : Venue) (number : RoomId) (verdict : Room → Verdict α) : Verdict α :=
  match venue.lobby.rooms.get? number with
  | some room => verdict room
  | none => .refused .roomNotFound

/-- Something is asked by a user, who has to have an account. -/
def withUser (venue : Venue) (user : UserId) (verdict : User → Verdict α) : Verdict α :=
  match venue.store.users.get? user with
  | some account => verdict account
  | none => .refused .userNotFound

/-- Something is asked that has to pass a check of its own. -/
def withChecked {β : Type} (checked : Except RoomError β) (verdict : β → Verdict α) : Verdict α :=
  match checked with
  | .ok value => verdict value
  | .error error => .refused error

/-- Something is asked by a user who has to be in the room. -/
def withMember (room : Room) (user : UserId) (verdict : Verdict α) : Verdict α :=
  if room.state.presence.contains user then verdict else .refused .userNotInRoom

variable (venue : Venue) (number : RoomId) (user : UserId)

/-- The row of a room that would be created next. -/
def newRow (owner : User) (content : Content) (title : Option String) : RoomRecord :=
  venue.store.newRow venue.now owner content title

/-- Creating a room. -/
def createVerdict (content : ContentId) (title : Option String) : Verdict Snapshot :=
  venue.withUser user fun owner =>
    match venue.store.contents.get? content with
    | none => .refused .contentNotFound
    | some content =>
      let state := RoomState.found (venue.newRow owner content title) content owner
      .granted true (state.snapshot venue.now) (venue.establish state)

/-- Joining a room. A member is told how things are. -/
def joinVerdict : Verdict Snapshot :=
  venue.withRoom number fun room =>
    venue.withUser user fun account =>
      let now := room.state.clock.noEarlier venue.now
      if room.state.presence.contains user then .granted false (room.state.snapshot now) venue
      else
        let state := room.state.welcome account now
        .granted true (state.snapshot now) (venue.settle room state (state.presenceEvent now))

/-- Leaving a room. Whoever is not there has nothing to do. -/
def leaveVerdict : Verdict Unit :=
  venue.withRoom number fun room =>
    let now := room.state.clock.noEarlier venue.now
    let state := room.state.release user
    if room.state.presence.contains user then
      .granted true ()
        (if state.deleted then venue.dissolve room state (state.presenceEvent now)
        else venue.settle room state (state.presenceEvent now))
    else .granted false () venue

/-- Applying a command to the clock of a room. A clock that stays as it is need not be stored. -/
def steerVerdict (room : Room) (command : Command) : Verdict RoomEvent :=
  let now := room.state.clock.noEarlier venue.now
  let clock := room.state.clock.apply command now
  let event := RoomEvent.playback room.id user (clock.report command.action now)
  if clock = room.state.clock then
    .granted false event (venue.withLobby (venue.lobby.announce event))
  else .granted true event (venue.settle room (room.state.steer clock) event)

/-- Controlling the playback of a room. -/
def controlVerdict (command : Command) : Verdict RoomEvent :=
  venue.withRoom number fun room =>
    venue.withUser user fun _ =>
      withMember room user <|
        if venue.lobby.rules.mayControl room.state.presence.owner user then
          venue.steerVerdict user room command
        else .refused .controlNotPermitted

/-- The next message. -/
def newMessage (sender : User) (content : String) (now : Instant) : Message :=
  { id := venue.store.nextId, room := number, sender, content, createdAt := now }

/-- Posting a chat message. -/
def chatVerdict (content : String) : Verdict Message :=
  venue.withRoom number fun room =>
    withChecked (Room.checkMessage venue.lobby.rules content) fun text =>
      withMember room user <|
        venue.withUser user fun sender =>
          let message := venue.newMessage number sender text (room.state.clock.noEarlier venue.now)
          .granted true message (venue.converse message)

/-- Reading the chat history. -/
def messagesVerdict : Verdict (List Message) :=
  venue.withRoom number fun room =>
    withMember room user (.granted false (venue.store.history number) venue)

end Venue

namespace Verdict

variable {α : Type} {venue : Venue} {property : α → Venue → Prop} {number : RoomId}
  {user : UserId}

theorem ensures_ite {condition : Prop} [Decidable condition] {first second : Verdict α}
    (hfirst : condition → first.Ensures property)
    (hsecond : ¬ condition → second.Ensures property) :
    (if condition then first else second).Ensures property := by
  by_cases h : condition
  · rw [if_pos h]
    exact hfirst h
  · rw [if_neg h]
    exact hsecond h

theorem ensures_withRoom {verdict : Room → Verdict α}
    (hensures : ∀ room, venue.lobby.rooms.get? number = some room →
      (verdict room).Ensures property) :
    (venue.withRoom number verdict).Ensures property := by
  unfold Venue.withRoom
  cases hroom : venue.lobby.rooms.get? number with
  | none => exact trivial
  | some room => exact hensures room hroom

theorem ensures_withUser {verdict : User → Verdict α}
    (hensures : ∀ account, venue.store.users.get? user = some account →
      (verdict account).Ensures property) :
    (venue.withUser user verdict).Ensures property := by
  unfold Venue.withUser
  cases haccount : venue.store.users.get? user with
  | none => exact trivial
  | some account => exact hensures account haccount

theorem ensures_withMember {room : Room} {verdict : Verdict α}
    (hensures : room.state.presence.contains user = true → verdict.Ensures property) :
    (Venue.withMember room user verdict).Ensures property := by
  unfold Venue.withMember
  exact ensures_ite hensures fun _ => trivial

variable {holds : Venue → Prop}

theorem grants_ite {condition : Prop} [Decidable condition] {first second : Verdict α}
    (hfirst : condition → first.Grants holds) (hsecond : ¬ condition → second.Grants holds) :
    (if condition then first else second).Grants holds :=
  grants_iff.mpr <| ensures_ite (fun h => grants_iff.mp (hfirst h))
    fun h => grants_iff.mp (hsecond h)

theorem grants_withRoom {verdict : Room → Verdict α}
    (hgrants : ∀ room, venue.lobby.rooms.get? number = some room → (verdict room).Grants holds) :
    (venue.withRoom number verdict).Grants holds :=
  grants_iff.mpr <| ensures_withRoom fun room hroom => grants_iff.mp (hgrants room hroom)

theorem grants_withUser {verdict : User → Verdict α}
    (hgrants : ∀ account, venue.store.users.get? user = some account →
      (verdict account).Grants holds) :
    (venue.withUser user verdict).Grants holds :=
  grants_iff.mpr <| ensures_withUser fun account haccount =>
    grants_iff.mp (hgrants account haccount)

theorem grants_withMember {room : Room} {verdict : Verdict α}
    (hgrants : room.state.presence.contains user = true → verdict.Grants holds) :
    (Venue.withMember room user verdict).Grants holds :=
  grants_iff.mpr <| ensures_withMember fun hmember => grants_iff.mp (hgrants hmember)

end Verdict

namespace Venue.Sound

open Verdict

variable {venue : Venue} (hsound : venue.Sound) (number : RoomId) (user : UserId)

include hsound

/-- A new room is backed by the rows that it was made from. -/
theorem backed_newRow {owner : User} {content : Content} {id : ContentId}
    (howner : venue.store.users.get? user = some owner)
    (hcontent : venue.store.contents.get? id = some content) (title : Option String) :
    (RoomState.found (venue.newRow owner content title) content owner).Backed venue.store
      venue.store.nextId := by
  have hid := (hsound.numbered.users _ _ howner).1
  have hcontentId := (hsound.numbered.contents _ _ hcontent).1
  have hclock := (Clock.start venue.now).withDuration_sound content.duration
  apply RoomState.Backed.found rfl rfl rfl
  · exact congrArg Clock.save (hclock.toClock_save rfl).symm
  · rw [hid, howner]
  · rw [hcontentId, hcontent]

theorem createVerdict (hleft : venue.store.lastId < maxIdentifier) (content : ContentId)
    (title : Option String) : (venue.createVerdict user content title).Grants Sound := by
  apply grants_withUser
  intro owner howner
  cases hcontent : venue.store.contents.get? content with
  | none => exact trivial
  | some content => exact hsound.establish hleft (hsound.backed_newRow user howner hcontent title)

theorem joinVerdict : (venue.joinVerdict number user).Grants Sound := by
  apply grants_withRoom
  intro room hroom
  apply grants_withUser
  intro account haccount
  obtain rfl := (hsound.numbered.users _ _ haccount).1
  have hbacked := (hsound.backed hroom).welcome haccount (room.state.clock.noEarlier venue.now)
  exact grants_ite (fun _ => hsound) fun _ => hsound.settle hroom hbacked _

theorem leaveVerdict : (venue.leaveVerdict number user).Grants Sound := by
  apply grants_withRoom
  intro room hroom
  apply grants_ite
  · intro _
    show Sound (if _ then _ else _)
    split
    · exact hsound.dissolve hroom _ _
    · rename_i hlive
      have hothers := mt RoomState.deleted_release.mpr hlive
      exact hsound.settle hroom ((hsound.backed hroom).release hothers) _
  · exact fun _ => hsound

theorem controlVerdict (command : Command) :
    (venue.controlVerdict number user command).Grants Sound := by
  apply grants_withRoom
  intro room hroom
  have hbacked := hsound.backed hroom
  have hsteered := hbacked.steer
    (hbacked.sound.clock.apply command (room.state.clock.noEarlier venue.now))
    (Clock.duration_apply _ _ _)
  apply grants_withUser
  intro _ _
  apply grants_withMember
  intro _
  apply grants_ite
  · intro _
    exact grants_ite (fun _ => hsound.announce _) fun _ => hsound.settle hroom hsteered _
  · exact fun _ => trivial

theorem chatVerdict (hleft : venue.store.lastId < maxIdentifier) (content : String) :
    (venue.chatVerdict number user content).Grants Sound := by
  apply grants_withRoom
  intro room hroom
  cases Room.checkMessage venue.lobby.rules content with
  | error error => exact trivial
  | ok text =>
      apply grants_withMember
      intro _
      apply grants_withUser
      intro sender _
      exact hsound.converse hleft rfl (IdMap.contains_of_get? hroom)

theorem messagesVerdict : (venue.messagesVerdict number user).Grants Sound :=
  grants_withRoom fun _ _ => grants_withMember fun _ => hsound

end Venue.Sound

end WatchParty
