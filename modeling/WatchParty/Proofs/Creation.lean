/-
# Rooms that are created on request

Of all requests, apart from those that open a socket, only one kind changes anything but the
journal: a request of a user for a new room. It succeeds if the body asks for a room with a content
that there is, and if the store can be written. Then there is one more room, in which nobody is but
its owner and whose video is paused at the start. The room is stored and registered and has an open
topic, nothing else is different, and nobody hears of it. The answer describes the room as it can be
looked up from then on.
-/

import WatchParty.Proofs.Answering

namespace WatchParty

open Http Http.Request Verdict

namespace Http.RoomRequest

variable {wanted : RoomRequest} {content : Content}

/-- The title that a room is to have: the given one without blanks around it, or that of its content
where nothing is given or nothing is left of it. -/
def Names (wanted : RoomRequest) (content : Content) (title : String) : Prop :=
  (∃ given, wanted.title = some given ∧ title = Text.trim given ∧ title ≠ "") ∨
    ((∀ given, wanted.title = some given → Text.trim given = "") ∧ title = content.title)

theorem names_roomTitle (wanted : RoomRequest) (content : Content) :
    wanted.Names content (Venue.roomTitle wanted.title content) := by
  rw [Names, Venue.roomTitle]
  cases wanted.title with
  | none => exact .inr ⟨nofun, rfl⟩
  | some given =>
      rw [Option.map_some, Option.filter_some]
      cases hblank : (Text.trim given).isEmpty with
      | true =>
          refine .inr ⟨fun other hother => ?_, rfl⟩
          cases hother
          exact String.isEmpty_iff.mp hblank
      | false =>
          have hfull : Text.trim given ≠ "" := mt String.isEmpty_iff.mpr (by simp [hblank])
          exact .inl ⟨given, rfl, rfl, hfull⟩

theorem isValid_iff : wanted.isValid = true ↔
    ∀ title, wanted.title = some title → 1 ≤ title.length ∧ title.length ≤ 128 := by
  rw [isValid, maxTitleLength]
  cases wanted.title <;> simp

end Http.RoomRequest

/-- A refusal is no success. -/
theorem Http.Refusal.status_ne_ok (refusal : Refusal) : refusal.reply.status ≠ 200 := by
  cases refusal with
  | room error => cases error <;> simp [reply, status, roomStatus]
  | malformedAuthorization => simp [reply, status]
  | invalidQuery detail => simp [reply, status]

namespace Http.Request

variable {request : Request} {wanted : RoomRequest}

/-- A request asks for a room in a way that is accepted. The body is announced as JSON, is not too
large and reads as the room, and the title, if there is one, has a usable length. -/
def AsksFor (request : Request) (wanted : RoomRequest) : Prop :=
  Handler.announcesJson request = true ∧ RoomRequest.ofBody? request.body = some wanted ∧
    ∀ title, wanted.title = some title → 1 ≤ title.length ∧ title.length ≤ 128

theorem AsksFor.require_eq (hasks : request.AsksFor wanted) :
    Handler.requireRoomRequest request = pure wanted := by
  obtain ⟨hannounced, hbody, htitle⟩ := hasks
  rw [Handler.requireRoomRequest, if_pos hannounced, hbody]
  exact if_pos (RoomRequest.isValid_iff.mpr htitle)

theorem require_eq_throw (hasks : ∀ wanted, ¬ request.AsksFor wanted) :
    ∃ text, Handler.requireRoomRequest request = throw (Handler.plainRefusal text) := by
  rw [Handler.requireRoomRequest]
  split
  · rename_i hannounced
    cases hbody : RoomRequest.ofBody? request.body with
    | none => exact ⟨_, rfl⟩
    | some wanted =>
        have htitle : ¬ wanted.isValid = true := fun hvalid =>
          hasks wanted ⟨hannounced, hbody, RoomRequest.isValid_iff.mp hvalid⟩
        exact ⟨_, if_neg htitle⟩
  · exact ⟨_, rfl⟩

/-- A request is answered by success. -/
def SucceedsAt (request : Request) (venue : Venue) : Prop :=
  ∃ reply, (answer request venue).1 = .reply reply ∧ reply.status = 200

/-- The room that a request asks for can be created. -/
def CanCreate (request : Request) (venue : Venue) (wanted : RoomRequest) (content : Content) :
    Prop :=
  request.AsksFor wanted ∧ venue.store.contents.get? wanted.content = some content ∧
    venue.store.failing = false

/-- A request for a new room is answered with what its creation comes to. -/
theorem CreatesRoom.answer_eq (hcreates : request.CreatesRoom) {venue next : Venue}
    {outcome : Except Reply Json}
    (hcomes : (Handler.createRoom request).Comes venue outcome next) :
    ∃ journal, answer request venue = (.reply (.ofOutcome outcome), { next with journal }) := by
  obtain ⟨hpost, hpath⟩ := hcreates
  have hroute : Route.ofPath? request.path = some .rooms := by
    rw [hpath]
    decide
  have htakes : Route.rooms.takes request.method = true := by
    rw [hpost]
    decide
  have hhandler : Handler.answer request .rooms =
      do return .reply (.ok (← Handler.createRoom request)) := by
    unfold Handler.answer
    exact if_pos hpost
  have hshown : ∀ reply, request.shown reply = reply := fun reply => by
    rw [shown, hpost]
    rfl
  obtain ⟨journal, hrun⟩ := answer_eq_reply hroute htakes hhandler hcomes
  exact ⟨journal, by rw [hrun, hshown]⟩

/-- Whoever has a session and looks up a room is shown the room. -/
theorem answer_of_roomPath {venue : Venue} (hsound : venue.Sound) {number : RoomId} {room : Room}
    (hroom : venue.lobby.rooms.get? number = some room) (hnonneg : 0 ≤ number)
    (hlast : number ≤ maxIdentifier) (hget : request.method = "GET")
    (hpath : request.path = (roomPath number).toList) {reader : User}
    (hfrom : request.IsFrom venue reader) :
    (answer request venue).1 = .reply (.ok (room.state.snapshot venue.now).listing) := by
  obtain ⟨text, hroute, hnumber⟩ := exists_route_roomPath hnonneg hlast
  rw [← hpath] at hroute
  have htakes : (Route.room text).takes request.method = true := by
    rw [Route.takes, hget]
    rfl
  have hcomes : (Handler.showRoom request text).Comes venue
      (.ok (room.state.snapshot venue.now).listing) venue := by
    refine (Handler.comes_requireUser hfrom hsound.calm).bind ?_
    rw [Handler.requireRoom, hnumber]
    exact (Handler.Comes.pure number).bind
      ((Handler.Comes.operate (hsound.leads_snapshot hroom)).bind (.pure _))
  obtain ⟨journal, hrun⟩ := answer_eq_reply hroute htakes rfl hcomes
  rw [hrun, shown, hget]
  rfl

end Http.Request

/-! ## The new room -/

/-- Registering a room under a new number replaces no other one. -/
theorem Lobby.host_of_absent {lobby : Lobby} {state : RoomState}
    (habsent : lobby.rooms.get? state.data.id = none) :
    lobby.host state =
      { lobby with
        rooms := lobby.rooms.insert state.data.id
          { serial := lobby.nextSerial, state, view := state.view }
        nextSerial := lobby.nextSerial + 1
        topics := lobby.topics.openTopic state.data.id } := by
  have hid : (Room.ofState lobby.nextSerial state).id = state.data.id := rfl
  unfold Lobby.host Lobby.register Lobby.depart
  simp only [hid, habsent, IdMap.insert_erase, Option.toList_none, List.append_nil]
  rfl

namespace Venue

variable {venue next : Venue} {request : Request} {wanted : RoomRequest} {content : Content}
  {user : User}

/-- The state of a room that its owner has just created: nobody else is there, and the video is
paused at the start. -/
def newborn (venue : Venue) (owner : User) (content : Content) (title : String) : RoomState :=
  { data :=
      { id := venue.store.nextId
        content := content.id
        title
        owner := owner.id
        createdAt := venue.now
        playback :=
          { isPlaying := false, position := .zero, updatedAt := venue.now, lastAction := .pause } }
    content
    clock :=
      { isPlaying := false, position := .zero, reference := venue.now, lastAction := .pause
        duration := Clock.usableDuration content.duration }
    presence :=
      { roster := [{ user := owner.id, joinedAt := venue.now }], owner := some owner.id }
    users := IdMap.empty.insert owner.id owner
    deleted := false }

/-- A venue is left with one room more, and nothing else is different but the journal. -/
structure Founds (venue : Venue) (state : RoomState) (next : Venue) : Prop where
  /-- The number of the room is a new one, and nothing goes by it. -/
  fresh : venue.store.lastId < state.data.id
  absent : venue.store.rooms.contains state.data.id = false ∧
    venue.lobby.rooms.contains state.data.id = false ∧
    venue.lobby.topics.isOpen state.data.id = false
  /-- The room and its participants are stored. -/
  database : next.database =
    { venue.database with
      store :=
        { venue.store with
          rooms := venue.store.rooms.insert state.data.id state.data
          participants := venue.store.participants.insert state.data.id state.presence.roster
          lastId := state.data.id } }
  /-- The room is registered, and its topic is open. -/
  lobby : next.lobby =
    { venue.lobby with
      rooms := venue.lobby.rooms.insert state.data.id
        { serial := venue.lobby.nextSerial, state, view := state.view }
      nextSerial := venue.lobby.nextSerial + 1
      topics := venue.lobby.topics.openTopic state.data.id }
  now : next.now = venue.now
  attended : next.lobby.topics.isOpen state.data.id = true
  /-- Other rooms are as they were. -/
  others : ∀ other, other ≠ state.data.id →
    next.lobby.rooms.get? other = venue.lobby.rooms.get? other ∧
    next.lobby.topics.isOpen other = venue.lobby.topics.isOpen other ∧
    next.store.rooms.get? other = venue.store.rooms.get? other ∧
    next.store.roster other = venue.store.roster other ∧
    next.store.history other = venue.store.history other
  /-- Whoever listens hears nothing of it. -/
  silent : next.lobby.topics.subscriptions = venue.lobby.topics.subscriptions

/-- It does not matter what is written down. -/
theorem Founds.withJournal {state : RoomState} (hfounds : venue.Founds state next)
    (journal : Journal) : venue.Founds state { next with journal } :=
  ⟨hfounds.fresh, hfounds.absent, hfounds.database, hfounds.lobby, hfounds.now, hfounds.attended,
    hfounds.others, hfounds.silent⟩

theorem found_newRow (venue : Venue) (owner : User) (content : Content) (title : Option String) :
    RoomState.found (venue.newRow owner content title) content owner =
      venue.newborn owner content (roomTitle title content) := by
  have hclock : (Clock.start venue.now).withDuration content.duration =
      (venue.newborn owner content (roomTitle title content)).clock := by
    rw [Clock.withDuration, Clock.start, Clock.limit_zero]
    rfl
  have hsaved := ((Clock.start venue.now).withDuration_sound content.duration).toClock_save rfl
  rw [RoomState.found, newRow, Store.newRow, hsaved, hclock]
  rfl

namespace Sound

variable (hsound : venue.Sound) (hleft : venue.store.lastId < maxIdentifier)

include hsound hleft

theorem founds_establish {state : RoomState} (hid : state.data.id = venue.store.nextId) :
    venue.Founds state (venue.establish state) := by
  have hstate : venue.lobby.states.get? state.data.id = none := by
    rw [hid]
    exact hsound.get?_nextId hleft
  have hnone : venue.lobby.rooms.get? state.data.id = none :=
    Option.map_eq_none_iff.mp ((IdMap.get?_mapValues _ _ _).symm.trans hstate)
  have hroom : venue.lobby.rooms.contains state.data.id = false := by
    rw [IdMap.contains_eq_isSome, hnone]
    rfl
  exact
    { fresh := hid ▸ hsound.numbered.lt_nextId hleft
      absent := by
        refine ⟨?_, hroom, (hsound.lobby.topics _).trans hroom⟩
        rw [hsound.describes.contains, Lobby.contains_states, hroom]
      database := rfl
      lobby := Lobby.host_of_absent hnone
      now := rfl
      attended := IdMap.contains_of_get? (IdMap.get?_insert_self _ _ _)
      others := fun other hother => by
        refine ⟨?_, ?_, ?_, ?_, rfl⟩
        · show (venue.lobby.host state).rooms.get? other = _
          rw [Lobby.rooms_host, IdMap.get?_insert, if_neg hother]
        · show (venue.lobby.topics.openRooms.insert state.data.id ()).contains other = _
          rw [IdMap.contains_insert, decide_eq_false hother, Bool.false_or]
          rfl
        · exact (IdMap.get?_insert _ _ _ _).trans (if_neg hother)
        · show ((venue.store.participants.insert state.data.id _).get? other).getD [] = _
          rw [IdMap.get?_insert, if_neg hother]
          rfl
      silent := rfl }

variable {id : ContentId} {owner : User}

theorem sound_newborn (howner : venue.store.users.get? owner.id = some owner)
    (hcontent : venue.store.contents.get? id = some content) (title : Option String) :
    (venue.establish (venue.newborn owner content (roomTitle title content))).Sound := by
  rw [← found_newRow]
  exact hsound.establish hleft (hsound.backed_newRow owner.id howner hcontent title)

theorem leads_createRoom (howner : venue.store.users.get? owner.id = some owner)
    (hcontent : venue.store.contents.get? id = some content)
    (hwritable : venue.store.failing = false) (title : Option String) :
    let state := venue.newborn owner content (roomTitle title content)
    venue.Leads (createRoom owner.id id title) (.ok (state.snapshot venue.now))
      (venue.establish state) := by
  have hobeys : venue.Obeys (createRoom owner.id id title) _ :=
    hsound.obeys_createRoom hleft id title
  rw [Obeys, Venue.createVerdict, withUser, howner] at hobeys
  simp only [hcontent, enact_writable hwritable, found_newRow] at hobeys
  exact hobeys

theorem leads_createRoom_error (howner : venue.store.users.get? owner.id = some owner)
    (hmissing : ∀ content, venue.store.contents.get? id = some content →
      venue.store.failing = true) (title : Option String) :
    ∃ error, venue.Leads (createRoom owner.id id title) (.error error) venue := by
  have hobeys : venue.Obeys (createRoom owner.id id title) _ :=
    hsound.obeys_createRoom hleft id title
  rw [Obeys, Venue.createVerdict, withUser, howner] at hobeys
  cases hcontent : venue.store.contents.get? id with
  | none =>
      simp only [hcontent] at hobeys
      exact ⟨_, hobeys⟩
  | some content =>
      simp only [hcontent, enact_failing (hmissing content hcontent)] at hobeys
      exact ⟨_, hobeys⟩

/-- A request of a user for a room that can be created comes to the room. -/
theorem comes_createRoom (hfrom : request.IsFrom venue user) (howned : venue.store.SessionsOwned)
    (hcan : request.CanCreate venue wanted content) :
    let state := venue.newborn user content (roomTitle wanted.title content)
    (Handler.createRoom request).Comes venue (.ok (state.snapshot venue.now).listing)
      (venue.establish state) := by
  intro state
  obtain ⟨hasks, hcontent, hwritable⟩ := hcan
  have hleads :=
    hsound.leads_createRoom hleft (hfrom.account howned) hcontent hwritable wanted.title
  refine (Handler.comes_requireUser hfrom hsound.calm).bind ?_
  rw [hasks.require_eq]
  exact (Handler.Comes.pure wanted).bind ((Handler.Comes.operate hleads).bind (.pure _))

/-- Every other request for a room is refused, and nothing happens. -/
theorem comes_createRoom_error (howned : venue.store.SessionsOwned)
    (hcannot : ¬ ∃ user wanted content, request.IsFrom venue user ∧
      request.CanCreate venue wanted content) :
    ∃ reply, (Handler.createRoom request).Comes venue (.error reply) venue ∧
      reply.status ≠ 200 := by
  by_cases hsession : request.HasSession venue
  · obtain ⟨user, hfrom⟩ := hasSession_iff.mp hsession
    have huser := Handler.comes_requireUser hfrom hsound.calm
    by_cases hasks : ∃ wanted, request.AsksFor wanted
    · obtain ⟨wanted, hasks⟩ := hasks
      have hmissing : ∀ content, venue.store.contents.get? wanted.content = some content →
          venue.store.failing = true := fun content hcontent =>
        Bool.of_not_eq_false fun hwritable =>
          hcannot ⟨user, wanted, content, hfrom, hasks, hcontent, hwritable⟩
      obtain ⟨error, hleads⟩ :=
        hsound.leads_createRoom_error hleft (hfrom.account howned) hmissing wanted.title
      refine ⟨(Refusal.room error).reply, huser.bind ?_, Refusal.status_ne_ok _⟩
      rw [hasks.require_eq]
      exact (Handler.Comes.pure wanted).bind (Handler.Comes.operate hleads).bind_error
    · obtain ⟨text, hthrow⟩ := require_eq_throw (not_exists.mp hasks)
      refine ⟨Handler.plainRefusal text, huser.bind ?_, (by decide : 400 ≠ 200)⟩
      rw [hthrow]
      exact (Handler.Comes.throw _).bind_error
  · have huser := Handler.comes_requireUser_error hsession hsound.calm
    exact ⟨_, huser.bind_error, Refusal.status_ne_ok _⟩

/-! ## The answer -/

theorem answer_of_canCreate (hcreates : request.CreatesRoom) (hfrom : request.IsFrom venue user)
    (howned : venue.store.SessionsOwned) (hcan : request.CanCreate venue wanted content) :
    let state := venue.newborn user content (roomTitle wanted.title content)
    ∃ journal, answer request venue =
      (.reply (.ok (state.snapshot venue.now).listing), { venue.establish state with journal }) :=
  hcreates.answer_eq (hsound.comes_createRoom hleft hfrom howned hcan)

theorem answer_of_cannot_create (hcreates : request.CreatesRoom)
    (howned : venue.store.SessionsOwned)
    (hcannot : ¬ ∃ user wanted content, request.IsFrom venue user ∧
      request.CanCreate venue wanted content) :
    ∃ reply journal, answer request venue = (.reply reply, { venue with journal }) ∧
      reply.status ≠ 200 := by
  obtain ⟨reply, hcomes, hstatus⟩ := hsound.comes_createRoom_error hleft howned hcannot
  obtain ⟨journal, hrun⟩ := hcreates.answer_eq hcomes
  exact ⟨reply, journal, hrun, hstatus⟩

/-- A request for a new room succeeds if it is a user's and the room can be created. -/
theorem succeedsAt_iff (hcreates : request.CreatesRoom) (howned : venue.store.SessionsOwned) :
    request.SucceedsAt venue ↔ ∃ user wanted content, request.IsFrom venue user ∧
      request.CanCreate venue wanted content := by
  constructor
  · rintro ⟨reply, hreply, hstatus⟩
    by_contra hcannot
    obtain ⟨refusal, journal, hrun, hrefused⟩ :=
      hsound.answer_of_cannot_create hleft hcreates howned hcannot
    rw [hrun] at hreply
    cases hreply
    exact hrefused hstatus
  · rintro ⟨user, wanted, content, hfrom, hcan⟩
    obtain ⟨journal, hrun⟩ := hsound.answer_of_canCreate hleft hcreates hfrom howned hcan
    exact ⟨_, congrArg Prod.fst hrun, rfl⟩

/-- Whatever changes something without opening a socket is a request for a new room, and it
succeeds. -/
theorem succeeds_of_changed (howned : venue.store.SessionsOwned) (hsocket : ¬ request.OpensSocket)
    (hchanged : ¬ venue.Unchanged (answer request venue).2) :
    request.CreatesRoom ∧ (∃ user, request.IsFrom venue user) ∧ request.SucceedsAt venue := by
  by_cases hcreates : request.CreatesRoom
  · by_cases hcan : ∃ user wanted content, request.IsFrom venue user ∧
        request.CanCreate venue wanted content
    · have hsucceeds := (hsound.succeedsAt_iff hleft hcreates howned).mpr hcan
      obtain ⟨user, -, -, hfrom, -⟩ := hcan
      exact ⟨hcreates, ⟨user, hfrom⟩, hsucceeds⟩
    · obtain ⟨reply, journal, hrun, -⟩ :=
        hsound.answer_of_cannot_create hleft hcreates howned hcan
      exact absurd ⟨journal, congrArg Prod.snd hrun⟩ hchanged
  · exact absurd (hsound.unchanged hcreates hsocket) hchanged

/-- The new room is shown to whoever looks it up. -/
theorem answer_of_founds {state : RoomState} (hid : state.data.id = venue.store.nextId)
    (hfounds : venue.Founds state next) (hnext : next.Sound) {read : Request} {reader : User}
    (hget : read.method = "GET") (hpath : read.path = (roomPath state.data.id).toList)
    (hfrom : read.IsFrom next reader) :
    (answer read next).1 = .reply (.ok (state.snapshot venue.now).listing) := by
  have hroom : next.lobby.rooms.get? state.data.id =
      some { serial := venue.lobby.nextSerial, state, view := state.view } := by
    rw [hfounds.lobby]
    exact IdMap.get?_insert_self _ _ _
  have hnonneg : 0 ≤ state.data.id :=
    Int.le_trans hsound.numbered.nonneg (Int.le_of_lt hfounds.fresh)
  have hlast : state.data.id ≤ maxIdentifier := by
    rw [hid, hsound.numbered.nextId_eq hleft]
    exact hleft
  rw [answer_of_roomPath hnext hroom hnonneg hlast hget hpath hfrom, hfounds.now]

end Sound

/-- Requests change nothing but by creating a room, apart from those that open a socket. Whatever
else changes something is a user's request for a new room that has succeeded. Such a request
succeeds if and only if the room can be created. Then there is one room more, it is as the user
wanted it, and whoever looks it up is answered as the user was. -/
theorem Reachable.changes_by_creation (hreach : venue.Reachable) (request : Request) :
    let next := (answer request venue).2
    (¬ request.OpensSocket → ¬ venue.Unchanged next →
      request.CreatesRoom ∧ (∃ user, request.IsFrom venue user) ∧ request.SucceedsAt venue) ∧
    ∀ user, request.CreatesRoom → request.IsFrom venue user →
      (request.SucceedsAt venue ↔ ∃ wanted content, request.CanCreate venue wanted content) ∧
      ∀ wanted content, request.CanCreate venue wanted content →
        ∃ title, wanted.Names content title ∧
          let state := venue.newborn user content title
          venue.Founds state next ∧
          (answer request venue).1 = .reply (.ok (state.snapshot venue.now).listing) ∧
          ∀ read : Request, read.method = "GET" → read.path = (roomPath state.data.id).toList →
            (∃ reader, read.IsFrom next reader) →
              (answer read next).1 = (answer request venue).1 := by
  intro next
  have hsound := hreach.sound
  have hleft := hreach.lastId_lt
  have howned := hreach.sessionsOwned
  refine ⟨hsound.succeeds_of_changed hleft howned, fun user hcreates hfrom => ⟨?_, ?_⟩⟩
  · rw [hsound.succeedsAt_iff hleft hcreates howned]
    constructor
    · rintro ⟨_, wanted, content, -, hcan⟩
      exact ⟨wanted, content, hcan⟩
    · rintro ⟨wanted, content, hcan⟩
      exact ⟨user, wanted, content, hfrom, hcan⟩
  · intro wanted content hcan
    obtain ⟨journal, hrun⟩ := hsound.answer_of_canCreate hleft hcreates hfrom howned hcan
    have hanswer := congrArg Prod.fst hrun
    have hnext : next = { venue.establish _ with journal } := congrArg Prod.snd hrun
    refine ⟨_, wanted.names_roomTitle content, ?_⟩
    intro state
    have hfounds : venue.Founds state next := by
      rw [hnext]
      exact (hsound.founds_establish hleft rfl).withJournal journal
    have hnextSound : next.Sound := by
      have hnewborn := hsound.sound_newborn hleft (hfrom.account howned) hcan.2.1 wanted.title
      rw [hnext]
      exact hnewborn.of_eq rfl rfl
    refine ⟨hfounds, hanswer, fun read hget hpath hreader => ?_⟩
    obtain ⟨reader, hreader⟩ := hreader
    rw [hsound.answer_of_founds hleft rfl hfounds hnextSound hget hpath hreader, hanswer]

/-- Somebody asks for a room with a title in which nothing but blanks stands, and looks it up. -/
theorem meeting_changes_by_creation :
    let venue := (Step.alter (.addSession 1 "key" 1)).take meeting
    let headers := [("Authorization", "Bearer key"), ("Content-Type", "application/json")]
    let request : Request :=
      { method := "POST", target := "/v1/rooms", headers, body := "[3,\" \"]" }
    let read : Request := { method := "GET", target := "/v1/rooms/6", headers, body := "" }
    let next := (answer request venue).2
    venue.Reachable ∧ request.SucceedsAt venue ∧
      venue.Founds (venue.newborn ⟨1, "ada", "Ada"⟩ ⟨3, "A Film", none⟩ "A Film") next ∧
      (answer read next).1 = (answer request venue).1 := by
  intro venue headers request read next
  have hreach : venue.Reachable := meeting_reachable.take _ (by decide)
  have hfrom : request.IsFrom venue ⟨1, "ada", "Ada"⟩ :=
    ⟨"key", ⟨5, "key", 1, ⟨1, "ada", "Ada"⟩⟩, by decide +kernel, by decide +kernel,
      by decide +kernel, by decide +kernel, rfl⟩
  have hcreates : request.CreatesRoom := ⟨rfl, by decide +kernel⟩
  have hcan : request.CanCreate venue ⟨3, some " "⟩ ⟨3, "A Film", none⟩ := by
    refine ⟨⟨by decide +kernel, by decide +kernel, ?_⟩, by decide +kernel, by decide +kernel⟩
    rintro title ⟨⟩
    decide
  obtain ⟨hsucceeds, heffect⟩ := (hreach.changes_by_creation request).2 _ hcreates hfrom
  obtain ⟨title, hnames, hfounds, -, hread⟩ := heffect _ _ hcan
  have htitle : title = "A Film" := by
    rcases hnames with ⟨given, ⟨⟩, rfl, hfull⟩ | ⟨-, rfl⟩
    · exact absurd (by decide +kernel) hfull
    · rfl
  subst htitle
  refine ⟨hreach, hsucceeds.mpr ⟨_, _, hcan⟩, hfounds, hread read rfl (by decide +kernel) ?_⟩
  exact ⟨⟨1, "ada", "Ada"⟩, "key", ⟨5, "key", 1, ⟨1, "ada", "Ada"⟩⟩, by decide +kernel,
    by decide +kernel, by decide +kernel, by decide +kernel, rfl⟩

end Venue

end WatchParty
