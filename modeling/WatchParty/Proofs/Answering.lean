/-
# What requests come to

Answering a request is followed like an operation: by what it comes to, whatever the journal holds.
A part of answering *reads* a venue if it leaves nothing behind but entries in the journal. All that
can be asked for is answered by reading, except that a new room is created and a socket is opened;
and a socket is opened only if the handshake is in order.
-/

import WatchParty.Proofs.Accounts
import WatchParty.Proofs.Repetition
import WatchParty.Proofs.Route

namespace WatchParty.Http

open Verdict

namespace Handler

variable {α β : Type} {venue middle next : Venue} {handler : Handler α} {rest : α → Handler β}
  {outcome : Except Reply α} {outcome' : Except Reply β} {value : α} {reply : Reply}

/-- How a part of answering ends with an outcome and a venue. -/
def ending (venue : Venue) : Except Reply α → EStateM.Result Reply Venue α
  | .ok value => .ok value venue
  | .error reply => .error reply venue

/-- A part of answering comes to an outcome and a next venue, apart from what is written into the
journal. -/
def Comes (handler : Handler α) (venue : Venue) (outcome : Except Reply α) (next : Venue) : Prop :=
  ∀ journal, ∃ journal',
    handler { venue with journal } = ending { next with journal := journal' } outcome

/-- A part of answering leaves a venue as it is, apart from what is written into the journal. -/
def Reads (handler : Handler α) (venue : Venue) : Prop :=
  ∀ journal, ∃ journal' outcome,
    handler { venue with journal } = ending { venue with journal := journal' } outcome

namespace Comes

theorem pure (value : α) : Comes (pure value) venue (.ok value) venue :=
  fun journal => ⟨journal, rfl⟩

theorem throw (reply : Reply) : Comes (throw reply : Handler α) venue (.error reply) venue :=
  fun journal => ⟨journal, rfl⟩

theorem bind (hfirst : handler.Comes venue (.ok value) middle)
    (hrest : (rest value).Comes middle outcome' next) :
    (handler >>= rest).Comes venue outcome' next := by
  intro journal
  obtain ⟨journal', hrun⟩ := hfirst journal
  obtain ⟨journal'', hrun'⟩ := hrest journal'
  refine ⟨journal'', ?_⟩
  show EStateM.bind handler rest _ = _
  rw [EStateM.bind, hrun]
  exact hrun'

theorem bind_error (hfirst : handler.Comes venue (.error reply) middle) :
    (handler >>= rest).Comes venue (.error reply) middle := by
  intro journal
  obtain ⟨journal', hrun⟩ := hfirst journal
  refine ⟨journal', ?_⟩
  show EStateM.bind handler rest _ = _
  rw [EStateM.bind, hrun]
  rfl

/-- An operation that is refused ends answering. -/
theorem operate {operation : Operation α} {answer : Except RoomError α}
    (hleads : venue.Leads operation answer next) :
    (operate operation).Comes venue (answer.mapError fun error => (Refusal.room error).reply)
      next := by
  intro journal
  obtain ⟨journal', hrun⟩ := hleads journal
  refine ⟨journal', ?_⟩
  unfold Venue.run at hrun
  rw [Handler.operate]
  cases hresult : operation { venue with journal } with
  | ok value middle =>
      rw [hresult] at hrun
      cases hrun
      rfl
  | error error middle =>
      rw [hresult] at hrun
      cases hrun
      rfl

theorem reads (hcomes : handler.Comes venue outcome venue) : handler.Reads venue := by
  intro journal
  obtain ⟨journal', hrun⟩ := hcomes journal
  exact ⟨journal', outcome, hrun⟩

end Comes

namespace Reads

theorem pure (value : α) : Reads (pure value) venue := (Comes.pure value).reads

theorem throw (reply : Reply) : Reads (throw reply : Handler α) venue := (Comes.throw reply).reads

theorem get : Reads get venue := fun journal => ⟨journal, .ok { venue with journal }, rfl⟩

theorem bind (hfirst : handler.Reads venue) (hrest : ∀ value, (rest value).Reads venue) :
    (handler >>= rest).Reads venue := by
  intro journal
  obtain ⟨journal', outcome, hrun⟩ := hfirst journal
  cases outcome with
  | ok value =>
      obtain ⟨journal'', outcome', hrun'⟩ := hrest value journal'
      refine ⟨journal'', outcome', ?_⟩
      show EStateM.bind handler rest _ = _
      rw [EStateM.bind, hrun]
      exact hrun'
  | error reply =>
      refine ⟨journal', .error reply, ?_⟩
      show EStateM.bind handler rest _ = _
      rw [EStateM.bind, hrun]
      rfl

/-- A verdict that grants the venue as it is comes to reading. -/
theorem of_obeys {operation : Operation α} {verdict : Verdict α}
    (hobeys : venue.Obeys operation verdict) (hgrants : verdict.Grants (· = venue)) :
    (Handler.operate operation).Reads venue := by
  have hsame : (verdict.enact venue).2 = venue := hgrants.enact rfl
  rw [Venue.Obeys, hsame] at hobeys
  exact (Comes.operate hobeys).reads

end Reads

variable {request : Request} {user : User}

theorem comes_requireUser (hfrom : request.IsFrom venue user) (hcalm : venue.database.faults = []) :
    (requireUser request).Comes venue (.ok user) venue :=
  (Comes.operate (hfrom.leads_user hcalm)).bind (.pure user)

theorem comes_requireUser_error (hsession : ¬ request.HasSession venue)
    (hcalm : venue.database.faults = []) :
    (requireUser request).Comes venue (.error request.rejection.reply) venue :=
  (Comes.operate (request.leads_user hcalm hsession)).bind (.throw _)

theorem reads_requireRoom (venue : Venue) (number : List Char) :
    (requireRoom number).Reads venue := by
  rw [requireRoom]
  cases roomNumber? number with
  | some room => exact .pure room
  | none => exact .throw _

theorem reads_requireQuery (venue : Venue) (request : Request) :
    (requireQuery request).Reads venue := by
  rw [requireQuery]
  split
  · exact .throw _
  · split
    · exact .pure _
    · exact .throw _

section Sound

variable (hsound : venue.Sound)

include hsound

theorem reads_user (request : Request) : (operate request.user).Reads venue := by
  obtain ⟨answer, hleads⟩ := request.exists_leads_user hsound.calm
  exact (Comes.operate hleads).reads

theorem reads_requireUser (request : Request) : (requireUser request).Reads venue := by
  apply (reads_user hsound request).bind
  intro answer
  cases answer with
  | ok user => exact .pure user
  | error refusal => exact .throw _

theorem reads_snapshot (room : RoomId) : (operate (Venue.snapshot room)).Reads venue :=
  .of_obeys (hsound.obeys_snapshot room) (grants_withRoom fun _ _ => rfl)

theorem reads_messages (room : RoomId) (user : UserId) :
    (operate (Venue.messages room user)).Reads venue :=
  .of_obeys (hsound.obeys_roomMessages room user)
    (grants_withRoom fun _ _ => grants_withMember fun _ => rfl)

/-- A handshake that is not in order is refused before anything is opened. -/
theorem reads_openSocket (number : List Char) (hrefused : request.handshakeRefusal? ≠ none) :
    (openSocket request number).Reads venue := by
  obtain ⟨reply, hreply⟩ := Option.ne_none_iff_exists'.mp hrefused
  apply (reads_user hsound request).bind
  intro user
  apply (reads_requireRoom venue number).bind
  intro room
  simp only [hreply]
  exact .throw reply

/-- Everything is answered by reading, except that rooms are created and sockets opened. -/
theorem reads_answer (route : Route) (hroom : ¬ (route = .rooms ∧ request.method = "POST"))
    (hsocket : ∀ number, route = .gateway number → request.handshakeRefusal? ≠ none) :
    (answer request route).Reads venue := by
  have huser := reads_requireUser hsound request
  cases route with
  | user => exact (huser.bind fun _ => .pure _).bind fun _ => .pure _
  | rooms =>
      have hlist : request.method ≠ "POST" := fun hpost => hroom ⟨rfl, hpost⟩
      unfold answer
      simp only [if_neg hlist]
      apply Reads.bind _ fun _ => .pure _
      apply huser.bind
      intro _
      apply (reads_requireQuery venue request).bind
      intro query
      exact Reads.get.bind fun _ => .pure _
  | room number =>
      apply Reads.bind _ fun _ => .pure _
      apply huser.bind
      intro _
      apply (reads_requireRoom venue number).bind
      intro room
      exact (reads_snapshot hsound room).bind fun _ => .pure _
  | messages number =>
      apply Reads.bind _ fun _ => .pure _
      apply huser.bind
      intro user
      apply (reads_requireRoom venue number).bind
      intro room
      exact (reads_messages hsound room user.id).bind fun _ => .pure _
  | gateway number =>
      exact (reads_openSocket hsound number (hsocket number rfl)).bind fun _ => .pure _
  | document => exact .pure _

end Sound

end Handler

/-- The reply to a request that is refused or comes to something. -/
def Reply.ofOutcome : Except Reply Json → Reply
  | .ok json => .ok json
  | .error reply => reply

namespace Request

variable {request : Request} {venue next : Venue} {route : Route}

/-- A request asks for a new room. -/
def CreatesRoom (request : Request) : Prop :=
  request.method = "POST" ∧ request.path = "/v1/rooms".toList

/-- A request asks for a socket, and the handshake is in order. -/
def OpensSocket (request : Request) : Prop :=
  (∃ number, Route.ofPath? request.path = some (.gateway number)) ∧
    request.handshakeRefusal? = none

/-- The answer to a request, once it is known what it comes to. -/
def conclude (request : Request) : Except Reply Answer → Answer
  | .ok (.reply reply) => .reply (request.shown reply)
  | .ok (.socket handle subscription) => .socket handle subscription
  | .error reply => .reply (request.shown reply)

/-- What is asked for is answered as the parts of answering come to it. -/
theorem answer_eq (hroute : Route.ofPath? request.path = some route)
    (htakes : route.takes request.method = true) {outcome : Except Reply Answer}
    (hcomes : (Handler.answer request route).Comes venue outcome next) :
    ∃ journal, answer request venue = (request.conclude outcome, { next with journal }) := by
  obtain ⟨journal, hrun⟩ := hcomes venue.journal
  refine ⟨journal, ?_⟩
  rw [answer, hroute]
  dsimp only
  rw [if_pos htakes, show Handler.answer request route venue = _ from hrun]
  rcases outcome with reply | reply | ⟨handle, subscription⟩ <;> rfl

/-- What is answered in JSON is answered so, unless it is refused. -/
theorem answer_eq_reply (hroute : Route.ofPath? request.path = some route)
    (htakes : route.takes request.method = true) {handler : Handler Json}
    (hhandler : Handler.answer request route = do return .reply (.ok (← handler)))
    {outcome : Except Reply Json} (hcomes : handler.Comes venue outcome next) :
    ∃ journal, answer request venue =
      (.reply (request.shown (.ofOutcome outcome)), { next with journal }) := by
  have hanswer : (Handler.answer request route).Comes venue
      (outcome.map fun json => .reply (.ok json)) next := by
    rw [hhandler]
    cases outcome with
    | ok json => exact hcomes.bind (.pure _)
    | error reply => exact hcomes.bind_error
  obtain ⟨journal, hrun⟩ := answer_eq hroute htakes hanswer
  refine ⟨journal, hrun.trans ?_⟩
  cases outcome <;> rfl

end Request

end WatchParty.Http

namespace WatchParty.Venue

open Http

/-- Nothing differs but what is written in the journal. -/
def Unchanged (venue next : Venue) : Prop := ∃ journal, next = { venue with journal }

/-- A request changes nothing unless it asks for a new room or opens a socket. -/
theorem Sound.unchanged {venue : Venue} (hsound : venue.Sound) {request : Request}
    (hroom : ¬ request.CreatesRoom) (hsocket : ¬ request.OpensSocket) :
    venue.Unchanged (answer request venue).2 := by
  rw [answer]
  split
  · exact ⟨venue.journal, rfl⟩
  · rename_i route hroute
    split
    · have hreads : (Handler.answer request route).Reads venue := by
        apply Handler.reads_answer hsound
        · rintro ⟨rfl, hpost⟩
          exact hroom ⟨hpost, path_of_rooms hroute⟩
        · rintro number rfl hhandshake
          exact hsocket ⟨⟨number, hroute⟩, hhandshake⟩
      obtain ⟨journal, outcome, hrun⟩ := hreads venue.journal
      refine ⟨journal, ?_⟩
      rw [show Handler.answer request route venue = _ from hrun]
      rcases outcome with reply | reply | ⟨handle, subscription⟩ <;> rfl
    · exact ⟨venue.journal, rfl⟩

end WatchParty.Venue
