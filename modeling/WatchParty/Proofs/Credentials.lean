/-
# Requests without a session

Whoever sends a request without a valid session learns nothing from the answer. The service looks
at who asks before it looks at the room, the query or the body, and all that can be wrong with a
session is refused in one way, except that a malformed header is told apart. So the answer is
settled by the request and its session alone, and nothing but the journal is written.

The number in the path of a socket and the handshake itself are checked before the session counts.
They are taken to be in order here; whether they are does not depend on the venue.
-/

import WatchParty.Http.Answer
import WatchParty.Proofs.Run

namespace WatchParty

open Operation

namespace Session

/-- The session of a token among some sessions, or why there is none. -/
def lookUp (sessions : List Session) (now : Instant) (token : String) :
    Except IdentityError Session :=
  if Text.trim token = "" then .error .missingToken
  else
    match sessions.find? (·.token = Text.trim token) with
    | none => .error .invalidSession
    | some session => if session.expiresAt ≤ now then .error .sessionExpired else .ok session

variable {sessions : List Session} {session : Session} {now : Instant} {token : String}

theorem lookUp_eq_ok_iff :
    lookUp sessions now token = .ok session ↔
      Text.trim token ≠ "" ∧ sessions.find? (·.token = Text.trim token) = some session ∧
        now < session.expiresAt := by
  rw [lookUp]
  by_cases hblank : Text.trim token = ""
  · simp [hblank]
  · rw [if_neg hblank]
    cases sessions.find? (·.token = Text.trim token) with
    | none => simp
    | some found =>
        dsimp only
        constructor
        · intro hok
          split at hok
          · cases hok
          · rename_i hvalid
            cases hok
            exact ⟨hblank, rfl, Int.not_le.mp hvalid⟩
        · rintro ⟨-, hfound, hvalid⟩
          cases hfound
          exact if_neg (Int.not_le.mpr hvalid)

theorem lookUp_eq_expired_iff :
    lookUp sessions now token = .error .sessionExpired ↔
      Text.trim token ≠ "" ∧
        ∃ session, sessions.find? (·.token = Text.trim token) = some session ∧
          session.expiresAt ≤ now := by
  rw [lookUp]
  by_cases hblank : Text.trim token = ""
  · simp [hblank]
  · rw [if_neg hblank]
    cases sessions.find? (·.token = Text.trim token) with
    | none => simp
    | some found => by_cases hexpired : found.expiresAt ≤ now <;> simp [hexpired, hblank]

/-- Whatever is wrong with a token, it is unauthorized. -/
theorem ofIdentityError_of_lookUp {error : IdentityError}
    (herror : lookUp sessions now token = .error error) :
    RoomError.ofIdentityError error = .unauthorized := by
  rw [lookUp] at herror
  split at herror
  · cases herror
    rfl
  · split at herror
    · cases herror
      rfl
    · split at herror
      · cases herror
        rfl
      · cases herror

end Session

namespace Venue

variable {venue : Venue}

/-- The service looks a session up in its rows, and changes nothing. -/
theorem leads_session (hcalm : venue.database.faults = []) (token : String) :
    venue.Leads (session token) (.ok (Session.lookUp venue.store.sessions venue.now token))
      venue := by
  unfold session Session.lookUp
  by_cases hblank : Text.trim token = ""
  · simp only [hblank, if_true]
    exact .pure _
  · have hfilled : (Text.trim token).isEmpty = false := by
      rw [Bool.eq_false_iff, ne_eq, String.isEmpty_iff]
      exact hblank
    simp only [hfilled, if_neg hblank]
    cases hfound : venue.store.sessions.find? (·.token = Text.trim token) with
    | none =>
        have hunknown : Store.sessionByToken (Text.trim token) venue.store =
            (.error (.notFound .session), venue.store) := Store.require_of_none hfound
        exact (Leads.attempt_error hcalm hunknown).bind (.pure _)
    | some session =>
        have hknown : Store.sessionByToken (Text.trim token) venue.store =
            (.ok session, venue.store) := Store.require_of_some hfound
        refine (Leads.attempt hcalm hknown).bind (.get_bind fun journal => ?_)
        by_cases hexpired : session.expiresAt ≤ venue.now
        · simp only [withStore, hexpired, if_true]
          exact .pure _
        · simp only [withStore, hexpired, if_false]
          exact .pure _

theorem leads_identify (hcalm : venue.database.faults = []) (token : String) :
    venue.Leads (identify token)
      (.ok ((Session.lookUp venue.store.sessions venue.now token).map (·.user))) venue :=
  (leads_session hcalm token).bind (.pure _)

end Venue

end WatchParty

namespace WatchParty.Http

open Operation

/-- A request for what a path names may be made by users only. Of what it says beyond that, only
the number of a room whose socket it asks for has to make sense, and the handshake. -/
def Route.Guards (request : Request) : Route → Prop
  | .user | .room _ | .messages _ => request.method = "GET"
  | .rooms => request.method = "GET" ∨ request.method = "POST"
  | .gateway number =>
    (∃ room, roomNumber? number = some room) ∧ request.handshakeRefusal? = none
  | .document => False

namespace Request

/-- A request that only users may make. -/
def Guarded (request : Request) : Prop :=
  ∃ route, Route.ofPath? request.path = some route ∧ route.Guards request

/-- A request carries the token of a session that has not expired. -/
def HasSession (request : Request) (venue : Venue) : Prop :=
  ∃ token session, request.token = .ok token ∧ Text.trim token ≠ "" ∧
    venue.store.sessions.find? (·.token = Text.trim token) = some session ∧
    venue.now < session.expiresAt

/-- A request has an authorization header that does not hold a token. -/
def Malformed (request : Request) : Prop :=
  ∃ header, request.header? "authorization" = some header ∧ ∀ token, headerToken header ≠ .ok token

/-- Why a request without a session is refused. -/
def rejection (request : Request) : Refusal :=
  match request.token with
  | .error refusal => refusal
  | .ok _ => .room .unauthorized

variable {request : Request}

theorem headerToken_cases (header : String) :
    (∃ token, headerToken header = .ok token) ∨
      headerToken header = .error .malformedAuthorization := by
  rw [headerToken]
  split
  · split
    · exact .inl ⟨_, rfl⟩
    · exact .inr rfl
  · exact .inr rfl

theorem queryToken_cases (request : Request) :
    (∃ token, request.queryToken = .ok token) ∨
      request.queryToken = .error (.room .unauthorized) := by
  rw [queryToken]
  split
  · exact .inl ⟨_, rfl⟩
  · exact .inr rfl

theorem rejection_of_malformed (hmalformed : request.Malformed) :
    request.rejection = .malformedAuthorization := by
  obtain ⟨header, hheader, hbad⟩ := hmalformed
  have htoken : request.token = .error .malformedAuthorization := by
    rw [token, hheader]
    exact (headerToken_cases header).resolve_left fun ⟨token, hgood⟩ => hbad token hgood
  rw [rejection, htoken]

theorem rejection_of_not_malformed (hmalformed : ¬ request.Malformed) :
    request.rejection = .room .unauthorized := by
  have htoken : (∃ token, request.token = .ok token) ∨
      request.token = .error (.room .unauthorized) := by
    rw [token]
    cases hheader : request.header? "authorization" with
    | none => exact request.queryToken_cases
    | some header =>
        rcases headerToken_cases header with hgood | hbad
        · exact .inl hgood
        · refine absurd ⟨header, hheader, fun token hgood => ?_⟩ hmalformed
          cases hbad.symm.trans hgood
  rw [rejection]
  rcases htoken with ⟨token, htoken⟩ | htoken
  · rw [htoken]
  · rw [htoken]

/-- Both refusals are sent with one status and one reason. -/
theorem reply_rejection (request : Request) :
    ∃ message, request.rejection.reply =
      { status := 401
        body := .json
          (.object [("reason", .string "UNAUTHORIZED"), ("message", .string message)]) } := by
  by_cases hmalformed : request.Malformed
  · rw [rejection_of_malformed hmalformed]
    exact ⟨_, rfl⟩
  · rw [rejection_of_not_malformed hmalformed]
    exact ⟨_, rfl⟩

end Request

namespace Request

variable {request : Request} {venue : Venue}

/-- Looking for the user of a request without a session finds the reason to refuse it. -/
theorem leads_user (hcalm : venue.database.faults = []) (hsession : ¬ request.HasSession venue) :
    venue.Leads request.user (.ok (.error request.rejection)) venue := by
  unfold user rejection
  cases htoken : request.token with
  | error refusal => exact .pure _
  | ok token =>
      refine (Venue.leads_identify hcalm token).bind ?_
      cases hlookUp : Session.lookUp venue.store.sessions venue.now token with
      | ok session =>
          exact absurd ⟨token, session, htoken, Session.lookUp_eq_ok_iff.mp hlookUp⟩ hsession
      | error error =>
          have herror : Refusal.ofIdentityError error = .room .unauthorized :=
            congrArg Refusal.room (Session.ofIdentityError_of_lookUp hlookUp)
          simp only [← herror]
          exact .pure _

end Request

namespace Handler

variable {α β : Type} {venue : Venue} {handler : Handler α} {rest : α → Handler β}
  {operation : Operation α} {value : α} {next : Venue} {reply : Reply} {request : Request}

/-- A part of answering ends it with a reply, and nothing but the journal is written. -/
def Refuses (handler : Handler α) (venue : Venue) (reply : Reply) : Prop :=
  ∃ journal, handler venue = .error reply { venue with journal }

theorem Refuses.bind (hrefuses : handler.Refuses venue reply) :
    (handler >>= rest).Refuses venue reply := by
  obtain ⟨journal, hrun⟩ := hrefuses
  refine ⟨journal, ?_⟩
  show EStateM.bind handler rest venue = _
  rw [EStateM.bind, hrun]

/-- An operation that succeeds is passed. -/
theorem refuses_operate_bind (hleads : venue.Leads operation (.ok value) venue)
    (hrest : ∀ journal, (rest value).Refuses { venue with journal } reply) :
    (operate operation >>= rest).Refuses venue reply := by
  obtain ⟨journal, hrun⟩ := hleads.run_eq
  obtain ⟨journal', hnext⟩ := hrest journal
  refine ⟨journal', ?_⟩
  show EStateM.bind (operate operation) rest venue = _
  have hoperate : operate operation venue = .ok value { venue with journal } := by
    unfold Venue.run at hrun
    rw [operate]
    cases hresult : operation venue with
    | ok value' middle =>
        rw [hresult] at hrun
        cases hrun
        rfl
    | error error middle =>
        rw [hresult] at hrun
        cases hrun
  rw [EStateM.bind, hoperate]
  exact hnext

theorem refuses_requireUser (hcalm : venue.database.faults = [])
    (hsession : ¬ request.HasSession venue) :
    (requireUser request).Refuses venue request.rejection.reply :=
  refuses_operate_bind (request.leads_user hcalm hsession) fun journal => ⟨journal, rfl⟩

theorem refuses_refuseSocket (venue : Venue) (room : RoomId) (refusal : Refusal) :
    (refuseSocket room refusal : Handler α).Refuses venue refusal.reply :=
  refuses_operate_bind (.note _ _ _) fun journal => ⟨journal, rfl⟩

theorem refuses_openSocket (hcalm : venue.database.faults = [])
    (hsession : ¬ request.HasSession venue) {number : List Char} {room : RoomId}
    (hnumber : roomNumber? number = some room) (hhandshake : request.handshakeRefusal? = none) :
    (openSocket request number).Refuses venue request.rejection.reply := by
  refine refuses_operate_bind (request.leads_user hcalm hsession) fun journal => ?_
  simp only [requireRoom, hnumber, hhandshake]
  exact refuses_refuseSocket _ _ _

theorem refuses_answer (hcalm : venue.database.faults = [])
    (hsession : ¬ request.HasSession venue) {route : Route} (hguards : route.Guards request) :
    (answer request route).Refuses venue request.rejection.reply := by
  have hrequires := refuses_requireUser hcalm hsession
  cases route with
  | user => exact hrequires.bind.bind
  | rooms =>
      unfold answer
      dsimp only
      split
      · exact hrequires.bind.bind
      · exact hrequires.bind.bind
  | room number => exact hrequires.bind.bind
  | messages number => exact hrequires.bind.bind
  | gateway number =>
      obtain ⟨⟨room, hnumber⟩, hhandshake⟩ := hguards
      exact (refuses_openSocket hcalm hsession hnumber hhandshake).bind
  | document => exact hguards.elim

end Handler

namespace Request

variable {request : Request} {venue : Venue}

theorem method_of_handshake (hhandshake : request.handshakeRefusal? = none) :
    request.method = "GET" := by
  rw [handshakeRefusal?] at hhandshake
  split at hhandshake
  · cases hhandshake
  · rename_i hget
    exact Decidable.not_not.mp hget

theorem method_of_guards {route : Route} (hguards : route.Guards request) :
    route.takes request.method = true ∧ request.method ≠ "HEAD" := by
  have hget : request.method = "GET" →
      route.takes request.method = true ∧ request.method ≠ "HEAD" := by
    intro hmethod
    simp [Route.takes, hmethod]
  cases route with
  | user => exact hget hguards
  | rooms =>
      rcases hguards with hmethod | hmethod
      · exact hget hmethod
      · simp [Route.takes, hmethod]
  | room number => exact hget hguards
  | messages number => exact hget hguards
  | gateway number => exact hget (method_of_handshake hguards.2)
  | document => exact hguards.elim

/-- A request without a session is refused for want of it, and nothing but the journal is
written. -/
theorem Guarded.answer_eq (hguarded : request.Guarded) (hcalm : venue.database.faults = [])
    (hsession : ¬ request.HasSession venue) :
    ∃ journal, answer request venue = (.reply request.rejection.reply, { venue with journal }) := by
  obtain ⟨route, hroute, hguards⟩ := hguarded
  obtain ⟨htakes, hhead⟩ := method_of_guards hguards
  obtain ⟨journal, hrefuses⟩ := Handler.refuses_answer hcalm hsession hguards
  refine ⟨journal, ?_⟩
  simp only [answer, hroute, htakes, hrefuses, if_true, shown, if_neg hhead]

/-- Whether a request has a session depends on the time and the sessions alone. -/
theorem hasSession_congr {other : Venue} (hnow : other.now = venue.now)
    (hsessions : other.store.sessions = venue.store.sessions) :
    request.HasSession other ↔ request.HasSession venue := by
  rw [HasSession, HasSession, hnow, hsessions]

/-- Nothing leaks to those who have no session. Their requests are answered by 401 and change
nothing, the answer is the same wherever the time and the sessions are, and unless the authorization
header is malformed, it is the same whatever is asked and whatever is wrong with the token. -/
theorem Guarded.answer_leaks_nothing (hguarded : request.Guarded)
    (hcalm : venue.database.faults = []) (hsession : ¬ request.HasSession venue) :
    (∃ journal message, answer request venue =
      (.reply
        { status := 401
          body := .json
            (.object [("reason", .string "UNAUTHORIZED"), ("message", .string message)]) },
        { venue with journal })) ∧
    (∀ other : Venue, other.database.faults = [] → other.now = venue.now →
      other.store.sessions = venue.store.sessions →
      (answer request other).1 = (answer request venue).1) ∧
    (∀ (another : Request) (elsewhere : Venue), another.Guarded →
      elsewhere.database.faults = [] → ¬ another.HasSession elsewhere →
      ¬ request.Malformed → ¬ another.Malformed →
      (answer another elsewhere).1 = (answer request venue).1) := by
  obtain ⟨journal, hanswer⟩ := hguarded.answer_eq hcalm hsession
  refine ⟨?_, ?_, ?_⟩
  · obtain ⟨message, hreply⟩ := request.reply_rejection
    exact ⟨journal, message, by rw [hanswer, hreply]⟩
  · intro other hcalm' hnow hsessions
    have hsession' := mt (hasSession_congr hnow hsessions).mp hsession
    obtain ⟨journal', hanswer'⟩ := hguarded.answer_eq hcalm' hsession'
    rw [hanswer, hanswer']
  · intro another elsewhere hguarded' hcalm' hsession' hfine hfine'
    obtain ⟨journal', hanswer'⟩ := hguarded'.answer_eq hcalm' hsession'
    rw [hanswer, hanswer', rejection_of_not_malformed hfine, rejection_of_not_malformed hfine']

/-- Somebody asks for a room with the token of a session that has expired. -/
def belated : Request :=
  { method := "GET", target := "/v1/rooms/4", headers := [("Authorization", "Bearer old")]
    body := "" }

theorem belated_leaks_nothing :
    let venue := (Step.alter (.addSession 1 "old" 0)).take .meeting
    ∃ journal message, answer belated venue =
      (.reply
        { status := 401
          body := .json
            (.object [("reason", .string "UNAUTHORIZED"), ("message", .string message)]) },
        { venue with journal }) := by
  intro venue
  have hguarded : belated.Guarded := ⟨.room "4".toList, by decide +kernel, rfl⟩
  have hexpired : ∀ session ∈ venue.store.sessions, session.expiresAt ≤ venue.now := by
    decide +kernel
  have hsession : ¬ belated.HasSession venue := by
    rintro ⟨token, session, -, -, hfound, hvalid⟩
    exact absurd hvalid (Int.not_lt.mpr (hexpired session (List.mem_of_find?_eq_some hfound)))
  exact (hguarded.answer_leaks_nothing rfl hsession).1

end Request

end WatchParty.Http
