/-
# Who a request is

The user in whose name a request is made, told from the characters of the request and the rows of
the sessions. A token is carried by the header or by the query, and a session accepts it if it is
the session's own, up to blank characters around it, and the session has not expired.

What a token comes to depends on the sessions and the time alone, and in time it changes once: from
being accepted to having expired.
-/

import WatchParty.Proofs.Accounts
import WatchParty.Proofs.Store.Ledger
import WatchParty.Proofs.Text.Blank

namespace WatchParty

namespace Session

/-- A session accepts a token at an instant. -/
structure Accepts (session : Session) (now : Instant) (token : String) : Prop where
  /-- The token is the session's own, apart from blank characters around it. -/
  own : Text.Trimmed token.toList session.token.toList
  filled : session.token ≠ ""
  unexpired : now < session.expiresAt

variable {sessions : List Session} {session : Session} {now other : Instant} {token key : String}

/-- Where tokens differ, a session is found exactly by its own token. -/
theorem find?_eq_some_iff
    (htokens : sessions.Pairwise fun first second => first.token ≠ second.token) :
    sessions.find? (·.token = key) = some session ↔ session ∈ sessions ∧ session.token = key := by
  constructor
  · intro hfound
    exact ⟨List.mem_of_find?_eq_some hfound, by simpa using List.find?_some hfound⟩
  · rintro ⟨hmem, rfl⟩
    induction htokens with
    | nil => cases hmem
    | cons hdiffer _ ih =>
        rcases List.mem_cons.mp hmem with rfl | hlater
        · exact List.find?_cons_of_pos (decide_eq_true rfl)
        · rw [List.find?_cons_of_neg (by simpa using hdiffer session hlater)]
          exact ih hlater

/-- A token leads to the session that accepts it. -/
theorem lookUp_eq_ok_iff_accepts
    (htokens : sessions.Pairwise fun first second => first.token ≠ second.token) :
    lookUp sessions now token = .ok session ↔ session ∈ sessions ∧ session.Accepts now token := by
  rw [lookUp_eq_ok_iff, find?_eq_some_iff htokens]
  constructor
  · rintro ⟨hfilled, ⟨hmem, hown⟩, hvalid⟩
    exact ⟨hmem, Text.trim_eq_iff.mp hown.symm, hown ▸ hfilled, hvalid⟩
  · rintro ⟨hmem, hown, hfilled, hvalid⟩
    have htrim := Text.trim_eq_iff.mpr hown
    exact ⟨htrim ▸ hfilled, ⟨hmem, htrim.symm⟩, hvalid⟩

/-- A session that is found was found before. -/
theorem lookUp_earlier (hok : lookUp sessions now token = .ok session) (hle : other ≤ now) :
    lookUp sessions other token = .ok session := by
  obtain ⟨hfilled, hfound, hvalid⟩ := lookUp_eq_ok_iff.mp hok
  exact lookUp_eq_ok_iff.mpr ⟨hfilled, hfound, Int.lt_of_le_of_lt hle hvalid⟩

/-- What has expired stays so. -/
theorem lookUp_later (hexpired : lookUp sessions now token = .error .sessionExpired)
    (hle : now ≤ other) : lookUp sessions other token = .error .sessionExpired := by
  obtain ⟨hfilled, session, hfound, hpast⟩ := lookUp_eq_expired_iff.mp hexpired
  exact lookUp_eq_expired_iff.mpr ⟨hfilled, session, hfound, Int.le_trans hpast hle⟩

end Session

namespace Venue

variable {venue other : Venue} {token : String}

section Times

variable (hcalm : venue.database.faults = []) (hcalm' : other.database.faults = [])
  (hsessions : other.store.sessions = venue.store.sessions)

include hcalm hcalm' hsessions

/-- A user who is identified was identified before. -/
theorem identify_earlier {user : User}
    (haccepted : (venue.run (identify token)).1 = .ok (.ok user)) (hle : other.now ≤ venue.now) :
    (other.run (identify token)).1 = .ok (.ok user) := by
  rw [(leads_identify hcalm token).answer_eq] at haccepted
  rw [(leads_identify hcalm' token).answer_eq, hsessions]
  cases hok : Session.lookUp venue.store.sessions venue.now token with
  | error error =>
      rw [hok] at haccepted
      cases haccepted
  | ok session => rw [Session.lookUp_earlier hok hle, ← haccepted, hok]

/-- A user whose session has expired is not identified again. -/
theorem identify_later (hrefused : (venue.run (identify token)).1 = .ok (.error .sessionExpired))
    (hle : venue.now ≤ other.now) :
    (other.run (identify token)).1 = .ok (.error .sessionExpired) := by
  rw [(leads_identify hcalm token).answer_eq] at hrefused
  rw [(leads_identify hcalm' token).answer_eq, hsessions]
  cases hexpired : Session.lookUp venue.store.sessions venue.now token with
  | ok session =>
      rw [hexpired] at hrefused
      cases hrefused
  | error error =>
      rw [hexpired] at hrefused
      cases hrefused
      rw [Session.lookUp_later hexpired hle]
      rfl

end Times

end Venue

/-- An authorization header holds a token if it consists of the word Bearer and the token. -/
theorem bearerToken?_eq_some_iff {header token : String} :
    bearerToken? header = some token ↔
      Text.Words header.toList ["Bearer".toList, token.toList] := by
  rw [bearerToken?]
  constructor
  · intro hsome
    split at hsome
    · rename_i found hwords
      cases hsome
      exact Text.headerWords_eq_iff.mp hwords
    · cases hsome
  · intro hwords
    have hlist : Text.headerWords header = ["Bearer", token] := Text.headerWords_eq_iff.mpr hwords
    simp [hlist]

namespace Http.Request

variable {request : Request} {token : String} {venue : Venue} {user : User}

/-- A request carries a token. -/
inductive Carries (request : Request) (token : String) : Prop where
  /-- The first authorization header is text, and its words are Bearer and the token. -/
  | header {header : String} (hheader : request.header? "authorization" = some header)
      (htext : ∀ c ∈ header.toList, isHeaderText c = true)
      (hwords : Text.Words header.toList ["Bearer".toList, token.toList])
  /-- There is no authorization header, and the query gives the token, once. -/
  | query (hheader : request.header? "authorization" = none)
      (hfield : (Text.formFields request.query).filter (·.1 = "token") = [("token", token)])

theorem headerToken_eq_ok_iff {header : String} :
    headerToken header = .ok token ↔
      (∀ c ∈ header.toList, isHeaderText c = true) ∧
        Text.Words header.toList ["Bearer".toList, token.toList] := by
  rw [← bearerToken?_eq_some_iff, ← List.all_eq_true, headerToken]
  constructor
  · intro hok
    split at hok
    · rename_i found hfound
      split at hok
      · rename_i htext
        cases hok
        exact ⟨htext, hfound⟩
      · cases hok
    · cases hok
  · rintro ⟨htext, hfound⟩
    rw [hfound]
    exact if_pos htext

theorem queryToken_eq_ok_iff :
    request.queryToken = .ok token ↔
      (Text.formFields request.query).filter (·.1 = "token") = [("token", token)] := by
  rw [queryToken, formValue?]
  have hnamed : ∀ field ∈ (Text.formFields request.query).filter (·.1 = "token"),
      field.1 = "token" := fun field hfield => by simpa using (List.mem_filter.mp hfield).2
  generalize (Text.formFields request.query).filter (·.1 = "token") = fields at hnamed ⊢
  rcases fields with _ | ⟨⟨name, value⟩, _ | ⟨another, more⟩⟩
  · simp
  · obtain rfl : name = "token" := hnamed _ List.mem_cons_self
    simp
  · simp

theorem token_eq_ok_iff : request.token = .ok token ↔ request.Carries token := by
  rw [Request.token]
  cases hheader : request.header? "authorization" with
  | none =>
      constructor
      · intro hok
        exact .query hheader (queryToken_eq_ok_iff.mp hok)
      · rintro (⟨hother, -, -⟩ | ⟨-, hfield⟩)
        · cases hheader.symm.trans hother
        · exact queryToken_eq_ok_iff.mpr hfield
  | some header =>
      constructor
      · intro hok
        obtain ⟨htext, hwords⟩ := headerToken_eq_ok_iff.mp hok
        exact .header hheader htext hwords
      · rintro (⟨hsame, htext, hwords⟩ | ⟨hother, -⟩)
        · cases hheader.symm.trans hsame
          exact headerToken_eq_ok_iff.mpr ⟨htext, hwords⟩
        · cases hheader.symm.trans hother

/-- Where an authorization header holds no token, it is malformed. -/
theorem malformed_of_not_carries (hheader : request.header? "authorization" ≠ none)
    (hnone : ∀ token, ¬ request.Carries token) : request.Malformed := by
  obtain ⟨header, hheader⟩ := Option.ne_none_iff_exists'.mp hheader
  refine ⟨header, hheader, fun token hok => hnone token ?_⟩
  obtain ⟨htext, hwords⟩ := headerToken_eq_ok_iff.mp hok
  exact .header hheader htext hwords

theorem isFrom_iff (hstore : venue.store.Produced) :
    request.IsFrom venue user ↔
      ∃ token, request.Carries token ∧
        ∃ session ∈ venue.store.sessions, session.Accepts venue.now token ∧
          session.user = user := by
  constructor
  · rintro ⟨token, session, htoken, hfilled, hfound, hvalid, huser⟩
    have hlookUp := Session.lookUp_eq_ok_iff.mpr ⟨hfilled, hfound, hvalid⟩
    obtain ⟨hmem, haccepts⟩ := (Session.lookUp_eq_ok_iff_accepts hstore.tokens).mp hlookUp
    exact ⟨token, token_eq_ok_iff.mp htoken, session, hmem, haccepts, huser⟩
  · rintro ⟨token, hcarries, session, hmem, haccepts, huser⟩
    have hlookUp := (Session.lookUp_eq_ok_iff_accepts hstore.tokens).mpr ⟨hmem, haccepts⟩
    obtain ⟨hfilled, hfound, hvalid⟩ := Session.lookUp_eq_ok_iff.mp hlookUp
    exact ⟨token, session, token_eq_ok_iff.mpr hcarries, hfilled, hfound, hvalid, huser⟩

/-- A request is made in the name of one user at most. -/
theorem IsFrom.unique {another : User} (hfrom : request.IsFrom venue user)
    (hother : request.IsFrom venue another) : user = another := by
  obtain ⟨token, session, htoken, -, hfound, -, rfl⟩ := hfrom
  obtain ⟨token', session', htoken', -, hfound', -, rfl⟩ := hother
  cases htoken.symm.trans htoken'
  cases hfound.symm.trans hfound'
  rfl

/-- A request is made in the name of a user exactly if it carries a token that a session of the user
accepts, and nothing but the journal is written to find that out. All other requests are refused
with the status 401; those with a malformed header are, whatever their queries hold. As long as the
sessions stay, a token that is accepted was accepted before, and one that has expired stays so. -/
theorem user_told_by_token (request : Request) (hcalm : venue.database.faults = [])
    (hstore : venue.store.Produced) :
    (∃ answer journal, venue.run request.user = (.ok answer, { venue with journal }) ∧
      (∀ user, answer = .ok user ↔
        ∃ token, request.Carries token ∧
          ∃ session ∈ venue.store.sessions, session.Accepts venue.now token ∧
            session.user = user) ∧
      (request.header? "authorization" ≠ none → (∀ token, ¬ request.Carries token) →
        answer = .error .malformedAuthorization) ∧
      ∀ refusal, answer = .error refusal → refusal.reply.status = 401) ∧
    ∀ (token : String) (other : Venue), other.database.faults = [] →
      other.store.sessions = venue.store.sessions →
      (∀ user, (venue.run (Venue.identify token)).1 = .ok (.ok user) → other.now ≤ venue.now →
        (other.run (Venue.identify token)).1 = .ok (.ok user)) ∧
      ((venue.run (Venue.identify token)).1 = .ok (.error .sessionExpired) →
        venue.now ≤ other.now →
        (other.run (Venue.identify token)).1 = .ok (.error .sessionExpired)) := by
  constructor
  · by_cases hsession : request.HasSession venue
    · obtain ⟨sender, hfrom⟩ := hasSession_iff.mp hsession
      obtain ⟨journal, hrun⟩ := (hfrom.leads_user hcalm).run_eq
      refine ⟨.ok sender, journal, hrun, fun user => ?_, fun _ hnone => ?_, nofun⟩
      · rw [← isFrom_iff hstore, Except.ok.injEq]
        exact ⟨fun hsame => hsame ▸ hfrom, hfrom.unique⟩
      · obtain ⟨token, hcarries, -⟩ := (isFrom_iff hstore).mp hfrom
        exact absurd hcarries (hnone token)
    · obtain ⟨journal, hrun⟩ := (leads_user hcalm hsession).run_eq
      refine ⟨.error request.rejection, journal, hrun, fun user => ?_, fun hheader hnone => ?_, ?_⟩
      · rw [← isFrom_iff hstore]
        exact ⟨nofun, fun hfrom => absurd (hasSession_iff.mpr ⟨user, hfrom⟩) hsession⟩
      · rw [rejection_of_malformed (malformed_of_not_carries hheader hnone)]
      · rintro refusal ⟨⟩
        obtain ⟨message, hreply⟩ := request.reply_rejection
        rw [hreply]
  · intro token other hcalm' hsessions
    exact ⟨fun user => Venue.identify_earlier hcalm hcalm' hsessions,
      Venue.identify_later hcalm hcalm' hsessions⟩

/-- A venue in which ada has two sessions, of which one has a token that is not ASCII. -/
def reception : Venue :=
  let requests : List StoreRequest :=
    [.addUser "ada" "Ada", .addSession 1 "secret" 100, .addSession 1 "é" 100]
  .opening {} 50 ⟨requests.foldl StoreRequest.serve .empty, []⟩

/-- Somebody asks who they are. Their token is in the query, between blank characters. -/
def visit (headers : List (String × String)) : Request :=
  { method := "GET", target := "/v1/user?token=%C2%A0secret+", headers, body := "" }

theorem visit_told_by_token :
    (reception.run (visit []).user).1 = .ok (.ok ⟨1, "ada", "Ada"⟩) ∧
      (reception.run (visit [("authorization", "Bearer")]).user).1 =
        .ok (.error .malformedAuthorization) := by
  have hstore : reception.store.Produced := ⟨_, rfl⟩
  constructor
  · obtain ⟨⟨answer, journal, hrun, huser, -⟩, -⟩ := user_told_by_token (visit []) rfl hstore
    have htoken : (visit []).token = .ok "\u00a0secret " := by decide +kernel
    have haccepts : (⟨2, "secret", 100, ⟨1, "ada", "Ada"⟩⟩ : Session).Accepts reception.now
        "\u00a0secret " :=
      ⟨Text.trim_eq_iff.mp (by decide +kernel), by decide, by decide⟩
    rw [hrun, (huser _).mpr ⟨_, token_eq_ok_iff.mp htoken, _, by decide +kernel, haccepts, rfl⟩]
  · obtain ⟨⟨answer, journal, hrun, -, hmalformed, -⟩, -⟩ :=
      user_told_by_token (visit [("authorization", "Bearer")]) rfl hstore
    have htoken : (visit [("authorization", "Bearer")]).token = .error .malformedAuthorization := by
      decide +kernel
    have hnone : ∀ token, ¬ (visit [("authorization", "Bearer")]).Carries token := by
      intro token hcarries
      cases htoken.symm.trans (token_eq_ok_iff.mpr hcarries)
    rw [hrun, hmalformed (by decide +kernel) hnone]

/-- A header that is not all ASCII is refused, even where its words are Bearer and the token of a
session that has not expired. -/
theorem foreign_token_refused :
    let request := visit [("Authorization", "Bearer é")]
    reception.store.Produced ∧ request.header? "authorization" = some "Bearer é" ∧
      Text.Words "Bearer é".toList ["Bearer".toList, "é".toList] ∧
      (∃ session ∈ reception.store.sessions, session.Accepts reception.now "é") ∧
      (reception.run request.user).1 = .ok (.error .malformedAuthorization) := by
  intro request
  have hrefused : request.token = .error .malformedAuthorization := by decide +kernel
  refine ⟨⟨_, rfl⟩, by decide +kernel, bearerToken?_eq_some_iff.mp (by decide +kernel), ?_, ?_⟩
  · exact ⟨⟨3, "é", 100, ⟨1, "ada", "Ada"⟩⟩, by decide +kernel,
      Text.trim_eq_iff.mp (by decide +kernel), by decide, by decide⟩
  · rw [user, hrefused]
    rfl

end Http.Request

end WatchParty
