/-
# Sessions and the accounts behind them

A session carries a copy of the account that it was made for. Accounts are added and never changed,
so in every venue that can come about the copy is the stored account. Hence the user in whose name a
request is made is somebody whom the rooms know.

Who that is, is read off from the token of the request; a request is made in the name of one user at
most.
-/

import WatchParty.Proofs.Change
import WatchParty.Proofs.Credentials

namespace WatchParty

open Operation

/-- Each session carries the account that is stored for its user. -/
def Store.SessionsOwned (store : Store) : Prop :=
  ∀ session ∈ store.sessions, store.users.get? session.user.id = some session.user

namespace Store.SessionsOwned

variable {store later : Store} (howned : store.SessionsOwned)

include howned

/-- It does not matter what becomes of the other tables. -/
theorem of_eq (husers : later.users = store.users) (hsessions : later.sessions = store.sessions) :
    later.SessionsOwned := by
  rw [SessionsOwned, husers, hsessions]
  exact howned

/-- A new account goes by a new number. -/
theorem addUser (hnumbered : store.Numbered) (hleft : store.lastId < maxIdentifier)
    (username displayName : String) : (store.addUser username displayName).2.SessionsOwned := by
  intro session hsession
  have hfresh : store.users.get? store.nextId = none :=
    hnumbered.get?_nextId hleft fun id user huser => (hnumbered.users id user huser).2
  exact IdMap.get?_insert_of_fresh hfresh (howned session hsession)

/-- A new session is made for a stored account. -/
theorem addSession (hnumbered : store.Numbered) {user : UserId} {token : String}
    {expiresAt : Instant} {session : Session}
    (hcall : Store.addSession user token expiresAt store = (.ok session, later)) :
    later.SessionsOwned := by
  unfold Store.addSession at hcall
  split at hcall
  · cases hcall
  · rename_i account haccount
    split at hcall
    · cases hcall
    · cases hcall
      intro other hother
      rcases List.mem_append.mp hother with hold | hnew
      · exact howned other hold
      · rw [List.mem_singleton.mp hnew]
        obtain rfl := (hnumbered.users _ _ haccount).1
        exact haccount

end Store.SessionsOwned

/-- Calls on rooms write neither accounts nor sessions. -/
theorem Core.Change.accounts {core next : Core} {call : Call} (hchange : core.Change call next) :
    next.store.users = core.store.users ∧ next.store.sessions = core.store.sessions := by
  cases hchange <;> exact ⟨rfl, rfl⟩

namespace Venue

variable {venue : Venue}

/-- What comes from outside keeps sessions and accounts together. -/
theorem Sound.owned_change (hsound : venue.Sound) (hleft : venue.store.lastId < maxIdentifier)
    (howned : venue.store.SessionsOwned) (circumstance : Circumstance) :
    (circumstance.change venue).store.SessionsOwned := by
  cases circumstance with
  | addUser username displayName => exact howned.addUser hsound.numbered hleft username displayName
  | addContent title duration => exact howned.of_eq rfl rfl
  | addSession user token expiresAt =>
      show Store.SessionsOwned
        (venue.database.callStore (Store.addSession user token expiresAt)).2.store
      rw [Database.callStore, Database.seed]
      rcases venue.store.addSession_cases user token expiresAt with ⟨_, hcall⟩ | ⟨session, hcall⟩
      · rw [hcall]
        exact howned
      · rw [hcall]
        exact howned.addSession hsound.numbered hcall
  | setFailing failing => exact howned.of_eq rfl rfl
  | setTime now => exact howned

/-- Every step keeps sessions and accounts together. -/
theorem Sound.owned_take (hsound : venue.Sound) (hleft : venue.store.lastId < maxIdentifier)
    (howned : venue.store.SessionsOwned) (step : Step) : (step.take venue).store.SessionsOwned := by
  show (step.take venue).core.store.SessionsOwned
  cases hcall : step.call? venue with
  | some call =>
      cases hsound.take_call hleft hcall with
      | refused _ hsame =>
          rw [hsame]
          exact howned
      | idle _ _ hsame =>
          rw [hsame]
          exact howned
      | changed _ hchange => exact howned.of_eq hchange.accounts.1 hchange.accounts.2
  | none =>
      cases step with
      | alter circumstance => exact hsound.owned_change hleft howned circumstance
      | restart rules =>
          show ((Step.restart rules).take venue).store.SessionsOwned
          rw [(hsound.take_restart rules).1]
          exact howned
      | _ =>
          rw [hsound.core_take_none hcall nofun nofun]
          exact howned

theorem Sound.owned_follow (hsound : venue.Sound) (howned : venue.store.SessionsOwned)
    {steps : List Step} (hlasts : venue.Lasts steps) :
    (venue.follow steps).store.SessionsOwned := by
  induction steps generalizing venue with
  | nil => exact howned
  | cons step rest ih =>
      exact ih (hsound.take hlasts.1 step) (hsound.owned_take hlasts.1 howned step) hlasts.2

/-- Whoever has a session has an account. -/
theorem Reachable.sessionsOwned (hreach : venue.Reachable) : venue.store.SessionsOwned := by
  obtain ⟨rules, now, steps, hlasts, rfl⟩ := hreach
  exact (Sound.opening rules now).owned_follow (fun _ hsession => nomatch hsession) hlasts

end Venue

namespace Http.Request

variable {request : Request} {venue : Venue} {user : User}

/-- A request is made in the name of a user, by the token of a session that has not expired. -/
def IsFrom (request : Request) (venue : Venue) (user : User) : Prop :=
  ∃ token session, request.token = .ok token ∧ Text.trim token ≠ "" ∧
    venue.store.sessions.find? (·.token = Text.trim token) = some session ∧
    venue.now < session.expiresAt ∧ session.user = user

theorem hasSession_iff : request.HasSession venue ↔ ∃ user, request.IsFrom venue user := by
  constructor
  · rintro ⟨token, session, htoken, hfull, hfound, hvalid⟩
    exact ⟨session.user, token, session, htoken, hfull, hfound, hvalid, rfl⟩
  · rintro ⟨user, token, session, htoken, hfull, hfound, hvalid, -⟩
    exact ⟨token, session, htoken, hfull, hfound, hvalid⟩

namespace IsFrom

variable (hfrom : request.IsFrom venue user)

include hfrom

/-- The user is known by the account that the session carries. -/
theorem account (howned : venue.store.SessionsOwned) :
    venue.store.users.get? user.id = some user := by
  obtain ⟨token, session, -, -, hfound, -, rfl⟩ := hfrom
  exact howned session (List.mem_of_find?_eq_some hfound)

/-- Looking for the user of a request finds the user. -/
theorem leads_user (hcalm : venue.database.faults = []) :
    venue.Leads request.user (.ok (.ok user)) venue := by
  obtain ⟨token, session, htoken, hfull, hfound, hvalid, rfl⟩ := hfrom
  have hidentify := Venue.leads_identify hcalm token
  rw [Session.lookUp_eq_ok_iff.mpr ⟨hfull, hfound, hvalid⟩] at hidentify
  unfold user
  rw [htoken]
  exact hidentify.bind (.pure _)

end IsFrom

/-- Looking for the user of a request comes to an answer and changes nothing. -/
theorem exists_leads_user (request : Request) (hcalm : venue.database.faults = []) :
    ∃ answer, venue.Leads request.user (.ok answer) venue := by
  by_cases hsession : request.HasSession venue
  · obtain ⟨user, hfrom⟩ := hasSession_iff.mp hsession
    exact ⟨_, hfrom.leads_user hcalm⟩
  · exact ⟨_, request.leads_user hcalm hsession⟩

end Http.Request

end WatchParty
