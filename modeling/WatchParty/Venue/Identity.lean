/-
# Who is who

Tokens are issued elsewhere; here they are only checked. A token stands for the user of its session
until the session expires. The session's last instant is the one before its expiry.
-/

import WatchParty.Text.Blank
import WatchParty.Venue

namespace WatchParty.Venue

open Operation

/-- The session of a token, if there is one and it has not expired. -/
def session (token : String) : Operation (Except IdentityError Session) := do
  let token := Text.trim token
  if token.isEmpty then
    return .error .missingToken
  match ← attempt .sessionByToken 0 (Store.sessionByToken token) with
  | .error (.notFound .session) => return .error .invalidSession
  | .error error =>
    note .warn s!"Could not look up session: {error.message}"
    return .error (.store error)
  | .ok session =>
    if session.expiresAt ≤ (← get).now then
      return .error .sessionExpired
    return .ok session

/-- The user behind a token. -/
def identify (token : String) : Operation (Except IdentityError User) := do
  return (← session token).map (·.user)

end WatchParty.Venue

namespace WatchParty

/-- The token of an authorization header, which consists of the word Bearer and the token. -/
def bearerToken? (header : String) : Option String :=
  match Text.headerWords header with
  | ["Bearer", token] => some token
  | _ => none

end WatchParty
