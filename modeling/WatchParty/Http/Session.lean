/-
# Who sends a request

A request is made in the name of the user whose session token it carries. The token stands in the
authorization header, or, for clients that cannot set headers, in the query. The header goes first:
where there is one, and even if it is malformed, the query is not looked at.
-/

import WatchParty.Http.Refusal
import WatchParty.Text.Form
import WatchParty.Venue.Identity

namespace WatchParty.Http

/-- Whether a character may stand in a header that is read as text: printable ASCII and tab. -/
def isHeaderText (c : Char) : Bool := c = '\t' || (0x20 ≤ c.toNat && c.toNat < 0x7F)

/-- The value of a form field that may be missing but not repeated. -/
def formValue? (name : String) (fields : List (String × String)) : Option (Option String) :=
  match (fields.filter (·.1 = name)).map (·.2) with
  | [] => some none
  | [value] => some (some value)
  | _ => none

namespace Request

/-- The token of an authorization header that consists of text. -/
def headerToken (header : String) : Except Refusal String :=
  match bearerToken? header with
  | some token =>
    if header.toList.all isHeaderText then .ok token else .error .malformedAuthorization
  | none => .error .malformedAuthorization

/-- The token of the query. One that is given twice counts as missing. -/
def queryToken (request : Request) : Except Refusal String :=
  match formValue? "token" (Text.formFields request.query) with
  | some (some token) => .ok token
  | _ => .error (.ofIdentityError .missingToken)

/-- The token that a request carries. -/
def token (request : Request) : Except Refusal String :=
  match request.header? "authorization" with
  | some header => headerToken header
  | none => request.queryToken

/-- The user in whose name a request is made. -/
def user (request : Request) : Operation (Except Refusal User) := do
  match request.token with
  | .error refusal => return .error refusal
  | .ok token =>
    match ← Venue.identify token with
    | .ok user => return .ok user
    | .error error => return .error (.ofIdentityError error)

end Request

end WatchParty.Http
