/-
# Requests, replies and refusals

A request is a method, an address, headers and a body; a reply is a status with a JSON body, a
plain text, or nothing. A refusal carries a reason code and, where the service itself words it, a
message. Refusals of rooms keep their reason and wording and decide the status.
-/

import WatchParty.Json
import WatchParty.Room.Refusal

namespace WatchParty.Http

/-- A request. -/
structure Request where
  method : String
  /-- The path, with the query string after it if there is one, and perhaps a scheme and a host
  before it. -/
  target : String
  /-- Names and values, in the order in which they were sent. -/
  headers : List (String × String)
  body : String
  /-- Whether the line that the request came on can be turned into a socket. -/
  canUpgrade : Bool := false
deriving Repr

namespace Request

/-- The value of the first header with a name, whatever the case of the name. The name given here
has to be in lower case. -/
def header? (request : Request) (name : String) : Option String :=
  (request.headers.find? fun header => header.1.toLower = name).map (·.2)

/-- The characters of the names of schemes, such as `http`. -/
def isSchemeChar (c : Char) : Bool := c.isAlphanum || c = '+' || c = '-' || c = '.'

/-- An address without its scheme and its host, if it begins with them. A host ends where the path
or the query string begins. -/
def afterHost (address : List Char) : List Char :=
  match address.dropWhile isSchemeChar with
  | ':' :: '/' :: '/' :: rest => rest.dropWhile fun c => c ≠ '/' && c ≠ '?'
  | _ => address

/-- The path and the query string of the target; a fragment does not belong to them. -/
def address (request : Request) : List Char :=
  afterHost (request.target.toList.takeWhile (· ≠ '#'))

/-- The path of a request. -/
def path (request : Request) : List Char := request.address.takeWhile (· ≠ '?')

/-- The query string of a request, without its question mark. -/
def query (request : Request) : List Char := (request.address.dropWhile (· ≠ '?')).drop 1

end Request

/-- What a reply carries. -/
inductive Body where
  | none
  | json (value : Json)
  | text (value : String)
deriving Repr

/-- A reply. -/
structure Reply where
  status : Nat
  body : Body
deriving Repr

namespace Reply

/-- A reply that succeeds. -/
def ok (value : Json) : Reply := { status := 200, body := .json value }

/-- A reply that is only a status. -/
def bare (status : Nat) : Reply := { status, body := .none }

end Reply

/-- Why a request is refused. -/
inductive Refusal where
  /-- What was asked of a room was refused. -/
  | room (error : RoomError)
  /-- The authorization header is not Bearer and a token. -/
  | malformedAuthorization
  /-- The query cannot be answered, with the reason if it is worded here. -/
  | invalidQuery (detail : Option String)
deriving DecidableEq, Repr

namespace Refusal

/-- The reason code that clients are given. -/
def reason : Refusal → String
  | .room error => error.reason
  | .malformedAuthorization => "UNAUTHORIZED"
  | .invalidQuery _ => "INVALID_QUERY"

/-- The wording of a refusal, if it is worded here. -/
def message? : Refusal → Option String
  | .room error => some error.message
  | .malformedAuthorization => some "Authorization must be Bearer"
  | .invalidQuery detail => detail.map ("Invalid query: " ++ ·)

/-- The status that a refusal of a room has. -/
def roomStatus : RoomError → Nat
  | .roomNotFound | .userNotFound | .contentNotFound => 404
  | .unauthorized => 401
  | .invalidCommand _ | .invalidMessage _ => 400
  | .userNotInRoom | .controlNotPermitted => 403
  | .storeUnavailable _ => 503

/-- The status of a refusal. -/
def status : Refusal → Nat
  | .room error => roomStatus error
  | .malformedAuthorization => 401
  | .invalidQuery _ => 400

/-- What a refusal says. -/
def toJson (refusal : Refusal) : Json :=
  .object
    [("reason", .string refusal.reason), ("message", .ofOption .string refusal.message?)]

/-- The reply of a refusal. -/
def reply (refusal : Refusal) : Reply := { status := refusal.status, body := .json refusal.toJson }

/-- The refusal that an identity error leads to. -/
def ofIdentityError (error : IdentityError) : Refusal := .room (.ofIdentityError error)

end Refusal

end WatchParty.Http
