/-
# Answering requests

What the service does with a request. The path decides what is asked for, and the method whether it
is asked in a way that is understood. Then the request is looked at part by part: who asks, which
room, and last the query or the body. The first part that is wrong decides the answer. Answering
changes nothing except by creating a room, or by opening a connection for a socket.
-/

import WatchParty.Http.Document
import WatchParty.Http.Handshake
import WatchParty.Http.MediaType
import WatchParty.Http.NewRoom
import WatchParty.Http.Query
import WatchParty.Http.Route
import WatchParty.Venue.Connections
import WatchParty.Wire

namespace WatchParty.Http

/-- What a request comes to. -/
inductive Answer where
  | reply (reply : Reply)
  /-- The line becomes a socket, which carries a connection and its subscription. -/
  | socket (handle : ConnectionHandle) (subscription : SubscriptionId)

/-- A part of answering, which may end it with a reply. -/
abbrev Handler := EStateM Reply Venue

namespace Handler

/-- Run an operation. If it is refused, so is the request. -/
def operate {α : Type} (operation : Operation α) : Handler α := fun venue =>
  match operation venue with
  | .ok answer venue => .ok answer venue
  | .error error venue => .error (Refusal.room error).reply venue

/-- The user who asks. -/
def requireUser (request : Request) : Handler User := do
  match ← operate request.user with
  | .ok user => return user
  | .error refusal => throw refusal.reply

/-- The room of a number in a path. -/
def requireRoom (number : List Char) : Handler RoomId :=
  match roomNumber? number with
  | some room => return room
  | none => throw (.bare 400)

/-- The reply that refuses a request in plain words. -/
def plainRefusal (text : String) : Reply := { status := 400, body := .text text }

/-- The listing that the query of a request asks for. -/
def requireQuery (request : Request) : Handler RoomQuery :=
  match ListQuery.ofForm? (Text.formFields request.query) with
  | none => throw (.bare 400)
  | some query =>
    match query.toRoomQuery with
    | .ok query => return query
    | .error refusal => throw refusal.reply

/-- Whether a request announces a JSON body. -/
def announcesJson (request : Request) : Bool :=
  (request.header? "content-type").any fun value =>
    value.toList.all isHeaderText && MediaType.announcesJson value

/-- The room that the body of a request asks for. -/
def requireRoomRequest (request : Request) : Handler RoomRequest :=
  if announcesJson request then
    match RoomRequest.ofBody? request.body with
    | none => throw (plainRefusal "JSON parse failed")
    | some room =>
      if room.isValid then return room else throw (plainRefusal "Request body is invalid")
  else throw (plainRefusal "JSON parse failed")

/-- A page of a listing, as it is sent. -/
def pageJson (page : RoomPage) : Json :=
  .object
    [("data", .ofList Snapshot.listing page.rooms),
      ("nextCursor", .ofOption (fun cursor => .string (encodeCursor cursor)) page.nextCursor),
      ("size", .ofNat page.rooms.length),
      ("totalElements", .ofNat page.total),
      ("hasNext", .bool page.hasNext)]

/-- Describe the user who asks. -/
def showUser (request : Request) : Handler Json := do
  return (← requireUser request).toJson

/-- List rooms. -/
def listRooms (request : Request) : Handler Json := do
  let _ ← requireUser request
  let query ← requireQuery request
  let venue ← get
  return pageJson (Listing.page venue.lobby venue.now query)

/-- Create a room for the user who asks. -/
def createRoom (request : Request) : Handler Json := do
  let user ← requireUser request
  let room ← requireRoomRequest request
  return (← operate (Venue.createRoom user.id room.content room.title)).listing

/-- Describe a room. -/
def showRoom (request : Request) (number : List Char) : Handler Json := do
  let _ ← requireUser request
  let room ← requireRoom number
  return (← operate (Venue.snapshot room)).listing

/-- The chat history of a room. -/
def listMessages (request : Request) (number : List Char) : Handler Json := do
  let user ← requireUser request
  let room ← requireRoom number
  return .ofList Message.toJson (← operate (Venue.messages room user.id))

/-- Note in the journal that a socket was refused, and refuse it. -/
def refuseSocket {α : Type} (room : RoomId) (refusal : Refusal) : Handler α := do
  let reason := refusal.message?.getD refusal.reason
  operate (Operation.note .warn s!"Rejected gateway handshake for room {room}: {reason}" .server)
  throw refusal.reply

/-- Open a connection for a socket. The session is looked up first, but what comes of it counts
only after the path and the headers have been checked. -/
def openSocket (request : Request) (number : List Char) :
    Handler (ConnectionHandle × SubscriptionId) := do
  let user ← operate request.user
  let room ← requireRoom number
  if let some reply := request.handshakeRefusal? then
    throw reply
  match user with
  | .error refusal => refuseSocket room refusal
  | .ok user =>
    match ← operate (Operation.outcome (Venue.connect room user)) with
    | .ok opened => return opened
    | .error error => refuseSocket room (.room error)

/-- Answer a request for what a path names. -/
def answer (request : Request) (route : Route) : Handler Answer := do
  match route with
  | .user => return .reply (.ok (← showUser request))
  | .rooms =>
    if request.method = "POST" then return .reply (.ok (← createRoom request))
    else return .reply (.ok (← listRooms request))
  | .room number => return .reply (.ok (← showRoom request number))
  | .messages number => return .reply (.ok (← listMessages request number))
  | .gateway number =>
    let (handle, subscription) ← openSocket request number
    return .socket handle subscription
  | .document => return .reply (.ok Document.ofService.toJson)

end Handler

/-- Whether a method is understood for what a path names. -/
def Route.takes (route : Route) (method : String) : Bool :=
  method = "GET" || method = "HEAD" || (route = .rooms && method = "POST")

/-- The reply that a client receives: one to HEAD has no body. -/
def Request.shown (request : Request) (reply : Reply) : Reply :=
  if request.method = "HEAD" then { reply with body := .none } else reply

/-- Answer a request. -/
def answer (request : Request) (venue : Venue) : Answer × Venue :=
  match Route.ofPath? request.path with
  | none => (.reply (.bare 404), venue)
  | some route =>
    if route.takes request.method then
      match Handler.answer request route venue with
      | .ok (.reply reply) venue => (.reply (request.shown reply), venue)
      | .ok opened venue => (opened, venue)
      | .error reply venue => (.reply (request.shown reply), venue)
    else (.reply (.bare 405), venue)

end WatchParty.Http
