/-
# The server

A server is a venue with the sockets that are open to it. A socket carries one connection and its
subscription. What has come up for a socket, room events as well as direct answers, waits until it
is delivered. A socket whose topic has ended is closed once everything is delivered, and its
connection with it.

Between two deliveries nothing is lost except what the subscription gives up, which the client is
told about.
-/

import WatchParty.Gateway
import WatchParty.Http.Answer
import WatchParty.Venue.Restore

namespace WatchParty

/-- A socket is known by a number. -/
abbrev SocketId := Int

/-- A socket and what waits for it apart from the events of its subscription. -/
structure Socket where
  handle : ConnectionHandle
  subscription : SubscriptionId
  /-- Direct answers, oldest first. -/
  answers : List ServerMessage
deriving DecidableEq, Repr

/-- A venue with the sockets that are open to it. -/
structure Server where
  venue : Venue
  sockets : IdMap Socket
  /-- The number of the next socket. -/
  nextSocket : SocketId
deriving DecidableEq, Repr

/-- What is delivered to a socket. -/
structure Traffic where
  /-- Room events and what was missed of them, in order. -/
  events : List ServerMessage
  /-- Direct answers, in order. -/
  answers : List ServerMessage
  /-- Whether the socket is closed now. -/
  closed : Bool
deriving DecidableEq, Repr

/-- Whether there is nothing to deliver. -/
def Traffic.isEmpty (traffic : Traffic) : Bool :=
  traffic.events.isEmpty && traffic.answers.isEmpty && !traffic.closed

/-- A delivery as the client hears of it. -/
def Delivery.toMessage : Delivery RoomEvent → ServerMessage
  | .event news => .event news
  | .lagged missed => .resync missed

namespace Server

/-- A server without sockets. -/
def opening (venue : Venue) : Server := { venue, sockets := ∅, nextSocket := 0 }

/-- Run an operation at the server's venue. -/
def run {α : Type} (operation : Operation α) (server : Server) : Except RoomError α × Server :=
  let (answer, venue) := server.venue.run operation
  (answer, { server with venue })

/-- Answer a request. One that is accepted as the opening of a socket gets the socket's number. -/
def answer (request : Http.Request) (server : Server) : Except Http.Reply SocketId × Server :=
  match Http.answer request server.venue with
  | (.reply reply, venue) => (.error reply, { server with venue })
  | (.socket handle subscription, venue) =>
    (.ok server.nextSocket,
      { venue
        sockets := server.sockets.insert server.nextSocket
          { handle, subscription, answers := [] }
        nextSocket := server.nextSocket + 1 })

/-- Let a socket's connection go. -/
def disconnect (socket : Socket) : Operation Unit := do
  Venue.unsubscribe socket.subscription
  socket.handle.close

/-- Deal with a text that the client at a socket has sent. -/
def receiveText (id : SocketId) (text : String) (server : Server) : Server :=
  match server.sockets.get? id with
  | none => server
  | some socket =>
    match server.venue.run (socket.handle.handleText text) with
    | (.ok (some message), venue) =>
      { server with
        venue
        sockets := server.sockets.insert id { socket with answers := socket.answers ++ [message] } }
    | (_, venue) => { server with venue }

/-- Close a socket at the wish of its client, who is told so. What waited for it is dropped. -/
def hangUp (id : SocketId) (server : Server) : Server :=
  match server.sockets.get? id with
  | none => server
  | some socket =>
    { server with
      venue := server.venue.after (disconnect socket)
      sockets := server.sockets.insert id { socket with answers := [] } }

/-- Lose the client of a socket, to whom nothing can be told any more. -/
def vanish (id : SocketId) (server : Server) : Server :=
  match server.sockets.get? id with
  | none => server
  | some socket =>
    { server with
      venue := server.venue.after (disconnect socket)
      sockets := server.sockets.erase id }

/-- Deliver what waits for a socket, and close it if nothing can follow. A socket that its client
has closed has no subscription any more. -/
def deliver (id : SocketId) (socket : Socket) (server : Server) : Traffic × Server :=
  let (receipt, server) := server.run (Venue.receive socket.subscription none)
  match receipt with
  | .ok (some receipt) =>
    let closed := receipt.ended.getD false
    let traffic : Traffic :=
      { events := receipt.deliveries.map (·.toMessage), answers := socket.answers, closed }
    if closed then (traffic, server.vanish id)
    else
      (traffic, { server with sockets := server.sockets.insert id { socket with answers := [] } })
  | _ =>
    ({ events := [], answers := socket.answers, closed := true },
      { server with sockets := server.sockets.erase id })

/-- Deliver what waits for some sockets, one after the other. -/
def deliverAll : List (SocketId × Socket) → Server → List (SocketId × Traffic) × Server
  | [], server => ([], server)
  | (id, socket) :: rest, server =>
    let (traffic, server) := server.deliver id socket
    let (others, server) := deliverAll rest server
    (if traffic.isEmpty then others else (id, traffic) :: others, server)

/-- Deliver what waits for the sockets, by number, leaving out those for which nothing waits. -/
def flush (server : Server) : List (SocketId × Traffic) × Server :=
  deliverAll server.sockets.entries server

/-- Start over with new rules on the same database. The sockets are gone. -/
def restart (rules : Rules) (server : Server) : Except RoomError Nat × Server :=
  run (do Venue.reopen rules; Venue.restore) { server with sockets := ∅ }

end Server

end WatchParty
