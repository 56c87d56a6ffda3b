/-
# The opening of a socket

A socket begins as a request that asks for its line to be upgraded. The request has to use the
method GET and to say so in four headers. What it asks for in the headers is checked before the
line is; who asks, and whether the room exists, is not looked at here.
-/

import WatchParty.Http.Refusal
import WatchParty.Text.Blank

namespace WatchParty.Http.Request

/-- Whether a header has a value, whatever the case of its ASCII letters. -/
def headerIs (request : Request) (name value : String) : Bool :=
  (request.header? name).any (·.toLower = value)

/-- Whether a header contains a word, whatever the case of its ASCII letters. -/
def headerHas (request : Request) (name word : String) : Bool :=
  (request.header? name).any fun value => Text.occursIn word.toList value.toLower.toList

/-- Whether the headers of a request ask for a socket. -/
def asksForSocket (request : Request) : Bool :=
  request.headerHas "connection" "upgrade" && request.headerIs "upgrade" "websocket" &&
    request.headerIs "sec-websocket-version" "13" && (request.header? "sec-websocket-key").isSome

/-- The reply to a request that cannot open a socket. -/
def handshakeRefusal? (request : Request) : Option Reply :=
  if request.method ≠ "GET" then some (.bare 405)
  else if !request.asksForSocket then some (.bare 400)
  else if !request.canUpgrade then some (.bare 426)
  else none

end WatchParty.Http.Request
