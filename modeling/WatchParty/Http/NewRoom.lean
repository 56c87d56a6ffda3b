/-
# The body of a request for a new room

A new room is asked for with the number of its content and perhaps a title, either as an object
with exactly these fields or as a list of both. The number has to be written as an integer, and the
body may not be larger than the service takes. That the title has a usable length is checked only
afterwards.
-/

import WatchParty.Json.Reader

namespace WatchParty.Http

/-- A room as it is asked for. -/
structure RoomRequest where
  content : Int
  title : Option String
deriving DecidableEq, Repr

namespace RoomRequest

/-- A number of 32 bits that is written as an integer. -/
def identifier? : Json → Option Int
  | .integer value => if -Int.pow 2 31 ≤ value ∧ value < Int.pow 2 31 then some value else none
  | _ => none

/-- A title, or none where null stands for it. -/
def title? : Json → Option (Option String)
  | .string text => some (some text)
  | .null => some none
  | _ => none

/-- The request of a JSON value. -/
def ofJson? : Json → Option RoomRequest
  | .object fields => do
    if fields.any fun field => field.1 ≠ "contentId" ∧ field.1 ≠ "title" then none
    let content ← identifier? (← (← Json.fieldAtMostOnce? "contentId" fields))
    let title ← title? ((← Json.fieldAtMostOnce? "title" fields).getD .null)
    return { content, title }
  | .array [content, title] => do
    return { content := ← identifier? content, title := ← title? title }
  | _ => none

/-- The greatest length of a title, in characters. -/
def maxTitleLength : Nat := 128

/-- Whether the title, if there is one, has a usable length. -/
def isValid (request : RoomRequest) : Bool :=
  request.title.all fun title => 1 ≤ title.length && title.length ≤ maxTitleLength

/-- The request of a text that is one JSON value. -/
def read? (text : String) : Option RoomRequest := (Json.read? text).bind ofJson?

/-- The greatest size of a body that is read, in bytes. -/
def maxBodySize : Nat := 2 * 1024 * 1024

/-- The request of the JSON value that a body begins with. What follows the value does not count,
except that a body which is too large is not read at all. -/
def ofBody? (body : String) : Option RoomRequest :=
  if body.utf8ByteSize ≤ maxBodySize then
    (Json.readFirst? body).bind fun read => ofJson? read.1
  else none

end RoomRequest

end WatchParty.Http
