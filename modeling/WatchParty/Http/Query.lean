/-
# Queries of room listings

How a listing is asked for in the query string of an address, and how cursors are written there. A
cursor is three numbers between dots: members, creation time in milliseconds, number of the room.
Writing one rounds the creation time down to a whole millisecond, so that reading it gives back the
cursor only if it was one already.
-/

import WatchParty.Http.Session
import WatchParty.Text.Integer
import WatchParty.Venue.Listing

namespace WatchParty.Http

/-- The first millisecond that a cursor can name. -/
def firstMillisecond : Int := -8334601228800000

/-- The last millisecond that a cursor can name. -/
def lastMillisecond : Int := 8210266876799999

/-- The largest number of 64 bits. -/
def maxCount : Nat := Nat.pow 2 64 - 1

/-- The text of a cursor. -/
def encodeCursor (cursor : Cursor) : String :=
  s!"{cursor.headCount}.{Instant.milliseconds cursor.createdAt}.{cursor.id}"

/-- A millisecond within the range of cursors. -/
def readMillisecond? (chars : List Char) : Option Int :=
  (Text.readInt64? chars).filter fun count => firstMillisecond ≤ count && count ≤ lastMillisecond

/-- The cursor of a text. -/
def decodeCursor? (text : String) : Option Cursor :=
  match Text.split '.' text.toList with
  | [headCount, created, id] => do
    let headCount ← Text.readNat? maxCount headCount
    let created ← readMillisecond? created
    let id ← Text.readInt32? id
    return { headCount, createdAt := Instant.ofMilliseconds created, id }
  | _ => none

/-- The order of a name. -/
def sortOfName? (name : String) : Option RoomSort :=
  if name = "createdAt" then some .createdAt
  else if name = "headCount" then some .headCount
  else none

/-- A listing as it is asked for. -/
structure ListQuery where
  /-- The text to search for. -/
  search : Option String := none
  sort : Option RoomSort := none
  /-- The greatest number of rooms on a page. -/
  size : Option Nat := none
  /-- The cursor of the page before. -/
  cursor : Option String := none
deriving DecidableEq, Repr

/-- How many rooms a page has if the client does not say. -/
def defaultPageSize : Nat := 20

/-- The greatest number of rooms on a page. -/
def maxPageSize : Nat := 100

namespace ListQuery

/-- What is asked of the lobby. The size is looked at before the cursor; an empty cursor is none. -/
def toRoomQuery (query : ListQuery) : Except Refusal RoomQuery :=
  let size := query.size.getD defaultPageSize
  if size < 1 ∨ maxPageSize < size then .error (.invalidQuery none)
  else
    let result (cursor : Option Cursor) : RoomQuery :=
      { search := query.search, sort := query.sort.getD .createdAt, limit := some size, cursor }
    match query.cursor.filter (!·.isEmpty) with
    | none => .ok (result none)
    | some text =>
      match decodeCursor? text with
      | some cursor => .ok (result (some cursor))
      | none => .error (.invalidQuery (some "Malformed cursor"))

end ListQuery

/-- A form value read by a rule that may refuse it. -/
def readValue? {α : Type} (read : String → Option α) (value : Option String) : Option (Option α) :=
  match value with
  | none => some none
  | some text => (read text).map some

/-- The listing that a query string asks for, unless a field is repeated or cannot be read. -/
def ListQuery.ofForm? (fields : List (String × String)) : Option ListQuery := do
  let search ← formValue? "q" fields
  let sort ← readValue? sortOfName? (← formValue? "sort" fields)
  let size ← readValue? (Text.readNat? maxCount ·.toList) (← formValue? "size" fields)
  let cursor ← formValue? "cursor" fields
  return { search, sort, size, cursor }

end WatchParty.Http
