/-
# Stores that fail on demand

A store can be given faults: calls of a chosen kind pass a number of times, then fail a number of
times with a chosen error, then pass again. A call that fails this way does not reach the rows. A
store without faults behaves as the rows alone do.
-/

import WatchParty.Store

namespace WatchParty

/-- The kinds of call on a store. -/
inductive StoreMethod where
  | userById
  | sessionByToken
  | contentById
  | createRoom
  | saveRoom
  | roomById
  | listRooms
  | deleteRoom
  | saveParticipant
  | participantsByRoom
  | deleteParticipant
  | createMessage
  | messagesByRoom
deriving DecidableEq, Repr

namespace StoreMethod

/-- The name of a kind of call. -/
def name : StoreMethod → String
  | .userById => "user_by_id"
  | .sessionByToken => "session_by_token"
  | .contentById => "content_by_id"
  | .createRoom => "create_room"
  | .saveRoom => "save_room"
  | .roomById => "room_by_id"
  | .listRooms => "list_rooms"
  | .deleteRoom => "delete_room"
  | .saveParticipant => "save_participant"
  | .participantsByRoom => "participants_by_room"
  | .deleteParticipant => "delete_participant"
  | .createMessage => "create_message"
  | .messagesByRoom => "messages_by_room"

/-- Every kind of call. -/
def all : List StoreMethod :=
  [.userById, .sessionByToken, .contentById, .createRoom, .saveRoom, .roomById, .listRooms,
    .deleteRoom, .saveParticipant, .participantsByRoom, .deleteParticipant, .createMessage,
    .messagesByRoom]

/-- The kind of call with a name. -/
def ofName? (name : String) : Option StoreMethod := all.find? (·.name = name)

end StoreMethod

/-- How an injected failure looks. -/
inductive FaultKind where
  /-- Trouble of the store itself. -/
  | internal
  /-- A conflict over the number that the call is about. -/
  | conflict
  /-- A missing row. -/
  | notFound (resource : Resource)
deriving DecidableEq, Repr

/-- The failure of a call about a number. -/
def FaultKind.error (kind : FaultKind) (id : Int) : StoreError :=
  match kind with
  | .internal => .internal "injected"
  | .conflict => .conflict .room (toString id)
  | .notFound resource => .notFound resource

/-- An order to let calls fail. -/
structure Fault where
  /-- The kind of call. -/
  method : StoreMethod
  /-- How the failure looks. -/
  kind : FaultKind
  /-- How many calls still pass before the first one fails. -/
  skip : Nat
  /-- How many calls are still to fail. -/
  times : Nat
  /-- Whether only calls about one number are meant. -/
  id : Option Int
deriving DecidableEq, Repr

namespace Fault

/-- Whether a fault is about a call. -/
def isAbout (fault : Fault) (method : StoreMethod) (id : Int) : Bool :=
  fault.method = method && fault.id.all (· = id)

/-- Try faults in order on a call. Those that still let calls pass count it; the first that has
failures left uses one up and ends the search. -/
def strike (method : StoreMethod) (id : Int) : List Fault → Option StoreError × List Fault
  | [] => (none, [])
  | fault :: rest =>
    if fault.isAbout method id then
      if fault.skip = 0 ∧ fault.times ≠ 0 then
        (some (fault.kind.error id), { fault with times := fault.times - 1 } :: rest)
      else
        let (failure, rest) := strike method id rest
        (failure, { fault with skip := fault.skip - 1 } :: rest)
    else
      let (failure, rest) := strike method id rest
      (failure, fault :: rest)

end Fault

/-- A store together with the faults it was given. -/
structure Database where
  store : Store
  /-- The faults, in the order in which they were given. -/
  faults : List Fault
deriving DecidableEq, Repr

namespace Database

/-- A database without rows and faults. -/
def empty : Database := { store := .empty, faults := [] }

/-- Make a call, unless a fault stops it. The number is the one that the call is about. -/
def call {α : Type} (database : Database) (method : StoreMethod) (id : Int)
    (body : StoreCall α) : Except StoreError α × Database :=
  let (failure, faults) := Fault.strike method id database.faults
  match failure with
  | some error => (.error error, { database with faults })
  | none =>
    let (answer, store) := body database.store
    (answer, { store, faults })

/-- Seed the rows directly, past the faults. -/
def seed {α : Type} (database : Database) (body : Store → α × Store) : α × Database :=
  let (answer, store) := body database.store
  (answer, { database with store })

/-- Make a call directly on the rows, past the faults. -/
def callStore {α : Type} (database : Database) (body : StoreCall α) :
    Except StoreError α × Database :=
  database.seed body

end Database

end WatchParty
