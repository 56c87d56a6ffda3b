/-
# The document of the interface

Clients can ask which requests the service answers and what the answers are made of. The document
lists every documented request with its parameters and statuses, every kind of object with its
fields, and how requests are authorized. It is the same at all times. Lists within it are in
alphabetical order.
-/

import WatchParty.Json

namespace WatchParty.Http

/-- Where a parameter of a request is written. -/
inductive ParameterPlace where
  | path
  | query
deriving DecidableEq, Repr

/-- The name of a place in the document. -/
def ParameterPlace.name : ParameterPlace → String
  | .path => "path"
  | .query => "query"

/-- A parameter of a request. -/
structure Parameter where
  place : ParameterPlace
  name : String
  required : Bool
deriving DecidableEq, Repr

/-- A parameter as it stands in the document. -/
def Parameter.text (parameter : Parameter) : String :=
  let required := if parameter.required then "true" else "false"
  s!"{parameter.place.name} {parameter.name} {required}"

/-- A request that the document describes. All of them take a session. -/
structure DocumentedRequest where
  /-- The method in lower case and the path, with a variable part between braces. -/
  name : String
  /-- The group to which the request belongs. -/
  tag : String
  parameters : List Parameter
  /-- The statuses of the answers that are described. -/
  statuses : List String
deriving DecidableEq, Repr

/-- A field of a kind of object. -/
structure DocumentedField where
  name : String
  required : Bool
deriving DecidableEq, Repr

/-- A kind of object that the document describes, or a list of names to choose from. -/
inductive DocumentedType where
  | fields (listed : List DocumentedField)
  | choice (names : List String)
deriving DecidableEq, Repr

/-- What clients are told about the interface. -/
structure Document where
  requests : List DocumentedRequest
  /-- The kinds of object, with their names. -/
  types : List (String × DocumentedType)
deriving DecidableEq, Repr

namespace Document

/-- The number of a room in a path. -/
def roomNumber : Parameter := { place := .path, name := "id", required := true }

/-- A parameter of a query, which may always be missing. -/
def inQuery (name : String) : Parameter := { place := .query, name, required := false }

/-- The fields that an object always has. -/
def always (names : List String) : List DocumentedField :=
  names.map fun name => { name, required := true }

/-- The fields that an object may lack. -/
def sometimes (names : List String) : List DocumentedField :=
  names.map fun name => { name, required := false }

/-- The requests of this service. -/
def ownRequests : List DocumentedRequest :=
  [{ name := "get /v1/user", tag := "auth", parameters := [], statuses := ["200", "401"] },
    { name := "get /v1/rooms", tag := "rooms"
      parameters := [inQuery "cursor", inQuery "q", inQuery "size", inQuery "sort"]
      statuses := ["200", "400"] },
    { name := "post /v1/rooms", tag := "rooms", parameters := [], statuses := ["200", "404"] },
    { name := "get /v1/rooms/\x7bid\x7d", tag := "rooms", parameters := [roomNumber]
      statuses := ["200", "404"] },
    { name := "get /v1/rooms/\x7bid\x7d/messages", tag := "rooms", parameters := [roomNumber]
      statuses := ["200", "403"] },
    { name := "get /v1/rooms/\x7bid\x7d/gateway", tag := "gateway"
      parameters := [roomNumber, inQuery "token"], statuses := ["101", "401", "404"] }]

/-- The kinds of object that this service sends and takes. -/
def ownTypes : List (String × DocumentedType) :=
  [("User", .fields (always ["displayName", "id", "username"])),
    ("Content", .fields (sometimes ["duration"] ++ always ["id", "title"])),
    ("Room", .fields (always
      ["content", "createdAt", "id", "ownerId", "participants", "playback", "title"])),
    ("RoomListing", .fields (always ["contentTitle", "headCount", "room"])),
    ("RoomListingPage", .fields
      (always ["data", "hasNext"] ++ sometimes ["nextCursor"] ++ always ["size", "totalElements"])),
    ("RoomMember", .fields (always ["joinedAt", "owner", "user"])),
    ("Playback", .fields (always ["action", "currentPosition", "isPlaying", "serverTimestamp"])),
    ("RoomMessage", .fields (always
      ["content", "createdAt", "id", "roomId", "senderId", "senderName"])),
    ("Rejection", .fields (always ["message", "reason"])),
    ("NewRoomSchema", .fields (always ["contentId"] ++ sometimes ["title"])),
    ("RoomSortSchema", .choice ["createdAt", "headCount"])]

/-- The document of this service. -/
def ofService : Document := { requests := ownRequests, types := ownTypes }

end Document

/-- The name by which the document refers to the authorization by a session token. -/
def authorizationName : String := "BearerAuth"

/-- A request as it stands in the document. -/
def DocumentedRequest.toJson (request : DocumentedRequest) : Json :=
  .object
    [("tags", .strings [request.tag]),
      ("parameters", .strings (request.parameters.map (·.text))),
      ("responses", .strings request.statuses),
      ("security", .array [.object [(authorizationName, .array [])]])]

/-- A kind of object as it stands in the document. -/
def DocumentedType.toJson : DocumentedType → Json
  | .fields listed =>
    .object
      [("properties", .strings (listed.map (·.name))),
        ("required", .strings ((listed.filter (·.required)).map (·.name))),
        ("enum", .null)]
  | .choice names =>
    .object
      [("properties", .array []), ("required", .array []), ("enum", .strings names)]

/-- The document as it is sent. -/
def Document.toJson (document : Document) : Json :=
  .object
    [("paths", .object (document.requests.map fun request => (request.name, request.toJson))),
      ("schemas", .object (document.types.map fun type => (type.1, type.2.toJson))),
      ("securitySchemes",
        .object
          [(authorizationName,
            .object
              [("type", .string "http"),
                ("scheme", .string "bearer"),
                ("bearerFormat", .string "Bearer <token>")])])]

end WatchParty.Http
