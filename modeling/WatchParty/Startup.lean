/-
# Starting the program

The program is set up by variables of its environment, each of which may be missing. A variable
that is there has to be readable; blanks around its value do not matter. Then the database is opened
and its rooms are restored. Without a database of its own the program keeps everything in memory,
and puts a user, a session and some contents there, so that it can be tried out.

A database outside the program is not reached from here: naming one ends the start.
-/

import WatchParty.Server
import WatchParty.Text.Integer

namespace WatchParty

/-- The variables that are set, with their values. -/
abbrev Environment := List (String × String)

/-- The value of a variable, if it is set. -/
def Environment.value? (environment : Environment) (name : String) : Option String :=
  (environment.find? (·.1 = name)).map (·.2)

/-- Why the program cannot start, or stops. -/
inductive StartupError where
  /-- The database could not be opened. -/
  | database (error : StoreError)
  /-- The rooms could not be restored. -/
  | restore (error : RoomError)
  /-- A variable has a value that cannot be read. -/
  | setting (name value : String)
  /-- The server could not listen any more. -/
  | server (text : String)
  /-- Something that should never happen. -/
  | fatal (text : String)
deriving DecidableEq, Repr

namespace StartupError

/-- The wording of a startup error. -/
def message : StartupError → String
  | .database error => "Could not initialize database: " ++ error.message
  | .restore error => "Could not restore rooms: " ++ error.message
  | .setting name value => s!"Invalid value for {name}: {value}"
  | .server text => "Server stopped: " ++ text
  | .fatal text => "Fatal error: " ++ text

/-- What an operator can do about a startup error. -/
def hint : StartupError → String
  | .database _ =>
    "This is a database error. Make sure WATCHROOM_DATABASE_URL points to a running Postgres " ++
      "instance, then try again."
  | .restore _ =>
    "Rooms could not be loaded from the database. Make sure the users and contents tables are " ++
      "intact."
  | .setting name _ => s!"Check the value of {name} in your environment or .env file."
  | .server _ =>
    "The server could not listen. Make sure the port is free, or set WATCHROOM_SERVER_PORT."
  | .fatal _ => "This error is fatal, and should not happen."

end StartupError

/-- What the environment decides. -/
structure Settings where
  /-- The number that the service listens on. -/
  listenOn : Nat
  rules : Rules
deriving DecidableEq, Repr

namespace Settings

/-- The number to listen on if the environment does not name one. -/
def defaultListenOn : Nat := 9050

/-- A truth value, spelled out. -/
def readBool? (chars : List Char) : Option Bool :=
  if chars = "true".toList then some true
  else if chars = "false".toList then some false
  else none

/-- The value of a variable, or a default if it is not set. -/
def read {α : Type} (environment : Environment) (name : String) (default : α)
    (parse : List Char → Option α) : Except StartupError α :=
  match environment.value? name with
  | none => .ok default
  | some value =>
    match parse (Text.trimChars value.toList) with
    | some read => .ok read
    | none => .error (.setting name value)

/-- The settings of an environment. The first variable that cannot be read is the one reported. -/
def ofEnvironment (environment : Environment) : Except StartupError Settings := do
  let rules : Rules := {}
  let listenOn ←
    read environment "WATCHROOM_SERVER_PORT" defaultListenOn (Text.readNat? (Nat.pow 2 16 - 1))
  let ownerOnlyControl ←
    read environment "WATCHROOM_OWNER_ONLY_CONTROL" rules.ownerOnlyControl readBool?
  let broadcastCapacity ←
    read environment "WATCHROOM_BROADCAST_CAPACITY" rules.broadcastCapacity
      (Text.readNat? (Nat.pow 2 64 - 1))
  return { listenOn, rules := { rules with ownerOnlyControl, broadcastCapacity } }

end Settings

namespace Startup

/-- How long the session of the trial user lasts: thirty days, in microseconds. -/
def trialTime : Int := 30 * 24 * 60 * 60 * 1000000

/-- The rows with which the program can be tried out: a user with a session, and two contents. -/
def trialStore (token : String) (now : Instant) : Except StoreError Store :=
  let (user, store) := Store.empty.addUser "demo" "Demo"
  let (_, store) := store.addContent "Big Buck Bunny" (some (.ofInt 596))
  let (_, store) := store.addContent "Sintel" (some (.ofInt 888))
  let (session, store) := store.addSession user.id token (now + trialTime)
  session.map fun _ => store

/-- The database that an environment asks for. -/
def database (environment : Environment) (token : String) (now : Instant) :
    Except StartupError Database :=
  match environment.value? "WATCHROOM_DATABASE_URL" with
  | some _ => .error (.database (.internal "Only the database in memory is available"))
  | none =>
    match trialStore token now with
    | .ok store => .ok { store, faults := [] }
    | .error error => .error (.database error)

/-- What the journal says about the settings before the rooms are restored. -/
def noteSettings (settings : Settings) (token : String) : Operation Unit := do
  Operation.note .warn "WATCHROOM_DATABASE_URL is not set, rooms will only be kept in memory" .main
  Operation.note .info s!"Demo session token: {token}" .main
  if settings.rules.ownerOnlyControl then
    Operation.note .info "Only room owners may control playback" .main

/-- Start the program: its settings, and the server with the rooms restored. The token is that of
the trial session. -/
def start (environment : Environment) (token : String) (now : Instant) :
    Except StartupError (Settings × Server) := do
  let settings ← Settings.ofEnvironment environment
  let database ← database environment token now
  let server := Server.opening (.opening settings.rules now database)
  let (restored, server) := server.run (do noteSettings settings token; Venue.restore)
  match restored with
  | .ok _ => return (settings, server)
  | .error error => throw (.restore error)

end Startup

end WatchParty
