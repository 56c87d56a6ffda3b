/-
# The program

The program reads its environment, starts, and shows its journal. If it cannot start, the journal
ends with the reason and a hint.
-/

import Std.Time.DateTime.Timestamp
import WatchParty.Journal.Line
import WatchParty.Startup

namespace WatchParty

/-- The variables that the program looks at. -/
def variableNames : List String :=
  ["WATCHROOM_SERVER_PORT", "WATCHROOM_OWNER_ONLY_CONTROL", "WATCHROOM_BROADCAST_CAPACITY",
    "WATCHROOM_DATABASE_URL", "WATCHROOM_DEBUG"]

/-- The environment of the program. -/
def readEnvironment : IO Environment :=
  variableNames.filterMapM fun name => do
    return (← IO.getEnv name).map ((name, ·))

/-- The system's time. -/
def readTime : IO Instant := do
  let time ← Std.Time.Timestamp.now
  return time.toNanosecondsSinceUnixEpoch.val.fdiv 1000

/-- The time of day of an instant. -/
def timeOfDay (now : Instant) : String := String.ofList (((Instant.text now).toList.drop 11).take 8)

/-- The characters of session tokens. -/
def tokenChars : List Char :=
  "ABCDEFGHIJKLMNOPQRSTUVWXYZabcdefghijklmnopqrstuvwxyz0123456789".toList

/-- A token that nobody can guess. -/
def drawToken (length : Nat) : IO String := do
  let chars ← (List.range length).mapM fun _ => do
    return tokenChars.getD (← IO.rand 0 (tokenChars.length - 1)) 'A'
  return String.ofList chars

/-- What the journal says when the program cannot start. -/
def failureEntries (error : StartupError) : Journal :=
  let entry (text : String) : JournalEntry := { level := .error, origin := .main, text }
  [entry
      ("Watchroom failed to start! Read the error below to troubleshoot the issue. If you think " ++
        "this might be a bug, please report it by making a GitHub issue."),
    entry error.message,
    entry ("Hint: " ++ error.hint)]

/-- The journal of a start. -/
def startJournal (environment : Environment) (token : String) (now : Instant) : Journal :=
  match Startup.start environment token now with
  | .ok (_, server) =>
    server.venue.journal ++
      [{ level := .info, origin := .main, text := "Initialized successfully." }]
  | .error error => failureEntries error

end WatchParty

open WatchParty

/-- Start, and show how it went. -/
def main : IO Unit := do
  let environment ← readEnvironment
  let now ← readTime
  let journal := startJournal environment (← drawToken 32) now
  let debug := (environment.value? "WATCHROOM_DEBUG").isSome
  for line in journal.lines debug false (timeOfDay now) do
    IO.println line
