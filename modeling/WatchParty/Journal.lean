/-
# The journal

While it runs, the system writes down what happens. An entry has a level, the part of the system
that it comes from, and a text. Which entries are shown and how a line looks is decided later, by
`WatchParty.Journal.Line`.
-/

namespace WatchParty

/-- How serious an entry is. -/
inductive Level where
  | error
  | warn
  | info
  | debug
  | trace
deriving DecidableEq, Repr

/-- The part of the system that an entry comes from. -/
inductive Origin where
  /-- The program as a whole. -/
  | main
  /-- Requests and sockets. -/
  | server
  /-- Rooms, identities and the store. -/
  | collab
  /-- Clocks and presence. -/
  | core
  /-- Something outside the system, by name. -/
  | external (name : String)
deriving DecidableEq, Repr

/-- An entry of the journal. -/
structure JournalEntry where
  level : Level
  origin : Origin
  text : String
deriving DecidableEq, Repr

/-- What has been written down, oldest first. -/
abbrev Journal := List JournalEntry

end WatchParty
