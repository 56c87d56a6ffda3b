/-
# Lines of the journal

How entries are shown: which ones, with which labels, and in which colours. Entries of the system
itself are shown from information up, or from debugging up on request; those of others only from
warnings up. Colours are escape sequences around a label. Where colours are on, the padding of a
label is inside them. A text may itself have line breaks; then its entry takes up several lines, of
which only the first has labels.
-/

import WatchParty.Journal
import WatchParty.Text.Blank

namespace WatchParty

/-- The origin of a dotted target path: only its first segment counts. -/
def Origin.ofTarget (target : String) : Origin :=
  match target.splitOn "::" with
  | "watchroom_core" :: _ => .core
  | "watchroom_server" :: _ => .server
  | "watchroom_collab" :: _ => .collab
  | "watchroom" :: _ => .main
  | name :: _ => .external name
  | [] => .external ""

/-- Whether an origin is part of the system. -/
def Origin.isLocal : Origin → Bool
  | .external _ => false
  | _ => true

/-- The look of a label: the codes of its escape sequence, in the order they are written. -/
structure Style where
  codes : List Nat
deriving DecidableEq, Repr

namespace Style

/-- No colour. -/
def plain : Style := ⟨[]⟩

/-- A text in a style. Without colours, or without codes, it is the text alone. -/
def paint (style : Style) (color : Bool) (text : String) : String :=
  if !color || style.codes.isEmpty then text
  else
    "\x1b[" ++ String.intercalate ";" (style.codes.map toString) ++ "m" ++ text ++ "\x1b[0m"

end Style

/-- The label of a level. -/
def Level.label : Level → String
  | .error => " ERR "
  | .warn => " WRN "
  | .info => " INF "
  | .debug => " DBG "
  | .trace => " TRC "

/-- The look of a level: bold black on a colour for what is shown by default. -/
def Level.style : Level → Style
  | .error => ⟨[1, 41, 30]⟩
  | .warn => ⟨[1, 43, 30]⟩
  | .info => ⟨[1, 44, 30]⟩
  | .debug => ⟨[40, 37]⟩
  | .trace => .plain

/-- The label of an origin. -/
def Origin.label : Origin → String
  | .main => "MAIN"
  | .server => "SERVER"
  | .collab => "COLLAB"
  | .core => "CORE"
  | .external name => name

/-- The look of an origin. -/
def Origin.style : Origin → Style
  | .main => ⟨[97]⟩
  | .server => ⟨[92]⟩
  | .collab => ⟨[95]⟩
  | .core => ⟨[34]⟩
  | .external _ => .plain

/-- A text in the middle of a field; an odd blank goes to the right. -/
def centered (width : Nat) (text : String) : String :=
  let missing := width - text.length
  let left := missing / 2
  String.ofList (List.replicate left ' ') ++ text ++
    String.ofList (List.replicate (missing - left) ' ')

namespace JournalEntry

/-- Whether an entry is shown. -/
def isShown (debug : Bool) (entry : JournalEntry) : Bool :=
  match entry.level with
  | .error | .warn => true
  | .info => entry.origin.isLocal
  | .debug => debug && entry.origin.isLocal
  | .trace => false

/-- The look of the time of day. -/
def timeStyle : Style := ⟨[90]⟩

/-- What is written for an entry: its level, the time of day, its origin and its text. -/
def written (color : Bool) (timeOfDay : String) (entry : JournalEntry) : String :=
  " ".intercalate
    [entry.level.style.paint color entry.level.label,
      timeStyle.paint color timeOfDay,
      entry.origin.style.paint color (centered 8 entry.origin.label),
      entry.text]

/-- A line without the carriage return at its end, if it has one. -/
def dropReturn (line : List Char) : List Char :=
  if line.getLast? = some '\r' then line.dropLast else line

/-- The lines of an entry, which end at line feeds, with or without a carriage return before. -/
def lines (color : Bool) (timeOfDay : String) (entry : JournalEntry) : List String :=
  (Text.split '\n' (entry.written color timeOfDay).toList).map (String.ofList <| dropReturn ·)

end JournalEntry

/-- The lines of the entries that are shown. -/
def Journal.lines (journal : Journal) (debug color : Bool) (timeOfDay : String) : List String :=
  (journal.filter (·.isShown debug)).flatMap (·.lines color timeOfDay)

end WatchParty
