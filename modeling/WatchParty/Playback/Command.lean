/-
# Playback commands

What a participant can do to the video of a room: play, pause, or seek to a position. A command is
read from the name of an action and an optional position. The position counts only for seeking,
where it must be a finite number; negative ones are accepted and limited when they are applied.
-/

import WatchParty.Binary64
import WatchParty.Text.Blank

namespace WatchParty

/-- The kinds of playback command. -/
inductive PlaybackAction where
  | play
  | pause
  | seek
deriving DecidableEq, Repr

/-- The name of an action in messages. -/
def PlaybackAction.name : PlaybackAction → String
  | .play => "PLAY"
  | .pause => "PAUSE"
  | .seek => "SEEK"

/-- The action with exactly the given name. -/
def PlaybackAction.ofName? (name : String) : Option PlaybackAction :=
  if name = "PLAY" then some .play
  else if name = "PAUSE" then some .pause
  else if name = "SEEK" then some .seek
  else none

/-- A command that can be applied to a clock. -/
inductive Command where
  | play
  | pause
  /-- Move to a position in seconds. -/
  | seek (position : Binary64)
deriving DecidableEq, Repr

/-- Why no command could be made. -/
inductive CommandError where
  /-- No action has the given name, quoted as it was sent. -/
  | unknownAction (name : String)
  /-- A seek came without a position. -/
  | missingPosition
  /-- The position of a seek is infinite or not a number. -/
  | invalidPosition
deriving DecidableEq, Repr

/-- The wording of a command error. -/
def CommandError.message : CommandError → String
  | .unknownAction name => "Unrecognized playback action \"" ++ name ++ "\""
  | .missingPosition => "Seeking requires a position"
  | .invalidPosition => "Position must be a finite number of seconds"

namespace Command

/-- The kind of a command. -/
def action : Command → PlaybackAction
  | .play => .play
  | .pause => .pause
  | .seek _ => .seek

/-- The command of an action and the position that came with it. -/
def ofAction (action : PlaybackAction) (position : Option Binary64) : Except CommandError Command :=
  match action with
  | .play => .ok .play
  | .pause => .ok .pause
  | .seek =>
    match position with
    | none => .error .missingPosition
    | some target => if target.isFinite then .ok (.seek target) else .error .invalidPosition

/-- The command of an action's name and the position that came with it. Blanks around the name and
the case of ASCII letters do not matter. The name is looked at before the position. -/
def parse (name : String) (position : Option Binary64) : Except CommandError Command :=
  match PlaybackAction.ofName? (String.ofList ((Text.trimChars name.toList).map Char.toUpper)) with
  | none => .error (.unknownAction name)
  | some action => ofAction action position

end Command

end WatchParty
