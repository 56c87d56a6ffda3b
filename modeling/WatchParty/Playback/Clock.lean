/-
# The playback clock

A clock knows where a video is without ticking: it keeps a position at a reference instant and
whether time is flowing, so that the position at any later instant can be computed. Positions are
limited to the range from zero to the duration, if the duration is known. The reference never
moves back, however the server's time is set: an instant before the reference counts as the
reference itself.

A clock can be saved and rebuilt. Rebuilding limits the stored position again, so it makes no use
of what saved clocks are known to satisfy.
-/

import WatchParty.Instant
import WatchParty.Playback.Command

namespace WatchParty

/-- The state needed to know where a video is at any instant. -/
structure Clock where
  /-- Whether the video is running. -/
  isPlaying : Bool
  /-- The position in seconds at the reference. -/
  position : Binary64
  /-- The instant for which the position is kept. -/
  reference : Instant
  /-- The last action that had an effect. -/
  lastAction : PlaybackAction
  /-- The length of the content in seconds, if it bounds the positions. -/
  duration : Option Binary64
deriving DecidableEq, Repr

/-- A clock as it is announced: what happened, and where the video is at an instant. -/
structure PlaybackReport where
  /-- The action that the report is about. -/
  action : PlaybackAction
  /-- Whether the video is running. -/
  isPlaying : Bool
  /-- The position in seconds at the instant of the report. -/
  position : Binary64
  /-- The instant of the report. -/
  instant : Instant
deriving DecidableEq, Repr

/-- A clock as it is stored. The duration belongs to the content and is not part of it. -/
structure SavedClock where
  /-- Whether the video is running. -/
  isPlaying : Bool
  /-- The position in seconds at the last update. -/
  position : Binary64
  /-- The instant of the last update. -/
  updatedAt : Instant
  /-- The last action that had an effect. -/
  lastAction : PlaybackAction
deriving DecidableEq, Repr

namespace Clock

/-- A position limited to the range of the content. -/
def limit (duration : Option Binary64) (position : Binary64) : Binary64 :=
  match duration with
  | none => position.max .zero
  | some length => (position.max .zero).min length

/-- A paused clock at the start of the content. -/
def start (now : Instant) : Clock :=
  { isPlaying := false, position := .zero, reference := now, lastAction := .pause
    duration := none }

/-- A clock without a known duration, from stored fields. -/
def restore (isPlaying : Bool) (position : Binary64) (reference : Instant)
    (lastAction : PlaybackAction) : Clock :=
  { isPlaying, position := limit none position, reference, lastAction, duration := none }

/-- A duration that can bound positions: a positive, finite one. -/
def usableDuration (duration : Option Binary64) : Option Binary64 :=
  duration.filter fun length => length.isFinite && decide (Binary64.zero < length)

/-- The clock bounded by a duration. One that is not usable leaves the clock unbounded. -/
def withDuration (clock : Clock) (duration : Option Binary64) : Clock :=
  let usable := usableDuration duration
  { clock with duration := usable, position := limit usable clock.position }

/-- The position in seconds at an instant. Before the reference it is the position kept. -/
def positionAt (clock : Clock) (now : Instant) : Binary64 :=
  if clock.isPlaying then
    let elapsed := (Instant.secondsBetween clock.reference now).max .zero
    limit clock.duration (clock.position + elapsed)
  else clock.position

/-- An instant, moved up to the reference if it lies before it. -/
def noEarlier (clock : Clock) (now : Instant) : Instant := max now clock.reference

/-- Start or stop the flow of time at an instant, keeping the position that is then reached. -/
def switch (clock : Clock) (playing : Bool) (action : PlaybackAction) (now : Instant) : Clock :=
  { clock with
    isPlaying := playing
    position := clock.positionAt now
    reference := now
    lastAction := action }

/-- The clock after a command. Playing a playing clock and pausing a paused one change nothing. -/
def apply (clock : Clock) (command : Command) (now : Instant) : Clock :=
  let now := clock.noEarlier now
  match command with
  | .play => if clock.isPlaying then clock else clock.switch true .play now
  | .pause => if clock.isPlaying then clock.switch false .pause now else clock
  | .seek position =>
    { clock with position := limit clock.duration position, reference := now, lastAction := .seek }

/-- The clock as it is announced at an instant, together with an action. -/
def report (clock : Clock) (action : PlaybackAction) (now : Instant) : PlaybackReport :=
  let now := clock.noEarlier now
  { action, isPlaying := clock.isPlaying, position := clock.positionAt now, instant := now }

/-- The clock as it is stored. -/
def save (clock : Clock) : SavedClock :=
  { isPlaying := clock.isPlaying
    position := clock.position
    updatedAt := clock.reference
    lastAction := clock.lastAction }

end Clock

/-- The clock of stored fields and the content's duration. -/
def SavedClock.toClock (saved : SavedClock) (duration : Option Binary64) : Clock :=
  (Clock.restore saved.isPlaying saved.position saved.updatedAt saved.lastAction).withDuration
    duration

end WatchParty
