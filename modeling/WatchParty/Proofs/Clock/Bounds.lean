/-
# The range of positions

A clock starts at the beginning of the content, or is restored from stored fields of whatever kind:
a position below zero, one that is infinite, or none at all. Then it is given durations and
commands. Every clock that comes about so has a duration that is positive and finite, or none, and
is at every instant at a position within the range of the content. A seek leads to the place that
was asked for, limited to that range, whether the video is running or not.
-/

import WatchParty.Proofs.Binary64
import WatchParty.Proofs.Clock

namespace WatchParty

namespace Instant

theorem secondsBetween_self (instant : Instant) : secondsBetween instant instant = .zero := by
  rw [secondsBetween, Int.sub_self]
  decide +kernel

/-- Later instants are at least as many seconds away. -/
theorem secondsBetween_mono {now later : Instant} (hle : now ≤ later) (start : Instant) :
    secondsBetween start now ≤ secondsBetween start later := by
  have hthousand : (Binary64.ofInt 1000).exactUnits?.any (0 < ·) = true := by decide +kernel
  obtain ⟨exact, hexact, hpos⟩ := (Option.any_eq_true _ _).mp hthousand
  apply Binary64.div_mono hexact (of_decide_eq_true hpos)
  apply Binary64.ofInt_mono
  exact Int.tdiv_le_tdiv (by decide) (Int.sub_le_sub_right hle start)

end Instant

namespace Clock

/-- The seconds since the reference, none before it. -/
def elapsed (clock : Clock) (now : Instant) : Binary64 :=
  (Instant.secondsBetween clock.reference now).max .zero

variable {clock : Clock} {duration : Option Binary64}

theorem elapsed_mono (clock : Clock) {now later : Instant} (hle : now ≤ later) :
    clock.elapsed now ≤ clock.elapsed later :=
  Binary64.max_mono (Instant.secondsBetween_mono hle _) _

theorem zero_le_elapsed (clock : Clock) (now : Instant) : .zero ≤ clock.elapsed now :=
  Binary64.zero_le_max_zero _

theorem elapsed_of_le {now : Instant} (hle : now ≤ clock.reference) :
    clock.elapsed now = .zero := by
  have hsecs := clock.elapsed_mono hle
  rw [elapsed, elapsed, Instant.secondsBetween_self] at hsecs
  exact Binary64.le_antisymm hsecs (clock.zero_le_elapsed now)

/-- Up to its reference a clock stands at the position that it keeps. -/
theorem Sound.positionAt_of_le (hsound : clock.Sound) {now : Instant}
    (hle : now ≤ clock.reference) : clock.positionAt now = clock.position := by
  rw [positionAt]
  split
  · show limit clock.duration (clock.position + clock.elapsed now) = clock.position
    rw [elapsed_of_le hle, Binary64.add_zero, hsound.limited]
  · rfl

/-- A position is a target, limited to the range from zero to the duration. What is no number counts
as zero. -/
structure Confines (duration : Option Binary64) (target position : Binary64) : Prop where
  missing : target = .nan → position = .zero
  below : target < .zero → position = .zero
  within : Within duration target → position = target
  beyond : ∀ length, duration = some length → length < target → position = length

/-- Limiting moves a target no further than it has to. -/
theorem confines_limit (husable : usableDuration duration = duration) (target : Binary64) :
    Confines duration target (limit duration target) where
  missing := by
    rintro rfl
    have hzero : limit duration .nan = limit duration .zero := by cases duration <;> rfl
    rw [hzero]
    exact limit_of_within (within_zero husable)
  below := by
    intro hbelow
    rw [← limit_limit_none, limit, Binary64.max_eq_right (Binary64.le_of_lt hbelow)]
    exact limit_of_within (within_zero husable)
  within := limit_of_within
  beyond := by
    rintro length rfl hbeyond
    have hle := Binary64.le_of_lt hbeyond
    have hnonneg := Binary64.le_trans (Binary64.le_of_lt (zero_lt_of_usable husable)) hle
    rw [limit, Binary64.max_eq_left hnonneg]
    exact Binary64.min_eq_right hle

/-- The clocks that are made by starting or restoring one, bounding it and giving it commands. -/
inductive Built : Clock → Prop where
  | start (now : Instant) : Built (start now)
  | restore (isPlaying : Bool) (position : Binary64) (reference : Instant)
      (lastAction : PlaybackAction) : Built (restore isPlaying position reference lastAction)
  | withDuration {clock : Clock} (hbuilt : Built clock) (duration : Option Binary64) :
      Built (clock.withDuration duration)
  | apply {clock : Clock} (hbuilt : Built clock) (command : Command) (now : Instant) :
      Built (clock.apply command now)

theorem Sound.within (hsound : clock.Sound) : Within clock.duration clock.position := by
  rw [← hsound.limited]
  exact within_limit hsound.usable _

theorem Sound.within_positionAt (hsound : clock.Sound) (now : Instant) :
    Within clock.duration (clock.positionAt now) := by
  rw [← hsound.limit_positionAt now]
  exact within_limit hsound.usable _

namespace Built

theorem sound (hbuilt : clock.Built) : clock.Sound := by
  induction hbuilt with
  | start now => exact ⟨rfl, rfl⟩
  | restore isPlaying position reference lastAction => exact ⟨rfl, limit_limit_none none position⟩
  | withDuration _ duration _ => exact withDuration_sound _ duration
  | apply _ command now hsound => exact hsound.apply command now

/-- Whatever a clock was built from, its duration bounds positions, and every position that it has
or tells is within bounds. A seek leads as near to its target as the bounds allow. -/
theorem in_bounds (hbuilt : clock.Built) :
    (∀ length, clock.duration = some length → length.isFinite = true ∧ .zero < length) ∧
    Within clock.duration clock.position ∧
    (∀ now, Within clock.duration (clock.positionAt now) ∧
      ∀ action, Within clock.duration (clock.report action now).position) ∧
    ∀ target now,
      let sought := clock.apply (.seek target) now
      Confines clock.duration target (sought.positionAt sought.reference) := by
  have hsound := hbuilt.sound
  refine ⟨?_, hsound.within, ?_, ?_⟩
  · intro length hlength
    have husable := hsound.usable
    rw [hlength] at husable
    obtain ⟨-, hfilter⟩ := Option.filter_eq_some_iff.mp husable
    simpa only [Bool.and_eq_true, decide_eq_true_eq] using hfilter
  · exact fun now => ⟨hsound.within_positionAt now, fun _ => hsound.within_positionAt _⟩
  · intro target now sought
    have hsought : sought.Sound := hsound.apply _ _
    rw [hsought.positionAt_of_le (Int.le_refl _)]
    exact confines_limit hsound.usable target

end Built

/-- A stored clock without a position gets a duration, is started, and is then sent to infinity at
a time before its reference. -/
theorem misplaced_in_bounds :
    let length := Binary64.ofInt 90
    let clock := ((restore false .nan 50 .seek).withDuration (some length)).apply .play 20
    clock.Built ∧ clock.duration = some length ∧
      (∀ now, Within (some length) (clock.positionAt now)) ∧
      let sought := clock.apply (.seek .infinity) 30
      sought.isPlaying = true ∧ sought.positionAt sought.reference = length := by
  intro length clock
  have hbuilt : clock.Built := ((Built.restore false .nan 50 .seek).withDuration _).apply .play 20
  have hduration : clock.duration = some length := by decide +kernel
  obtain ⟨-, -, hpositions, hseek⟩ := hbuilt.in_bounds
  rw [hduration] at hpositions hseek
  refine ⟨hbuilt, hduration, fun now => (hpositions now).1, by decide +kernel, ?_⟩
  exact (hseek .infinity 30).beyond length rfl (by decide +kernel)

end Clock

end WatchParty
