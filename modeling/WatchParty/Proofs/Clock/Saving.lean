/-
# Saving a clock and rebuilding it

What is stored of a clock leaves its duration out, and rebuilding limits the stored position again.
So saving a clock and rebuilding it for content of some length is the same as bounding the clock by
that length, whatever the clock. A clock that came about by the operations is bounded by its own
duration already, and a clock that was just bounded is not changed by bounding it again. Hence
nothing is lost, however often a clock is saved and rebuilt.

Clocks are compared by their fields. None of the numbers that they keep is missing, so it makes no
difference that a missing number would not equal itself where numbers are compared as numbers.
-/

import Mathlib.Logic.Function.Iterate
import WatchParty.Proofs.Clock.Bounds

namespace WatchParty

namespace Clock

variable {clock : Clock}

/-- The clock after it was saved, and rebuilt for content of a length. -/
def reload (duration : Option Binary64) (clock : Clock) : Clock := clock.save.toClock duration

/-- No number is missing among those that a clock keeps. -/
structure Numeric (clock : Clock) : Prop where
  position : clock.position ≠ .nan
  duration : clock.duration ≠ some .nan

/-- Saving and rebuilding is bounding. -/
theorem reload_eq_withDuration (duration : Option Binary64) (clock : Clock) :
    clock.reload duration = clock.withDuration duration := by
  show ({ clock with
    position := limit (usableDuration duration) (limit none clock.position)
    duration := usableDuration duration } : Clock) = _
  rw [limit_limit_none]
  rfl

/-- Bounding twice is bounding once. -/
theorem withDuration_withDuration (clock : Clock) (duration : Option Binary64) :
    (clock.withDuration duration).withDuration duration = clock.withDuration duration := by
  have husable := usableDuration_usableDuration duration
  show ({ clock with
    position := limit (usableDuration duration) (limit (usableDuration duration) clock.position)
    duration := usableDuration duration } : Clock) = _
  rw [limit_limit husable]
  rfl

namespace Sound

/-- A clock that the operations keep is bounded by its own duration already. -/
theorem withDuration_self (hsound : clock.Sound) : clock.withDuration clock.duration = clock := by
  show ({ clock with
    position := limit (usableDuration clock.duration) clock.position
    duration := usableDuration clock.duration } : Clock) = clock
  rw [hsound.usable, hsound.limited]

theorem numeric (hsound : clock.Sound) : clock.Numeric where
  position := hsound.within.number
  duration := fun hmissing =>
    have hlt := zero_lt_of_usable (hsound.usable.trans hmissing)
    Binary64.ne_nan_of_le (Binary64.le_of_lt hlt) rfl

end Sound

/-- Whatever a clock was built from, saving it and rebuilding it with its own duration gives it
back. Rebuilt for content of another length it is the clock bounded by that length, and so it stays
however often it is bounded, or saved and rebuilt, after that. -/
theorem Built.survives_saving (hbuilt : clock.Built) :
    clock.Numeric ∧ clock.save.toClock clock.duration = clock ∧
    (∀ rounds, (reload clock.duration)^[rounds] clock = clock) ∧
    ∀ duration,
      let bounded := clock.withDuration duration
      bounded.Numeric ∧ bounded.save.toClock duration = bounded ∧
      bounded.withDuration duration = bounded ∧
      (∀ rounds, (reload duration)^[rounds] bounded = bounded) ∧
      ∀ rounds, (reload duration)^[rounds + 1] clock = bounded := by
  have hself : clock.reload clock.duration = clock := by
    rw [reload_eq_withDuration, hbuilt.sound.withDuration_self]
  refine ⟨hbuilt.sound.numeric, hself, Function.iterate_fixed hself, ?_⟩
  intro duration bounded
  have hbounded : bounded.reload duration = bounded := by
    rw [reload_eq_withDuration, withDuration_withDuration]
  have hrounds := Function.iterate_fixed hbounded
  refine ⟨(hbuilt.withDuration duration).sound.numeric, hbounded,
    clock.withDuration_withDuration duration, hrounds, fun rounds => ?_⟩
  rw [Function.iterate_succ_apply, reload_eq_withDuration]
  exact hrounds rounds

/-- A clock is restored without a position, started, and sent to infinity. It is then saved, and
rebuilt three times for content of a minute and a half. -/
theorem boundless_survives_saving :
    let clock := ((restore false .nan 50 .seek).apply .play 20).apply (.seek .infinity) 30
    let length := Binary64.ofInt 90
    clock.Built ∧ clock.position = .infinity ∧ clock.save.toClock none = clock ∧
      ((reload (some length))^[3] clock).position = length := by
  intro clock length
  have hbuilt : clock.Built := ((Built.restore false .nan 50 .seek).apply .play 20).apply _ 30
  obtain ⟨-, hself, -, hothers⟩ := hbuilt.survives_saving
  obtain ⟨-, -, -, -, hrounds⟩ := hothers (some length)
  refine ⟨hbuilt, by decide +kernel, hself, ?_⟩
  rw [hrounds 2]
  decide +kernel

end Clock

end WatchParty
