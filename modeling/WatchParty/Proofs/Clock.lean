/-
# Laws of the playback clock

A clock made by the operations has a position that limiting does not change, and a duration that is
usable. Such a clock survives being saved and rebuilt. Of the numbers only the order is needed:
`max` and `min` pick the larger and the smaller of two numbers, and the other one where one of them
is not a number.
-/

import WatchParty.Playback.Clock
import WatchParty.Proofs.Binary64

namespace WatchParty

namespace Clock

variable {duration : Option Binary64}

theorem zero_lt_of_usable {length : Binary64} (husable : usableDuration duration = some length) :
    Binary64.zero < length := by
  obtain ⟨-, hlength⟩ := Option.filter_eq_some_iff.mp husable
  simp only [Bool.and_eq_true, decide_eq_true_eq] at hlength
  exact hlength.2

@[simp]
theorem usableDuration_usableDuration (duration : Option Binary64) :
    usableDuration (usableDuration duration) = usableDuration duration := by
  simp only [usableDuration, Option.filter_filter, Bool.and_self]

/-- A position is a number of seconds from zero to the duration, if there is one. -/
structure Within (duration : Option Binary64) (position : Binary64) : Prop where
  number : position ≠ .nan
  nonneg : .zero ≤ position
  bounded : ∀ length, duration = some length → position ≤ length

/-- The start lies within the range of every content. -/
theorem within_zero (husable : usableDuration duration = duration) : Within duration .zero where
  number := Binary64.noConfusion
  nonneg := Int.le_refl 0
  bounded := by
    rintro length rfl
    exact Binary64.le_of_lt (zero_lt_of_usable husable)

/-- Limiting leads into the range. -/
theorem within_limit (husable : usableDuration duration = duration) (target : Binary64) :
    Within duration (limit duration target) := by
  have hnonneg := Binary64.zero_le_max_zero target
  cases duration with
  | none => exact ⟨Binary64.ne_nan_of_le hnonneg, hnonneg, fun _ hlength => by cases hlength⟩
  | some length =>
      have hlength := Binary64.le_of_lt (zero_lt_of_usable husable)
      have hmin := Binary64.le_min hnonneg hlength
      refine ⟨Binary64.ne_nan_of_le hmin, hmin, ?_⟩
      rintro _ ⟨⟩
      exact Binary64.min_le_right hnonneg hlength

/-- Limiting leaves a position that is in the range. -/
theorem limit_of_within {position : Binary64} (hwithin : Within duration position) :
    limit duration position = position := by
  have hmax := Binary64.max_eq_left hwithin.nonneg
  cases duration with
  | none => exact hmax
  | some length =>
      rw [limit, hmax]
      exact Binary64.min_eq_left (hwithin.bounded length rfl)

theorem limit_zero (duration : Option Binary64) : limit (usableDuration duration) .zero = .zero :=
  limit_of_within (within_zero (usableDuration_usableDuration duration))

/-- Limiting to a usable duration twice is limiting once. -/
theorem limit_limit (husable : usableDuration duration = duration) (position : Binary64) :
    limit duration (limit duration position) = limit duration position :=
  limit_of_within (within_limit husable position)

@[simp]
theorem limit_limit_none (duration : Option Binary64) (position : Binary64) :
    limit duration (limit none position) = limit duration position := by
  have hmax : (position.max .zero).max .zero = position.max .zero :=
    Binary64.max_eq_left (Binary64.zero_le_max_zero position)
  cases duration <;> simp only [limit, hmax]

/-- A command leaves a clock, or starts or stops it at an instant that is not before its reference,
or is a seek. -/
theorem apply_cases (clock : Clock) (command : Command) (now : Instant) :
    clock.apply command now = clock ∨
    (∃ playing, clock.apply command now =
      clock.switch playing command.action (clock.noEarlier now)) ∨
    ∃ target, command = .seek target := by
  cases command with
  | play =>
      rw [apply]
      split
      · exact .inl rfl
      · exact .inr (.inl ⟨true, rfl⟩)
  | pause =>
      rw [apply]
      split
      · exact .inr (.inl ⟨false, rfl⟩)
      · exact .inl rfl
  | seek target => exact .inr (.inr ⟨target, rfl⟩)

@[simp]
theorem duration_apply (clock : Clock) (command : Command) (now : Instant) :
    (clock.apply command now).duration = clock.duration := by
  rcases clock.apply_cases command now with hsame | ⟨_, hswitch⟩ | ⟨target, rfl⟩
  · rw [hsame]
  · rw [hswitch]
    rfl
  · rfl

/-- A clock as the operations keep it. -/
structure Sound (clock : Clock) : Prop where
  /-- The duration bounds positions. -/
  usable : usableDuration clock.duration = clock.duration
  /-- The position is within bounds. -/
  limited : limit clock.duration clock.position = clock.position

variable {clock : Clock}

theorem withDuration_sound (clock : Clock) (duration : Option Binary64) :
    (clock.withDuration duration).Sound where
  usable := usableDuration_usableDuration duration
  limited := limit_limit (usableDuration_usableDuration duration) clock.position

namespace Sound

theorem limit_positionAt (hsound : clock.Sound) (now : Instant) :
    limit clock.duration (clock.positionAt now) = clock.positionAt now := by
  rw [positionAt]
  split
  · exact limit_limit hsound.usable _
  · exact hsound.limited

theorem switch (hsound : clock.Sound) (playing : Bool) (action : PlaybackAction) (now : Instant) :
    (clock.switch playing action now).Sound where
  usable := hsound.usable
  limited := hsound.limit_positionAt now

theorem apply (hsound : clock.Sound) (command : Command) (now : Instant) :
    (clock.apply command now).Sound := by
  rcases clock.apply_cases command now with hsame | ⟨_, hswitch⟩ | ⟨target, rfl⟩
  · rw [hsame]
    exact hsound
  · rw [hswitch]
    exact hsound.switch _ _ _
  · exact ⟨hsound.usable, limit_limit hsound.usable target⟩

/-- A sound clock is rebuilt from what was saved of it and its duration. -/
theorem toClock_save (hsound : clock.Sound) {duration : Option Binary64}
    (hduration : usableDuration duration = clock.duration) :
    clock.save.toClock duration = clock := by
  show ({ clock with
    position := limit (usableDuration duration) (limit none clock.position)
    duration := usableDuration duration } : Clock) = clock
  rw [limit_limit_none, hduration, hsound.limited]

end Sound

theorem reference_le_noEarlier (clock : Clock) (now : Instant) :
    clock.reference ≤ clock.noEarlier now := Int.le_max_right _ _

theorem noEarlier_noEarlier (clock : Clock) (now : Instant) :
    clock.noEarlier (clock.noEarlier now) = clock.noEarlier now :=
  Int.max_eq_left (clock.reference_le_noEarlier now)

/-- A report is of the instant that it names. -/
theorem report_instant (clock : Clock) (action : PlaybackAction) (now : Instant) :
    clock.report action (clock.report action now).instant = clock.report action now := by
  rw [report, report, clock.noEarlier_noEarlier]

/-- Later instants and later references make for later instants. -/
theorem noEarlier_mono {clock later : Clock} {now then' : Instant}
    (hreference : clock.reference ≤ later.reference) (hnow : now ≤ then') :
    clock.noEarlier now ≤ later.noEarlier then' := by
  apply Int.max_le.mpr
  constructor
  · exact Int.le_trans hnow (Int.le_max_left _ _)
  · exact Int.le_trans hreference (Int.le_max_right _ _)

/-- A command leaves a clock, or moves its reference up to the instant of the command. -/
theorem eq_or_reference_apply (clock : Clock) (command : Command) (now : Instant) :
    clock.apply command now = clock ∨
      (clock.apply command now).reference = clock.noEarlier now := by
  rcases clock.apply_cases command now with hsame | ⟨_, hswitch⟩ | ⟨target, rfl⟩
  · exact .inl hsame
  · rw [hswitch]
    exact .inr rfl
  · exact .inr rfl

/-- A command that changes a clock sets its reference to the instant of the report. -/
theorem instant_of_moved {clock : Clock} {command : Command} {now : Instant}
    (hmoved : clock.apply command (clock.noEarlier now) ≠ clock) (action : PlaybackAction) :
    ((clock.apply command (clock.noEarlier now)).report action (clock.noEarlier now)).instant =
      (clock.apply command (clock.noEarlier now)).reference := by
  have hreference := (clock.eq_or_reference_apply command (clock.noEarlier now)).resolve_left hmoved
  rw [noEarlier_noEarlier] at hreference
  show noEarlier _ _ = _
  rw [noEarlier, hreference, Int.max_self]

/-- No command moves the reference back. -/
theorem reference_le_apply (clock : Clock) (command : Command) (now : Instant) :
    clock.reference ≤ (clock.apply command now).reference := by
  rcases clock.eq_or_reference_apply command now with hsame | hmoved
  · exact Int.le_of_eq (congrArg Clock.reference hsame.symm)
  · rw [hmoved]
    exact clock.reference_le_noEarlier now

end Clock

/-- Every rebuilt clock is sound. -/
theorem SavedClock.toClock_sound (saved : SavedClock) (duration : Option Binary64) :
    (saved.toClock duration).Sound :=
  Clock.withDuration_sound _ duration

end WatchParty
