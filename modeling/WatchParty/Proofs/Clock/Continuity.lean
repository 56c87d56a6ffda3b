/-
# Playback without seeks

Starting and stopping the video does not move it: at the instant of the command it is where it was,
also if that instant lies before the reference of the clock. In between it goes forwards or stands
still. So whoever looks again and again, at instants that do not go back, sees positions that do not
go back, however often the video is started and stopped, and the same position all the while it is
stopped.

A look is rounded to the millisecond that has passed since the reference, and a command moves the
reference. So commands can make a difference to later looks; they do not take the video back.
-/

import Mathlib.Data.List.Infix
import WatchParty.Proofs.Clock.Bounds

namespace WatchParty

/-- What is done with a clock at an instant. -/
inductive ClockUse where
  /-- It is given a command. -/
  | control (command : Command)
  /-- Somebody looks where the video is. -/
  | look

/-- Whether the video is moved to a position. -/
def ClockUse.seeks : ClockUse → Bool
  | .control (.seek _) => true
  | _ => false

namespace Clock

variable {clock : Clock} {uses stretch : List (ClockUse × Instant)}

/-- The clock after some uses. -/
def after : Clock → List (ClockUse × Instant) → Clock
  | clock, [] => clock
  | clock, (.control command, now) :: rest => (clock.apply command now).after rest
  | clock, (.look, _) :: rest => clock.after rest

/-- The positions that are seen in some uses. -/
def sights : Clock → List (ClockUse × Instant) → List Binary64
  | _, [] => []
  | clock, (.control command, now) :: rest => (clock.apply command now).sights rest
  | clock, (.look, now) :: rest => clock.positionAt now :: clock.sights rest

theorem after_append (clock : Clock) (uses later : List (ClockUse × Instant)) :
    clock.after (uses ++ later) = (clock.after uses).after later := by
  induction uses generalizing clock with
  | nil => rfl
  | cons use rest ih =>
      obtain ⟨use, now⟩ := use
      cases use with
      | control command => exact ih _
      | look => exact ih clock

theorem sights_append (clock : Clock) (uses later : List (ClockUse × Instant)) :
    clock.sights (uses ++ later) = clock.sights uses ++ (clock.after uses).sights later := by
  induction uses generalizing clock with
  | nil => rfl
  | cons use rest ih =>
      obtain ⟨use, now⟩ := use
      cases use with
      | control command => exact ih _
      | look => exact congrArg (clock.positionAt now :: ·) (ih clock)

theorem limit_mono {position further : Binary64} (hle : position ≤ further)
    (duration : Option Binary64) : limit duration position ≤ limit duration further := by
  have hmax := Binary64.max_mono hle .zero
  cases duration with
  | none => exact hmax
  | some length => exact Binary64.min_mono hmax length

namespace Sound

/-- The video goes forwards or stands still. -/
theorem positionAt_mono (hsound : clock.Sound) {now later : Instant} (hle : now ≤ later) :
    clock.positionAt now ≤ clock.positionAt later := by
  rw [positionAt, positionAt]
  split
  · apply limit_mono
    exact Binary64.add_mono hsound.within.nonneg (clock.zero_le_elapsed now)
      (clock.elapsed_mono hle)
  · exact Binary64.le_self_of_le hsound.within.nonneg

theorem positionAt_noEarlier (hsound : clock.Sound) (now : Instant) :
    clock.positionAt (clock.noEarlier now) = clock.positionAt now := by
  rcases Int.le_total clock.reference now with hle | hle
  · rw [noEarlier, Int.max_eq_left hle]
  · rw [noEarlier, Int.max_eq_right hle, hsound.positionAt_of_le hle,
      hsound.positionAt_of_le (Int.le_refl _)]

/-- The flow of time is started or stopped where the video is. -/
theorem positionAt_switch (hsound : clock.Sound) (playing : Bool) (action : PlaybackAction)
    (now : Instant) :
    (clock.switch playing action (clock.noEarlier now)).positionAt now = clock.positionAt now := by
  have hreference : now ≤ clock.noEarlier now := Int.le_max_left _ _
  rw [(hsound.switch playing action (clock.noEarlier now)).positionAt_of_le hreference]
  exact hsound.positionAt_noEarlier now

/-- No command but a seek moves the video. -/
theorem positionAt_apply (hsound : clock.Sound) {command : Command}
    (hseek : (ClockUse.control command).seeks = false) (now : Instant) :
    (clock.apply command now).positionAt now = clock.positionAt now := by
  rcases clock.apply_cases command now with hsame | ⟨_, hswitch⟩ | ⟨target, rfl⟩
  · rw [hsame]
  · rw [hswitch]
    exact hsound.positionAt_switch _ _ _
  · cases hseek

/-- Nothing is seen that lies before the position at the start. -/
theorem positionAt_le_of_mem_sights (hsound : clock.Sound) {start : Instant}
    (hstart : ∀ use ∈ uses, start ≤ use.2) (hordered : (uses.map (·.2)).Pairwise (· ≤ ·))
    (hseeks : ∀ use ∈ uses, use.1.seeks = false) :
    ∀ position ∈ clock.sights uses, clock.positionAt start ≤ position := by
  -- The start moves on to the instant of each use, at which a command leaves the video in place.
  induction uses generalizing clock start with
  | nil => exact fun _ hmem => by cases hmem
  | cons head rest ih =>
      obtain ⟨use, now⟩ := head
      obtain ⟨hnow, hrest⟩ := List.pairwise_cons.mp hordered
      obtain ⟨hseek, hnone⟩ := List.forall_mem_cons.mp hseeks
      have hlater : ∀ use ∈ rest, now ≤ use.2 := fun use hmem => hnow _ (List.mem_map_of_mem hmem)
      have hpassed := hsound.positionAt_mono (hstart (use, now) List.mem_cons_self)
      intro position hmem
      cases use with
      | control command =>
          have hle := ih (hsound.apply command now) hlater hrest hnone position hmem
          rw [hsound.positionAt_apply hseek] at hle
          exact Binary64.le_trans hpassed hle
      | look =>
          rcases List.mem_cons.mp hmem with rfl | hmem
          · exact hpassed
          · exact Binary64.le_trans hpassed (ih hsound hlater hrest hnone position hmem)

theorem sights_ordered (hsound : clock.Sound) (hordered : (uses.map (·.2)).Pairwise (· ≤ ·))
    (hseeks : ∀ use ∈ uses, use.1.seeks = false) : (clock.sights uses).Pairwise (· ≤ ·) := by
  induction uses generalizing clock with
  | nil => exact .nil
  | cons head rest ih =>
      obtain ⟨use, now⟩ := head
      obtain ⟨hnow, hrest⟩ := List.pairwise_cons.mp hordered
      obtain ⟨-, hnone⟩ := List.forall_mem_cons.mp hseeks
      cases use with
      | control command => exact ih (hsound.apply command now) hrest hnone
      | look =>
          have hlater : ∀ use ∈ rest, now ≤ use.2 := fun use hmem =>
            hnow _ (List.mem_map_of_mem hmem)
          exact .cons (hsound.positionAt_le_of_mem_sights hlater hrest hnone)
            (ih hsound hrest hnone)

end Sound

/-- A clock that is stopped all the while shows one position only. -/
theorem sights_of_stopped (hseeks : ∀ use ∈ stretch, use.1.seeks = false)
    (hstopped : ∀ part, part <+: stretch → (clock.after part).isPlaying = false) :
    ∃ looks, clock.sights stretch = List.replicate looks clock.position := by
  have hclock : clock.isPlaying = false := hstopped [] List.nil_prefix
  induction stretch with
  | nil => exact ⟨0, rfl⟩
  | cons head rest ih =>
      obtain ⟨use, now⟩ := head
      obtain ⟨hseek, hnone⟩ := List.forall_mem_cons.mp hseeks
      have hpart : ∀ part, part <+: rest → (clock.after ((use, now) :: part)).isPlaying = false :=
        fun part hprefix => hstopped _ (List.cons_prefix_cons.mpr ⟨rfl, hprefix⟩)
      cases use with
      | look =>
          obtain ⟨looks, hlooks⟩ := ih hnone hpart
          have hposition : clock.positionAt now = clock.position := by
            rw [positionAt, hclock]
            rfl
          exact ⟨looks + 1, by rw [sights, hposition, hlooks, List.replicate_succ]⟩
      | control command =>
          cases command with
          | play =>
              have hplaying : (clock.apply .play now).isPlaying = true := by
                rw [apply, hclock]
                rfl
              cases hplaying.symm.trans (hpart [] List.nil_prefix)
          | pause =>
              have hsame : clock.apply .pause now = clock := by
                rw [apply, hclock]
                rfl
              rw [sights, hsame]
              refine ih hnone fun part hprefix => ?_
              rw [← hpart part hprefix, after, hsame]
          | seek target => cases hseek

/-- Playing and pausing do not move the video, and do not let it go back. -/
theorem Built.never_goes_back (hbuilt : clock.Built) :
    (∀ command, command = .play ∨ command = .pause → ∀ now,
      (clock.apply command now).positionAt now = clock.positionAt now) ∧
    ∀ uses, (uses.map (·.2)).Pairwise (· ≤ ·) → (∀ use ∈ uses, use.1.seeks = false) →
      (clock.sights uses).Pairwise (· ≤ ·) ∧
      ∀ before stretch rest, uses = before ++ stretch ++ rest →
        (∀ part, part <+: stretch → (clock.after (before ++ part)).isPlaying = false) →
        ∃ looks, clock.sights uses = clock.sights before ++
          List.replicate looks (clock.after before).position ++
          (clock.after (before ++ stretch)).sights rest := by
  have hsound := hbuilt.sound
  refine ⟨?_, ?_⟩
  · rintro command (rfl | rfl) now
    · exact hsound.positionAt_apply rfl now
    · exact hsound.positionAt_apply rfl now
  · intro uses hordered hseeks
    refine ⟨hsound.sights_ordered hordered hseeks, ?_⟩
    rintro before stretch rest rfl hstopped
    simp only [after_append] at hstopped
    have hnone : ∀ use ∈ stretch, use.1.seeks = false := fun use hmem =>
      hseeks use (List.mem_append_left _ (List.mem_append_right _ hmem))
    obtain ⟨looks, hlooks⟩ := sights_of_stopped hnone hstopped
    exact ⟨looks, by rw [sights_append, sights_append, hlooks]⟩

/-- A video that is running is looked at before the reference of its clock, is stopped, looked at
twice, and started again. -/
theorem halting_never_goes_back :
    let clock := (restore true (.ofInt 3) 1000000 .seek).withDuration (some (.ofInt 90))
    let before : List (ClockUse × Instant) := [(.look, 0), (.control .pause, 3500000)]
    let stretch : List (ClockUse × Instant) := [(.look, 4000000), (.look, 5000000)]
    let rest : List (ClockUse × Instant) := [(.control .play, 5000000), (.look, 9000000)]
    clock.Built ∧ (clock.sights (before ++ stretch ++ rest)).Pairwise (· ≤ ·) ∧
      (clock.apply .pause 3500000).positionAt 3500000 = clock.positionAt 3500000 ∧
      ∃ looks, clock.sights (before ++ stretch ++ rest) = clock.sights before ++
        List.replicate looks (clock.after before).position ++
        (clock.after (before ++ stretch)).sights rest := by
  intro clock before stretch rest
  have hbuilt : clock.Built := (Built.restore true (.ofInt 3) 1000000 .seek).withDuration _
  obtain ⟨hsame, hruns⟩ := hbuilt.never_goes_back
  obtain ⟨hordered, hstopped⟩ := hruns (before ++ stretch ++ rest) (by decide) (by decide)
  refine ⟨hbuilt, hordered, hsame .pause (.inr rfl) 3500000, hstopped before stretch rest rfl ?_⟩
  have hpaused : ∀ part ∈ stretch.inits, (clock.after (before ++ part)).isPlaying = false := by
    decide +kernel
  exact fun part hpart => hpaused part ((List.mem_inits _ _).mpr hpart)

end Clock

end WatchParty
