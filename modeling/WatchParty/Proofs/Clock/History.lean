/-
# The history of a clock

What a clock has come to can be read off from the commands that it was given, at instants in any
order. Whether it runs is decided by the last command that starts or stops it. The other fields go
back to the commands that had an effect when they came, the *effective* ones: the last of them is
the last action, and the reference is the latest of their instants, if it is not the one that the
clock had. Commands without effect can be left out.
-/

import WatchParty.Proofs.Clock

namespace WatchParty

namespace Command

/-- Whether the video is to run, if the command is about that. -/
def running? : Command → Option Bool
  | .play => some true
  | .pause => some false
  | .seek _ => none

/-- Where the video is moved, if it is. -/
def target? : Command → Option Binary64
  | .play => none
  | .pause => none
  | .seek position => some position

/-- Whether a command has an effect when it meets a running video or one that stands still. -/
def isEffective (isPlaying : Bool) : Command → Bool
  | .play => !isPlaying
  | .pause => isPlaying
  | .seek _ => true

end Command

namespace Clock

variable {clock : Clock} {command : Command} {now : Instant}

/-- The clock after some commands. -/
def follow (clock : Clock) (commands : List (Command × Instant)) : Clock :=
  commands.foldl (fun clock entry => clock.apply entry.1 entry.2) clock

/-- The commands that have an effect when they come. -/
def effective : Clock → List (Command × Instant) → List (Command × Instant)
  | _, [] => []
  | clock, (command, now) :: rest =>
    let later := (clock.apply command now).effective rest
    if command.isEffective clock.isPlaying then (command, now) :: later else later

theorem isPlaying_apply (clock : Clock) (command : Command) (now : Instant) :
    (clock.apply command now).isPlaying = command.running?.getD clock.isPlaying := by
  cases command with
  | play => cases hplaying : clock.isPlaying <;> simp [apply, switch, hplaying, Command.running?]
  | pause => cases hplaying : clock.isPlaying <;> simp [apply, switch, hplaying, Command.running?]
  | seek position => rfl

/-- A command that is not effective leaves the clock alone. -/
theorem apply_of_not_effective (hcommand : command.isEffective clock.isPlaying = false)
    (now : Instant) : clock.apply command now = clock := by
  cases command with
  | play => exact if_pos (Bool.not_eq_eq_eq_not.mp hcommand)
  | pause => exact if_neg (Bool.eq_false_iff.mp hcommand)
  | seek position => cases hcommand

/-- One that is effective leaves its name, and its instant unless the reference is later. -/
theorem apply_of_effective (hcommand : command.isEffective clock.isPlaying = true)
    (now : Instant) :
    (clock.apply command now).lastAction = command.action ∧
      (clock.apply command now).reference = max clock.reference now := by
  have hmax : clock.noEarlier now = max clock.reference now := Int.max_comm _ _
  cases command with
  | play =>
      have hpaused : clock.isPlaying = false := Bool.not_eq_eq_eq_not.mp hcommand
      rw [apply, hpaused]
      exact ⟨rfl, hmax⟩
  | pause =>
      have hplaying : clock.isPlaying = true := hcommand
      rw [apply, hplaying]
      exact ⟨rfl, hmax⟩
  | seek position => exact ⟨rfl, hmax⟩

theorem position_apply_of_paused (hpaused : clock.isPlaying = false) (hplay : command ≠ .play)
    (now : Instant) :
    (clock.apply command now).isPlaying = false ∧
      (clock.apply command now).position =
        (command.target?.map (limit clock.duration)).getD clock.position := by
  cases command with
  | play => exact absurd rfl hplay
  | pause =>
      have hcommand : Command.isEffective clock.isPlaying .pause = false := hpaused
      rw [apply_of_not_effective hcommand]
      exact ⟨hpaused, rfl⟩
  | seek position => exact ⟨hpaused, rfl⟩

theorem effective_cons_of_effective {rest : List (Command × Instant)}
    (hcommand : command.isEffective clock.isPlaying = true) :
    clock.effective ((command, now) :: rest) =
      (command, now) :: (clock.apply command now).effective rest := if_pos hcommand

theorem effective_cons_of_not_effective {rest : List (Command × Instant)}
    (hcommand : command.isEffective clock.isPlaying = false) :
    clock.effective ((command, now) :: rest) = clock.effective rest := by
  rw [effective, hcommand, apply_of_not_effective hcommand]
  rfl

/-- What comes last among the results for a list is the result for its head if there are no
others. -/
theorem getLast?_filterMap_cons {α β : Type} (f : α → Option β) (head : α) (rest : List α) :
    ((head :: rest).filterMap f).getLast? = ((rest.filterMap f).getLast?).or (f head) := by
  rw [List.getLast?_filterMap, List.getLast?_filterMap, List.reverse_cons, List.findSome?_append,
    List.findSome?_singleton]

theorem isPlaying_follow (clock : Clock) (commands : List (Command × Instant)) :
    (clock.follow commands).isPlaying =
      (commands.filterMap (·.1.running?)).getLast?.getD clock.isPlaying := by
  induction commands generalizing clock with
  | nil => rfl
  | cons entry rest ih =>
      have hnext := (ih (clock.apply entry.1 entry.2)).trans
        (congrArg _ (clock.isPlaying_apply entry.1 entry.2))
      rw [getLast?_filterMap_cons, Option.getD_or]
      exact hnext

theorem duration_follow (clock : Clock) (commands : List (Command × Instant)) :
    (clock.follow commands).duration = clock.duration := by
  induction commands generalizing clock with
  | nil => rfl
  | cons entry rest ih => exact (ih _).trans (clock.duration_apply entry.1 entry.2)

theorem effective_sublist (clock : Clock) (commands : List (Command × Instant)) :
    (clock.effective commands).Sublist commands := by
  induction commands generalizing clock with
  | nil => exact .slnil
  | cons entry rest ih =>
      rw [effective]
      split
      · exact (ih _).cons_cons entry
      · exact (ih _).cons entry

/-- Commands without effect can be left out. -/
theorem follow_effective (clock : Clock) (commands : List (Command × Instant)) :
    clock.follow (clock.effective commands) = clock.follow commands := by
  induction commands generalizing clock with
  | nil => rfl
  | cons entry rest ih =>
      obtain ⟨command, now⟩ := entry
      cases hcommand : command.isEffective clock.isPlaying with
      | true =>
          rw [effective_cons_of_effective hcommand]
          exact ih _
      | false =>
          have hsame : clock.follow ((command, now) :: rest) = clock.follow rest :=
            congrArg (follow · rest) (apply_of_not_effective hcommand now)
          rw [effective_cons_of_not_effective hcommand, hsame]
          exact ih clock

/-- The last effective command is the last action, and the latest instant of one the reference. -/
theorem fields_follow (clock : Clock) (commands : List (Command × Instant)) :
    (clock.follow commands).lastAction =
        ((clock.effective commands).map (·.1.action)).getLast?.getD clock.lastAction ∧
      (clock.follow commands).reference =
        ((clock.effective commands).map (·.2)).foldl max clock.reference := by
  induction commands generalizing clock with
  | nil => exact ⟨rfl, rfl⟩
  | cons entry rest ih =>
      obtain ⟨command, now⟩ := entry
      cases hcommand : command.isEffective clock.isPlaying with
      | true =>
          obtain ⟨haction, hreference⟩ := apply_of_effective hcommand now
          obtain ⟨hlast, hlatest⟩ := ih (clock.apply command now)
          rw [haction] at hlast
          rw [hreference] at hlatest
          rw [effective_cons_of_effective hcommand, List.map_cons, List.map_cons,
            List.getLast?_cons, Option.getD_some, List.foldl_cons]
          exact ⟨hlast, hlatest⟩
      | false =>
          have hsame : clock.follow ((command, now) :: rest) = clock.follow rest :=
            congrArg (follow · rest) (apply_of_not_effective hcommand now)
          rw [effective_cons_of_not_effective hcommand, hsame]
          exact ih clock

/-- A video that is never started is where it was last moved. -/
theorem position_follow_of_paused {commands : List (Command × Instant)}
    (hpaused : clock.isPlaying = false) (hplay : ∀ entry ∈ commands, entry.1 ≠ .play) :
    (clock.follow commands).position =
      ((commands.filterMap (·.1.target?)).getLast?.map (limit clock.duration)).getD
        clock.position := by
  induction commands generalizing clock with
  | nil => rfl
  | cons entry rest ih =>
      obtain ⟨hentry, hrest⟩ := List.forall_mem_cons.mp hplay
      obtain ⟨hstill, hposition⟩ := position_apply_of_paused hpaused hentry entry.2
      have hnext := ih hstill hrest
      rw [hposition, duration_apply] at hnext
      rw [getLast?_filterMap_cons, Option.map_or, Option.getD_or]
      exact hnext

/-- What some commands make of a clock, said of the list of commands as a whole. -/
theorem history_in_closed_form (clock : Clock) (commands : List (Command × Instant)) :
    let final := clock.follow commands
    let effective := clock.effective commands
    final.isPlaying = (commands.filterMap (·.1.running?)).getLast?.getD clock.isPlaying ∧
    final.lastAction = (effective.map (·.1.action)).getLast?.getD clock.lastAction ∧
    final.reference = (effective.map (·.2)).foldl max clock.reference ∧
    final.duration = clock.duration ∧
    effective.Sublist commands ∧ clock.follow effective = final ∧
    (clock.isPlaying = false → (∀ entry ∈ commands, entry.1 ≠ .play) →
      final.position = ((commands.filterMap (·.1.target?)).getLast?.map
        (limit clock.duration)).getD clock.position) := by
  obtain ⟨hlast, hlatest⟩ := clock.fields_follow commands
  exact ⟨clock.isPlaying_follow commands, hlast, hlatest, clock.duration_follow commands,
    clock.effective_sublist commands, clock.follow_effective commands,
    fun hpaused hplay => position_follow_of_paused hpaused hplay⟩

/-- A video that stands still is moved twice, the second time at an earlier instant, and is stopped
in between, which has no effect. -/
theorem moved_history_in_closed_form :
    let clock := (start 10).withDuration (some (.ofInt 90))
    let commands := [(.seek .infinity, 30), (.pause, 40), (.seek .nan, 20)]
    let final := clock.follow commands
    clock.effective commands = [(.seek .infinity, 30), (.seek .nan, 20)] ∧
      final.isPlaying = false ∧ final.lastAction = .seek ∧ final.reference = 30 ∧
      final.position = .zero := by
  intro clock commands final
  obtain ⟨hplaying, haction, hreference, -, -, -, hposition⟩ :=
    history_in_closed_form clock commands
  have heffective : clock.effective commands = [(.seek .infinity, 30), (.seek .nan, 20)] := by
    decide +kernel
  rw [heffective] at haction hreference
  refine ⟨heffective, hplaying, haction, hreference, ?_⟩
  rw [hposition rfl (by decide)]
  decide +kernel

end Clock

end WatchParty
