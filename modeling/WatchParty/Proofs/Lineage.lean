/-
# Where rooms come from

A room keeps what it was created with: its number, its title, its content and the instant of its
creation. A number that no room has is given to a room only if it was never given away before, so a
room of some later time is either the same as a room of now, or has a number that is yet to be
handed out. The numbers of users are new in the same way. Starting over makes no difference to that.
-/

import WatchParty.Proofs.Change

namespace WatchParty

/-- Two states are of the same room: they agree in all that a room is created with, except for
its owner. -/
structure RoomState.Akin (first second : RoomState) : Prop where
  id : second.data.id = first.data.id
  title : second.data.title = first.data.title
  content : second.content = first.content
  createdAt : second.data.createdAt = first.data.createdAt

namespace RoomState.Akin

variable {first second third : RoomState}

theorem refl (state : RoomState) : state.Akin state := ⟨rfl, rfl, rfl, rfl⟩

theorem symm (hakin : first.Akin second) : second.Akin first :=
  ⟨hakin.id.symm, hakin.title.symm, hakin.content.symm, hakin.createdAt.symm⟩

theorem trans (hfirst : first.Akin second) (hsecond : second.Akin third) : first.Akin third :=
  ⟨hsecond.id.trans hfirst.id, hsecond.title.trans hfirst.title,
    hsecond.content.trans hfirst.content, hsecond.createdAt.trans hfirst.createdAt⟩

theorem welcome (state : RoomState) (user : User) (now : Instant) :
    state.Akin (state.welcome user now) := ⟨rfl, rfl, rfl, rfl⟩

theorem release (state : RoomState) (user : UserId) : state.Akin (state.release user) :=
  ⟨rfl, rfl, rfl, rfl⟩

theorem steer (state : RoomState) (clock : Clock) : state.Akin (state.steer clock) :=
  ⟨rfl, rfl, rfl, rfl⟩

end RoomState.Akin

namespace Core

/-- The rooms and users of a later core are those of an earlier one, or their numbers are handed out
in the meantime. -/
structure Precedes (core next : Core) : Prop where
  users : core.store.GrantsUsers next.store
  counted : core.store.lastId ≤ next.store.lastId
  rooms : ∀ number state, next.states.get? number = some state →
    (∃ older, core.states.get? number = some older ∧ older.Akin state) ∨
      core.store.lastId < number

namespace Precedes

variable {core middle next : Core}

theorem of_eq (husers : core.store.GrantsUsers next.store)
    (hcounted : core.store.lastId ≤ next.store.lastId) (hstates : next.states = core.states) :
    core.Precedes next where
  users := husers
  counted := hcounted
  rooms := fun _ state hstate => .inl ⟨state, hstates ▸ hstate, .refl state⟩

theorem refl (core : Core) : core.Precedes core := .of_eq (.of_eq rfl) (Int.le_refl _) rfl

theorem trans (hfirst : core.Precedes middle) (hsecond : middle.Precedes next) :
    core.Precedes next where
  users := fun id hid => by
    rcases hsecond.users id hid with hold | hnew
    · exact hfirst.users id hold
    · exact .inr (Int.lt_of_le_of_lt hfirst.counted hnew)
  counted := Int.le_trans hfirst.counted hsecond.counted
  rooms := fun number state hstate => by
    rcases hsecond.rooms number state hstate with ⟨older, holder, hakin⟩ | hnew
    · rcases hfirst.rooms number older holder with ⟨oldest, holdest, hakin'⟩ | hnew
      · exact .inl ⟨oldest, holdest, hakin'.trans hakin⟩
      · exact .inr hnew
    · exact .inr (Int.lt_of_le_of_lt hfirst.counted hnew)

/-- A room may take a new state as long as it stays the same room. -/
theorem insert {number : RoomId} {state state' : RoomState}
    (hstate : core.states.get? number = some state) (hakin : state.Akin state')
    (husers : next.store.users = core.store.users)
    (hcounted : core.store.lastId ≤ next.store.lastId)
    (hstates : next.states = core.states.insert number state') : core.Precedes next where
  users := .of_eq husers
  counted := hcounted
  rooms := fun other later hlater => by
    rw [hstates] at hlater
    rcases IdMap.of_get?_insert hlater with ⟨rfl, rfl⟩ | hold
    · exact .inl ⟨state, hstate, hakin⟩
    · exact .inl ⟨later, hold, .refl later⟩

/-- A room whose number was handed out before is not there again after it was gone. -/
theorem contains (hprecedes : core.Precedes next) {number : RoomId}
    (hold : number ≤ core.store.lastId) (hlive : next.states.contains number = true) :
    core.states.contains number = true := by
  obtain ⟨state, hstate⟩ := Option.isSome_iff_exists.mp hlive
  rcases hprecedes.rooms number state hstate with ⟨older, holder, -⟩ | hnew
  · exact IdMap.contains_of_get? holder
  · exact absurd hnew (Int.not_lt.mpr hold)

end Precedes

theorem Quiet.precedes {core next : Core} {acts : List (Topics.Act RoomEvent)}
    (hquiet : core.Quiet acts next) : core.Precedes next :=
  .of_eq hquiet.users hquiet.counted hquiet.states

/-- A change keeps every room the same, or founds one under the next number. -/
theorem Change.precedes {core next : Core} {call : Call} (hchange : core.Change call next)
    (hfresh : core.store.lastId < core.store.nextId) : core.Precedes next := by
  cases hchange with
  | found title howner hshown hstate =>
      have hid := congrArg (·.data.id) hstate
      refine ⟨.of_eq rfl, ?_, fun number later hlater => ?_⟩
      · exact Int.le_of_lt (hid ▸ hfresh)
      · rcases IdMap.of_get?_insert hlater with ⟨rfl, -⟩ | hold
        · exact .inr (hid ▸ hfresh)
        · exact .inl ⟨later, hold, .refl later⟩
  | enter hstate => exact .insert hstate (.welcome _ _ _) rfl (Int.le_refl _) rfl
  | depart hstate => exact .insert hstate (.release _ _) rfl (Int.le_refl _) rfl
  | vacate hstate =>
      refine ⟨.of_eq rfl, Int.le_refl _, fun number later hlater => ?_⟩
      exact .inl ⟨later, IdMap.of_get?_erase hlater, .refl later⟩
  | steer hstate => exact .insert hstate (.steer _ _) rfl (Int.le_refl _) rfl
  | talk hstate hmember htext hid =>
      exact .of_eq (.of_eq rfl) (Int.le_of_lt (by simpa [Store.post, hid] using hfresh)) rfl

end Core

namespace Venue

variable {venue : Venue}

theorem Sound.precedes_take (hsound : venue.Sound) (hleft : venue.store.lastId < maxIdentifier)
    (step : Step) : venue.core.Precedes (step.take venue).core := by
  obtain ⟨rules, rfl⟩ | hsame := step.eq_restart_or_ne
  · obtain ⟨hstore, hstates⟩ := hsound.take_restart rules
    exact .of_eq (.of_eq (congrArg Store.users hstore))
      (Int.le_of_eq (congrArg Store.lastId hstore.symm)) hstates
  · rcases hsound.take_cases hleft hsame with ⟨_, -, -, -, hchange⟩ | hquiet
    · exact hchange.precedes (hsound.numbered.lt_nextId hleft)
    · exact hquiet.precedes

/-- Whatever happens, rooms of before stay the same rooms, and others have new numbers. -/
theorem Sound.precedes_follow (hsound : venue.Sound) {steps : List Step}
    (hlasts : venue.Lasts steps) : venue.core.Precedes (venue.follow steps).core := by
  induction steps generalizing venue with
  | nil => exact .refl _
  | cons step rest ih =>
      exact (hsound.precedes_take hlasts.1 step).trans (ih (hsound.take hlasts.1 step) hlasts.2)

/-- A room that is there before a run and after it is there all the time. -/
theorem Sound.stays_live (hsound : venue.Sound) {step : Step} {rest : List Step}
    (hlasts : venue.Lasts (step :: rest)) {number : RoomId}
    (hbefore : venue.core.states.contains number = true)
    (hafter : (venue.follow (step :: rest)).core.states.contains number = true) :
    (step.take venue).core.states.contains number = true := by
  apply ((hsound.take hlasts.1 step).precedes_follow hlasts.2).contains _ hafter
  obtain ⟨state, hstate⟩ := Option.isSome_iff_exists.mp hbefore
  exact Int.le_trans (hsound.numbered.rooms number (hsound.describes.contains_room hstate))
    (hsound.precedes_take hlasts.1 step).counted

/-- The room that a number has is the same at every later time at which the number has one. -/
theorem Sound.akin_follow (hsound : venue.Sound) {steps : List Step} (hlasts : venue.Lasts steps)
    {number : RoomId} {state later : RoomState}
    (hstate : venue.lobby.states.get? number = some state)
    (hlater : (venue.follow steps).lobby.states.get? number = some later) : state.Akin later := by
  rcases (hsound.precedes_follow hlasts).rooms number later hlater with
    ⟨older, holder, hakin⟩ | hnew
  · have heq := holder.symm.trans hstate
    cases heq
    exact hakin
  · have hold := hsound.numbered.rooms number (hsound.describes.contains_room hstate)
    exact absurd hnew (Int.not_lt.mpr hold)

/-- Every reachable venue comes from one in which no number was handed out. -/
theorem Reachable.precedes (hreach : venue.Reachable) :
    ∃ rules now, (opening rules now .empty).core.Precedes venue.core := by
  obtain ⟨rules, now, steps, hlasts, rfl⟩ := hreach
  exact ⟨rules, now, (Sound.opening rules now).precedes_follow hlasts⟩

/-- Users have positive numbers. -/
theorem Reachable.user_pos (hreach : venue.Reachable) {user : UserId}
    (huser : venue.store.users.contains user = true) : 0 < user := by
  obtain ⟨rules, now, hprecedes⟩ := hreach.precedes
  exact (hprecedes.users user huser).resolve_left Bool.false_ne_true

/-- Rooms have positive numbers. -/
theorem Reachable.room_pos (hreach : venue.Reachable) {number : RoomId} {state : RoomState}
    (hstate : venue.lobby.states.get? number = some state) : 0 < number := by
  obtain ⟨rules, now, hprecedes⟩ := hreach.precedes
  rcases hprecedes.rooms number state hstate with ⟨older, holder, -⟩ | hnew
  · cases holder
  · exact hnew

end Venue

end WatchParty
