/-
# Sound rooms and how they change

A room that is open is *sound*: somebody is there, the owner is among them and is the one in the
stored row, everybody's account is at hand and nobody else's, and the clock is the one that was
stored. This module supplies the few changes that a room undergoes while it stays open, shows that
each keeps it sound, and shows that a sound room is made again from its row and its participants.

How operations come to make these changes is not said here.
-/

import WatchParty.Proofs.Clock
import WatchParty.Proofs.IdMap
import WatchParty.Proofs.Presence
import WatchParty.Room

namespace WatchParty

/-- A member as the roster has it. -/
def Member.participant (member : Member) : Participant :=
  { user := member.user.id, joinedAt := member.joinedAt }

namespace RoomState

/-- The state of an open room. -/
structure Sound (state : RoomState) : Prop where
  live : state.deleted = false
  presence : state.presence.Sound
  /-- The owner of the stored row is the one who owns the room. -/
  owner : state.presence.owner = some state.data.owner
  /-- The accounts at hand are those of the participants. -/
  accounts : ∀ user, state.users.contains user = state.presence.contains user
  /-- Accounts are kept under their own number. -/
  named : ∀ user account, state.users.get? user = some account → account.id = user
  clock : state.clock.Sound
  /-- The clock is bounded by the content's duration. -/
  duration : Clock.usableDuration state.content.duration = state.clock.duration
  /-- The stored playback is that of the clock. -/
  playback : state.data.playback = state.clock.save

/-- The state of a new room, with its owner as the only participant. -/
def found (data : RoomRecord) (content : Content) (owner : User) : RoomState :=
  { data
    content
    clock := data.playback.toClock content.duration
    presence := { roster := [{ user := owner.id, joinedAt := data.createdAt }]
                  owner := some owner.id }
    users := IdMap.empty.insert owner.id owner
    deleted := false }

/-- The state after a user has come in. -/
def welcome (state : RoomState) (user : User) (now : Instant) : RoomState :=
  { state with
    presence := (state.presence.join user.id now).2
    users := state.users.insert user.id user }

/-- The state after a user has gone. -/
def release (state : RoomState) (user : UserId) : RoomState :=
  let presence := (state.presence.leave user).2
  { state with
    data := { state.data with owner := presence.owner.getD state.data.owner }
    presence
    users := state.users.erase user
    deleted := presence.roster.isEmpty }

/-- The state after its clock has changed. -/
def steer (state : RoomState) (clock : Clock) : RoomState :=
  { state with data := { state.data with playback := clock.save }, clock }

variable {state : RoomState} {user : UserId}

/-- A room is deleted when its last participant leaves. -/
theorem deleted_release :
    (state.release user).deleted = true ↔ state.presence.roster.dismiss user = [] := by
  show (state.presence.leave user).2.roster.isEmpty = true ↔ _
  rw [Presence.leave_roster, List.isEmpty_iff]

namespace Sound

theorem found {data : RoomRecord} {content : Content} {owner : User}
    (howner : data.owner = owner.id)
    (hplayback : data.playback = (data.playback.toClock content.duration).save) :
    (RoomState.found data content owner).Sound where
  live := rfl
  presence :=
    { roster := ⟨List.pairwise_singleton _ _, List.pairwise_singleton _ _⟩
      vacant := fun h => nomatch h
      owner_present := fun user h => Roster.has_iff.mpr ⟨_, List.mem_singleton_self _, by
        simpa [RoomState.found] using h⟩ }
  owner := congrArg some howner.symm
  accounts := fun user => by
    show (IdMap.empty.insert owner.id owner).contains user =
      Roster.has [{ user := owner.id, joinedAt := data.createdAt }] user
    by_cases h : user = owner.id
    · simp [Roster.has, Roster.find?, h]
    · simp [Roster.has, Roster.find?, IdMap.contains_eq_isSome, h, Ne.symm h]
  named := fun user account h => by
    rcases IdMap.of_get?_insert h with ⟨rfl, rfl⟩ | hold
    · rfl
    · cases hold
  clock := SavedClock.toClock_sound _ _
  duration := rfl
  playback := hplayback

theorem welcome (hsound : state.Sound) (user : User) (now : Instant) :
    (state.welcome user now).Sound where
  live := hsound.live
  presence := hsound.presence.join user.id now
  owner := hsound.presence.join_owner hsound.owner
  accounts := fun other => by
    apply Bool.eq_iff_iff.mpr
    show (state.users.insert user.id user).contains other = true ↔
      (state.presence.join user.id now).2.contains other = true
    rw [Presence.contains_join, ← hsound.accounts]
    simp
  named := fun other account h => by
    rcases IdMap.of_get?_insert h with ⟨rfl, rfl⟩ | hold
    · rfl
    · exact hsound.named other account hold
  clock := hsound.clock
  duration := hsound.duration
  playback := hsound.playback

theorem release (hsound : state.Sound) (hothers : state.presence.roster.dismiss user ≠ []) :
    (state.release user).Sound where
  live := Bool.eq_false_iff.mpr (mt deleted_release.mp hothers)
  presence := hsound.presence.leave user
  owner := by
    show (state.presence.leave user).2.owner =
      some ((state.presence.leave user).2.owner.getD state.data.owner)
    cases howner : (state.presence.leave user).2.owner with
    | none =>
        have hempty := (hsound.presence.leave user).vacant howner
        rw [Presence.leave_roster] at hempty
        exact absurd hempty hothers
    | some owner => rfl
  accounts := fun other => by
    apply Bool.eq_iff_iff.mpr
    show (state.users.erase user).contains other = true ↔
      (state.presence.leave user).2.contains other = true
    rw [Presence.contains_leave, ← hsound.accounts]
    simp [and_comm]
  named := fun other account h => hsound.named other account (IdMap.of_get?_erase h)
  clock := hsound.clock
  duration := hsound.duration
  playback := hsound.playback

theorem steer (hsound : state.Sound) {clock : Clock} (hclock : clock.Sound)
    (hduration : clock.duration = state.clock.duration) : (state.steer clock).Sound where
  live := hsound.live
  presence := hsound.presence
  owner := hsound.owner
  accounts := hsound.accounts
  named := hsound.named
  clock := hclock
  duration := hsound.duration.trans hduration.symm
  playback := rfl

/-- Steering by the clock that there is changes nothing. -/
theorem steer_self (hsound : state.Sound) : state.steer state.clock = state := by
  rw [RoomState.steer, ← hsound.playback]

/-- The row of a room that somebody has left names the heir, if there is one, as the owner. -/
theorem release_data (hsound : state.Sound) (hmember : state.presence.contains user = true)
    (hothers : state.presence.roster.dismiss user ≠ []) :
    (state.release user).data =
      { state.data with owner := (state.presence.heir user).getD state.data.owner } := by
  rw [RoomState.release, Presence.leave_of_others hmember hothers, hsound.owner]
  cases state.presence.heir user <;> rfl

/-- Somebody is in an open room. -/
theorem roster_ne_nil (hsound : state.Sound) : state.presence.roster ≠ [] := by
  obtain ⟨participant, hmem, -⟩ :=
    Roster.has_iff.mp (hsound.presence.owner_present _ hsound.owner)
  exact List.ne_nil_of_mem hmem

/-- The account of a participant is at hand. -/
theorem exists_account (hsound : state.Sound) (hpresent : state.presence.contains user = true) :
    ∃ account, state.users.get? user = some account ∧ account.id = user := by
  rw [← hsound.accounts, IdMap.contains_eq_isSome] at hpresent
  obtain ⟨account, haccount⟩ := Option.isSome_iff_exists.mp hpresent
  exact ⟨account, haccount, hsound.named user account haccount⟩

/-- The members of a sound room are its participants: nobody is dropped for want of an account. -/
theorem members_participants (hsound : state.Sound) :
    state.members.map Member.participant = state.presence.roster := by
  have hall : ∀ participant ∈ state.presence.roster,
      ∃ account, state.users.get? participant.user = some account ∧
        account.id = participant.user :=
    fun participant hmem => hsound.exists_account (Roster.has_of_mem hmem)
  unfold members
  generalize state.presence.roster = roster at hall
  induction roster with
  | nil => rfl
  | cons head rest ih =>
      obtain ⟨account, haccount, hid⟩ := hall head List.mem_cons_self
      rw [List.filterMap_cons_some (by rw [haccount]; rfl), List.map_cons,
        ih fun participant hmem => hall participant (List.mem_cons_of_mem _ hmem)]
      simp [Member.participant, hid]

/-- A member owns the room exactly if it is the owner of the stored row. -/
theorem isOwner_eq (hsound : state.Sound) {member : Member} (hmem : member ∈ state.members) :
    member.isOwner = decide (member.user.id = state.data.owner) := by
  obtain ⟨participant, hparticipant, hmember⟩ := List.mem_filterMap.mp hmem
  obtain ⟨account, haccount, rfl⟩ := Option.map_eq_some_iff.mp hmember
  have hid := hsound.named _ _ haccount
  show (state.presence.owner == some participant.user) = decide (account.id = state.data.owner)
  rw [hsound.owner, hid, BEq.comm]
  exact Option.some_beq_some

/-- Readers find a user among the members exactly if the user is present. -/
theorem any_members (hsound : state.Sound) (user : UserId) :
    (state.members.any fun member => decide (member.user.id = user)) =
      state.presence.contains user := by
  have hany : (state.members.any fun member => decide (member.user.id = user)) =
      (state.members.map Member.participant).any fun participant =>
        decide (participant.user = user) := by
    rw [List.any_map]
    rfl
  rw [hany, hsound.members_participants]
  exact (List.isSome_find?).symm

end Sound

end RoomState

namespace Room

/-- The room of a state that everybody sees. -/
def ofState (serial : Nat) (state : RoomState) : Room := { serial, state, view := state.view }

/-- A sound room is made again from its row, its content, and its participants with their
accounts. -/
theorem ofRecord_eq_ofState {state : RoomState} (hsound : state.Sound) (serial : Nat)
    {members : List (Participant × User)} (hroster : members.map (·.1) = state.presence.roster)
    (haccounts : ∀ member ∈ members, state.users.get? member.1.user = some member.2) :
    ofRecord serial state.data state.content members = ofState serial state := by
  have hpresence : Presence.restore (members.map (·.1)) state.data.owner = state.presence := by
    rw [hroster, hsound.presence.restore_eq_self hsound.owner]
  have hclock : state.data.playback.toClock state.content.duration = state.clock := by
    rw [hsound.playback, hsound.clock.toClock_save hsound.duration]
  have husers :
      IdMap.ofList (members.map fun member => (member.2.id, member.2)) = state.users := by
    have hid : ∀ member ∈ members, member.2.id = member.1.user := fun member hmem =>
      hsound.named _ _ (haccounts member hmem)
    have hkeys : (members.map fun member => member.2.id) = state.presence.roster.map (·.user) := by
      rw [← hroster, List.map_map]
      exact List.map_congr_left hid
    have hagree : ∀ entry ∈ members.map fun member => (member.2.id, member.2),
        state.users.get? entry.1 = some entry.2 := by
      intro entry hentry
      obtain ⟨member, hmem, rfl⟩ := List.mem_map.mp hentry
      rw [hid member hmem]
      exact haccounts member hmem
    apply IdMap.eq_of_get?_eq
    intro user
    rw [IdMap.get?_ofList hagree, List.map_map]
    show (if user ∈ (members.map fun member => member.2.id) then _ else _) = _
    rw [hkeys]
    split
    · rfl
    · rename_i habsent
      have hnone : state.users.contains user = false := by
        rw [hsound.accounts]
        refine Bool.eq_false_iff.mpr fun h => habsent ?_
        obtain ⟨participant, hmem, rfl⟩ := Roster.has_iff.mp h
        exact List.mem_map_of_mem hmem
      exact (Option.isNone_iff_eq_none.mp (by simpa [IdMap.contains_eq_isSome] using hnone)).symm
  have howner : (state.presence.owner.getD state.data.owner) = state.data.owner := by
    rw [hsound.owner]
    rfl
  simp only [ofRecord, hpresence, hclock, husers, howner]
  have hlive : ({ state with deleted := false } : RoomState) = state := by rw [← hsound.live]
  exact congrArg (ofState serial) hlive

end Room

end WatchParty
