/-
# Who owns a room

A room has one owner, and whoever looks is shown the same one: in the room, in its row, in a
snapshot and in the flags of the members. Ownership passes on only when the owner leaves and others
remain, and then to the one of them who has been there longest. So, as long as the time is never set
back, nobody was there before the owner.

Rows keep the instants at which participants joined. That is why starting over makes no difference.
-/

import WatchParty.Proofs.Course
import WatchParty.Proofs.Stream

namespace WatchParty

open Operation

namespace Member

/-- A user is among the members, and is the one who is flagged as the owner. -/
structure OwnedBy (members : List Member) (owner : UserId) : Prop where
  present : ∃ member ∈ members, member.user.id = owner
  flagged : ∀ member ∈ members, member.isOwner = true ↔ member.user.id = owner

end Member

/-- Nobody else on a roster is senior to a participant. -/
structure Roster.Eldest (roster : Roster) (participant : Participant) : Prop where
  present : participant ∈ roster
  senior : ∀ other ∈ roster, other.user ≠ participant.user → participant.Senior other

namespace Venue

/-- A user owns a live room, wherever one looks. -/
structure OwnedBy (venue : Venue) (number : RoomId) (owner : UserId) : Prop where
  room : ∃ room, venue.lobby.liveRoom? number = some room ∧
    room.state.presence.owner = some owner
  row : ∃ row, venue.store.rooms.get? number = some row ∧ row.owner = owner
  snapshot : ∃ shown, (venue.run (Venue.snapshot number)).1 = .ok shown ∧
    shown.owner = owner ∧ Member.OwnedBy shown.members owner

/-- The owner of a room has left, and the eldest of those who remain owns it now. Whoever listens to
the room is told. -/
structure Succeeds (venue : Venue) (step : Step) (number : RoomId) (owner heir : UserId) :
    Prop where
  leaves : step.call? venue = some (.leave number owner)
  granted : (venue.run (Call.leave number owner).operation).1 = .ok .left
  remaining : (step.take venue).roster number = (venue.roster number).dismiss owner
  eldest : ∃ participant, participant.user = heir ∧
    ((step.take venue).roster number).Eldest participant
  owned : (step.take venue).OwnedBy number heir
  told : ∃ members instant,
    step.Owes venue number [.presence number members (some heir) false instant] ∧
      Member.OwnedBy members heir

/-- What becomes of the ownership of a room in a step. -/
inductive Ownership (venue : Venue) (step : Step) (number : RoomId) (owner : UserId) : Prop where
  /-- The owner does not leave, or is not let go, and goes on to own the room. -/
  | kept
      (hstays : step.call? venue = some (.leave number owner) →
        (venue.run (Call.leave number owner).operation).1 ≠ .ok .left)
      (howned : (step.take venue).OwnedBy number owner)
  | passed {heir : UserId} (hsucceeds : venue.Succeeds step number owner heir)
  /-- The owner was the last one, and leaves no room. -/
  | ended (hleaves : step.call? venue = some (.leave number owner))
      (hgranted : (venue.run (Call.leave number owner).operation).1 = .ok .left)
      (halone : (venue.roster number).dismiss owner = [])
      (hgone : (step.take venue).lobby.liveRoom? number = none)

end Venue

namespace RoomState

variable {state : RoomState} {user owner : UserId}

theorem Sound.ownedBy (hsound : state.Sound) :
    Member.OwnedBy state.members state.data.owner := by
  constructor
  · have hpresent := hsound.presence.owner_present _ hsound.owner
    obtain ⟨member, hmem, howner⟩ := List.any_eq_true.mp
      ((hsound.any_members state.data.owner).trans hpresent)
    exact ⟨member, hmem, of_decide_eq_true howner⟩
  · intro member hmem
    rw [hsound.isOwner_eq hmem]
    exact decide_eq_true_iff

/-- The eldest of those who remain takes over from the owner. -/
theorem Sound.release_owner (hsound : state.Sound) (howner : state.presence.owner = some user)
    (hothers : state.presence.roster.dismiss user ≠ []) :
    ∃ participant, (state.release user).presence.owner = some participant.user ∧
      (state.release user).presence.roster.Eldest participant := by
  obtain ⟨head, rest, hroster⟩ := List.exists_cons_of_ne_nil hothers
  have hordered := (hsound.presence.roster.dismiss user).ordered
  rw [hroster] at hordered
  have hleft : (state.release user).presence.roster = head :: rest :=
    Presence.leave_roster.trans hroster
  refine ⟨head, ?_, ?_⟩
  · show (state.presence.leave user).2.owner = some head.user
    rw [hsound.presence.leave_owner, if_pos howner, hroster]
    rfl
  · rw [hleft]
    refine ⟨List.mem_cons_self, fun other hother hne => ?_⟩
    rcases List.mem_cons.mp hother with rfl | hrest
    · exact absurd rfl hne
    · exact (List.pairwise_cons.mp hordered).1 other hrest

/-- The owner is the last to leave. -/
theorem Sound.owner_eq_of_last (hsound : state.Sound) (howner : state.presence.owner = some owner)
    (hlast : state.presence.roster.dismiss user = []) : owner = user :=
  Roster.dismiss_eq_nil_iff.mp hlast owner (hsound.presence.owner_present _ howner)

end RoomState

namespace Venue.Sound

variable {venue : Venue} (hsound : venue.Sound) {number : RoomId} {state : RoomState}
  {owner : UserId}

include hsound

/-- Everybody is shown the owner that the state of the room has. -/
theorem ownedBy_iff : venue.OwnedBy number owner ↔
    ∃ state, venue.lobby.states.get? number = some state ∧ state.presence.owner = some owner := by
  constructor
  · rintro ⟨⟨room, hroom, howner⟩, -, -⟩
    rw [hsound.liveRoom?_eq] at hroom
    exact ⟨room.state, Lobby.states_get? hroom, howner⟩
  · rintro ⟨state, hstate, howner⟩
    obtain ⟨room, hroom, rfl⟩ := Lobby.exists_room hstate
    have hroomSound := (hsound.backed hroom).sound
    obtain rfl : room.state.data.owner = owner :=
      Option.some.inj (hroomSound.owner.symm.trans howner)
    refine ⟨⟨room, (hsound.liveRoom?_eq number).trans hroom, howner⟩,
      ⟨room.state.data, hsound.describes.get?_rooms hstate, rfl⟩,
      ⟨_, hsound.snapshot_fst hroom, rfl, hroomSound.ownedBy⟩⟩

/-- A member who is let go is not in the room any more. -/
theorem not_contains_of_left (hleft : venue.store.lastId < maxIdentifier) {step : Step}
    {user : UserId} (hcall : step.call? venue = some (.leave number user))
    (hanswer : (venue.run (Call.leave number user).operation).1 = .ok .left)
    (hstate : venue.lobby.states.get? number = some state)
    (hmember : state.presence.contains user = true) {later : RoomState}
    (hlater : (step.take venue).lobby.states.get? number = some later) :
    later.presence.contains user = false := by
  cases hsound.take_call hleft hcall with
  | refused herror _ => cases hanswer.symm.trans herror
  | idle _ hidle _ =>
      obtain ⟨current, hcurrent, habsent⟩ := hidle
      cases hcurrent.symm.trans hstate
      rw [hmember] at habsent
      cases habsent
  | changed _ hchange =>
      generalize hcore : (step.take venue).core = core at hchange
      have hstates : (step.take venue).lobby.states = core.states := congrArg Core.states hcore
      rw [hstates] at hlater
      cases hchange with
      | depart hcurrent hmember' hothers hnow =>
          cases hcurrent.symm.trans hstate
          rw [IdMap.get?_insert_self] at hlater
          cases hlater
          apply Bool.eq_false_iff.mpr
          exact fun hstill => (Presence.contains_leave.mp hstill).2 rfl
      | vacate hcurrent hmember' hlast hnow =>
          rw [IdMap.get?_erase, if_pos rfl] at hlater
          cases hlater

/-- A room whose owner does not leave stays with its owner. -/
theorem kept (hleft : venue.store.lastId < maxIdentifier) {step : Step}
    (hstate : venue.lobby.states.get? number = some state)
    (howner : state.presence.owner = some owner) {later : RoomState}
    (hlater : (step.take venue).lobby.states.get? number = some later)
    (hsame : later.presence.owner = some owner) : venue.Ownership step number owner := by
  have hnext := hsound.take hleft step
  refine .kept (fun hcall hanswer => ?_) (hnext.ownedBy_iff.mpr ⟨later, hlater, hsame⟩)
  have hmember := (hsound.describes.backed _ _ hstate).sound.presence.owner_present _ howner
  have hpresent := (hnext.describes.backed _ _ hlater).sound.presence.owner_present _ hsame
  rw [hsound.not_contains_of_left hleft hcall hanswer hstate hmember hlater] at hpresent
  cases hpresent

/-- Whoever is let go is told nothing else. -/
theorem answer_leave (hleft : venue.store.lastId < maxIdentifier) {user : UserId} {answer : Answer}
    (hanswer : (venue.run (Call.leave number user).operation).1 = .ok answer) : answer = .left := by
  cases hsound.reply hleft hanswer
  rfl

/-- An owner who leaves others behind is succeeded by the eldest of them. -/
theorem succeeds (hleft : venue.store.lastId < maxIdentifier) {step : Step} {now : Instant}
    (hstate : venue.lobby.states.get? number = some state)
    (howner : state.presence.owner = some owner)
    (hcall : step.call? venue = some (.leave number owner))
    (hgranted : (venue.run (Call.leave number owner).operation).1 = .ok .left)
    (hothers : state.presence.roster.dismiss owner ≠ [])
    (hlater : (step.take venue).lobby.states.get? number = some (state.release owner))
    (howes : step.Owes venue number [(state.release owner).presenceEvent now]) :
    ∃ heir, venue.Succeeds step number owner heir := by
  have hnext := hsound.take hleft step
  have hbacked := hsound.describes.backed _ _ hstate
  have hlaterSound := (hnext.describes.backed _ _ hlater).sound
  obtain ⟨heir, hheir, heldest⟩ := hbacked.sound.release_owner howner hothers
  refine ⟨heir.user, hcall, hgranted, ?_, ⟨heir, rfl, ?_⟩, ?_,
    ⟨(state.release owner).members, now, ?_, ?_⟩⟩
  · rw [hnext.roster_eq hlater, hsound.roster_eq hstate]
    exact Presence.leave_roster
  · rw [hnext.roster_eq hlater]
    exact heldest
  · exact hnext.ownedBy_iff.mpr ⟨_, hlater, hheir⟩
  · rw [RoomState.presenceEvent, hheir, hlaterSound.live] at howes
    have hid : (state.release owner).data.id = number := hbacked.numbered
    rwa [hid] at howes
  · obtain hrow := Option.some.inj (hlaterSound.owner.symm.trans hheir)
    rw [← hrow]
    exact hlaterSound.ownedBy

/-- Every step leaves the ownership of a room, or passes it on, or is the end of the room. -/
theorem ownership (hleft : venue.store.lastId < maxIdentifier) (step : Step)
    (howned : venue.OwnedBy number owner) : venue.Ownership step number owner := by
  have hnext := hsound.take hleft step
  obtain ⟨state, hstate, howner⟩ := hsound.ownedBy_iff.mp howned
  have hroom := (hsound.describes.backed _ _ hstate).sound
  cases hsound.course hleft step hstate with
  | undisturbed hlater _ _ => exact hsound.kept hleft hstate howner hlater howner
  | affected hcall hanswer haffects hlater hhistory howes =>
      cases haffects with
      | enter huser habsent hnow =>
          refine hsound.kept hleft hstate howner hlater ?_
          obtain rfl := Option.some.inj (hroom.owner.symm.trans howner)
          exact hroom.presence.join_owner hroom.owner
      | @depart user hmember hothers now hnow =>
          by_cases huser : state.presence.owner = some user
          · obtain rfl := Option.some.inj (howner.symm.trans huser)
            obtain rfl := hsound.answer_leave hleft hanswer
            obtain ⟨heir, hsucceeds⟩ :=
              hsound.succeeds hleft hstate howner hcall hanswer hothers hlater howes
            exact .passed hsucceeds
          · refine hsound.kept hleft hstate howner hlater ?_
            show (state.presence.leave user).2.owner = some owner
            rw [hroom.presence.leave_owner, if_neg huser, howner]
      | @vacate user hmember hlast now hnow =>
          obtain rfl := hroom.owner_eq_of_last howner hlast
          obtain rfl := hsound.answer_leave hleft hanswer
          refine .ended hcall hanswer ?_ (hnext.liveRoom?_eq_none.mpr hlater)
          rw [hsound.roster_eq hstate]
          exact hlast
      | steer hmember hmay hnow command hclock =>
          exact hsound.kept hleft hstate howner hlater howner
      | talk hmember htext hroom' hsender hcontent hnow =>
          exact hsound.kept hleft hstate howner hlater howner

end Venue.Sound

/-- At an instant, nobody in a room will have joined later than now, or joined before the owner. -/
structure RoomState.Timely (state : RoomState) (now : Instant) : Prop where
  joined : ∀ participant ∈ state.presence.roster,
    participant.joinedAt ≤ state.clock.noEarlier now
  owner : ∀ owner ∈ state.presence.roster, state.presence.owner = some owner.user →
    ∀ other ∈ state.presence.roster, owner.joinedAt ≤ other.joinedAt

namespace RoomState.Timely

variable {state : RoomState} {now : Instant}

theorem found (data : RoomRecord) (content : Content) (owner : User)
    (hnow : data.createdAt ≤ now) : (RoomState.found data content owner).Timely now where
  joined := by
    intro participant hmem
    rw [List.mem_singleton.mp hmem]
    exact Int.le_trans hnow (Int.le_max_left _ _)
  owner := by
    intro owner howner _ other hother
    obtain rfl := List.mem_singleton.mp howner
    obtain rfl := List.mem_singleton.mp hother
    exact Int.le_refl _

/-- Time may go on. -/
theorem mono (htimely : state.Timely now) {then' : Instant} (hnow : now ≤ then') :
    state.Timely then' where
  joined := fun participant hmem =>
    Int.le_trans (htimely.joined participant hmem)
      (Clock.noEarlier_mono (Int.le_refl _) hnow)
  owner := htimely.owner

theorem welcome (hsound : state.Sound) (htimely : state.Timely now) {user : User}
    (habsent : state.presence.contains user.id = false) :
    (state.welcome user (state.clock.noEarlier now)).Timely now := by
  have hroster : ∀ participant,
      participant ∈ (state.welcome user (state.clock.noEarlier now)).presence.roster →
        participant = { user := user.id, joinedAt := state.clock.noEarlier now } ∨
          participant ∈ state.presence.roster := by
    intro participant hmem
    rw [RoomState.welcome, Presence.join_of_not_contains habsent] at hmem
    exact (Roster.mem_enrol.mp hmem).imp_right (·.1)
  have howner : (state.welcome user (state.clock.noEarlier now)).presence.owner =
      state.presence.owner := (hsound.presence.join_owner hsound.owner).trans hsound.owner.symm
  constructor
  · intro participant hmem
    rcases hroster participant hmem with rfl | hold
    · exact Int.le_refl _
    · exact htimely.joined participant hold
  · intro owner hmem howns other hother
    rw [howner] at howns
    rcases hroster owner hmem with rfl | hold
    · -- The owner was there before, and so is not the newcomer.
      have hpresent := hsound.presence.owner_present _ howns
      rw [habsent] at hpresent
      cases hpresent
    · rcases hroster other hother with rfl | hold'
      · exact htimely.joined owner hold
      · exact htimely.owner owner hold howns other hold'

theorem release (hsound : state.Sound) (htimely : state.Timely now) {user : UserId}
    (hothers : state.presence.roster.dismiss user ≠ []) : (state.release user).Timely now := by
  have hleft : (state.release user).presence.roster = state.presence.roster.dismiss user :=
    Presence.leave_roster
  have hroster : ∀ participant, participant ∈ (state.release user).presence.roster →
      participant ∈ state.presence.roster := by
    intro participant hmem
    rw [hleft] at hmem
    exact (Roster.mem_dismiss.mp hmem).1
  constructor
  · exact fun participant hmem => htimely.joined participant (hroster participant hmem)
  · intro owner hmem howns other hother
    by_cases huser : state.presence.owner = some user
    · -- A new owner is senior to the others by the order of the roster.
      obtain ⟨heir, hheir, heldest⟩ := hsound.release_owner huser hothers
      have hsame : owner = heir := (hsound.presence.leave user).roster.eq_of_user_eq hmem
        heldest.present (Option.some.inj (howns.symm.trans hheir))
      subst hsame
      by_cases huser' : other.user = owner.user
      · obtain rfl := (hsound.presence.leave user).roster.eq_of_user_eq hother hmem huser'
        exact Int.le_refl _
      · rcases heldest.senior other hother huser' with hearlier | ⟨hequal, -⟩
        · exact Int.le_of_lt hearlier
        · exact Int.le_of_eq hequal
    · have hstays : (state.release user).presence.owner = state.presence.owner :=
        hsound.presence.leave_owner.trans (if_neg huser)
      rw [hstays] at howns
      exact htimely.owner owner (hroster owner hmem) howns other (hroster other hother)

end RoomState.Timely

namespace Venue

/-- Nobody in any room joined before its owner. -/
def Timely (venue : Venue) : Prop :=
  ∀ number state, venue.lobby.states.get? number = some state → state.Timely venue.now

/-- The time is never set back in a run. -/
def Forward (venue : Venue) : List Step → Prop
  | [] => True
  | step :: rest => venue.now ≤ (step.take venue).now ∧ (step.take venue).Forward rest

instance decidableForward : (venue : Venue) → (steps : List Step) → Decidable (venue.Forward steps)
  | _, [] => inferInstanceAs (Decidable True)
  | venue, step :: rest =>
    have := decidableForward (step.take venue) rest
    inferInstanceAs (Decidable (_ ∧ _))

variable {venue : Venue}

theorem Sound.timely_take (hsound : venue.Sound) (hleft : venue.store.lastId < maxIdentifier)
    (htimely : venue.Timely) {step : Step} (hforward : venue.now ≤ (step.take venue).now) :
    (step.take venue).Timely := by
  intro number later hlater
  apply RoomState.Timely.mono _ hforward
  cases hstate : venue.lobby.states.get? number with
  | none =>
      obtain ⟨user, content, title, -, owner, shown, rfl⟩ := hsound.founded hleft hstate hlater
      exact .found _ shown owner (Int.le_refl _)
  | some state =>
      have hroom := (hsound.describes.backed _ _ hstate).sound
      have hbefore := htimely number state hstate
      cases hsound.course hleft step hstate with
      | undisturbed hsame _ _ =>
          cases hlater.symm.trans hsame
          exact hbefore
      | affected _ _ haffects hbecomes _ _ =>
          cases haffects with
          | enter huser habsent hnow =>
              cases hlater.symm.trans hbecomes
              subst hnow
              exact hbefore.welcome hroom habsent
          | depart hmember hothers hnow =>
              cases hlater.symm.trans hbecomes
              exact hbefore.release hroom hothers
          | vacate hmember hlast hnow => cases hlater.symm.trans hbecomes
          | steer hmember hmay hnow command hclock =>
              cases hlater.symm.trans hbecomes
              subst hclock
              exact ⟨fun participant hmem => Int.le_trans (hbefore.joined participant hmem)
                (Clock.noEarlier_mono (Clock.reference_le_apply _ _ _) (Int.le_refl _)),
                hbefore.owner⟩
          | talk =>
              cases hlater.symm.trans hbecomes
              exact hbefore

theorem Sound.timely_follow (hsound : venue.Sound) (htimely : venue.Timely) {steps : List Step}
    (hlasts : venue.Lasts steps) (hforward : venue.Forward steps) :
    (venue.follow steps).Timely := by
  induction steps generalizing venue with
  | nil => exact htimely
  | cons step rest ih =>
      exact ih (hsound.take hlasts.1 step) (hsound.timely_take hlasts.1 htimely hforward.1)
        hlasts.2 hforward.2

/-- In every run, every live room has one owner wherever one looks, who changes only by leaving
others behind, to the eldest of them. If the time is never set back, nobody who is there has been
there longer than the owner. -/
theorem ownership_of_run (rules : Rules) (now : Instant) (steps : List Step)
    (hlasts : (opening rules now .empty).Lasts steps) :
    let venue := (opening rules now .empty).follow steps
    (∀ number room, venue.lobby.liveRoom? number = some room →
      ∃ owner, venue.OwnedBy number owner) ∧
    (∀ step number owner, venue.OwnedBy number owner → venue.Ownership step number owner) ∧
    ((opening rules now .empty).Forward steps →
      ∀ number room, venue.lobby.liveRoom? number = some room →
        ∀ owner ∈ room.state.presence.roster, room.state.presence.owner = some owner.user →
          ∀ other ∈ room.state.presence.roster, owner.joinedAt ≤ other.joinedAt) := by
  intro venue
  have hopening := Sound.opening rules now
  have hsound : venue.Sound := hopening.follow hlasts
  refine ⟨fun number room hroom => ?_, fun step number owner howned =>
    hsound.ownership hlasts.follow step howned, fun hforward number room hroom => ?_⟩
  · rw [hsound.liveRoom?_eq] at hroom
    exact ⟨_, hsound.ownedBy_iff.mpr
      ⟨_, Lobby.states_get? hroom, (hsound.backed hroom).sound.owner⟩⟩
  · rw [hsound.liveRoom?_eq] at hroom
    have hbegun : (opening rules now .empty).Timely := fun _ _ hstate => nomatch hstate
    have htimely := hopening.timely_follow hbegun hlasts hforward
    exact (htimely number _ (Lobby.states_get? hroom)).owner

/-- Three users meet, one after the other. When the owner leaves, the second one takes over. -/
theorem three_ownership_of_run :
    let steps : List Step :=
      [.alter (.addUser "ada" "Ada"), .alter (.addUser "bob" "Bob"), .alter (.addUser "cy" "Cy"),
        .alter (.addContent "A Film" none), .ask (.createRoom 1 4 none), .alter (.setTime 7),
        .ask (.join 5 2), .alter (.setTime 9), .ask (.join 5 3)]
    let venue := (opening {} 0 .empty).follow steps
    let leaving := Step.ask (.leave 5 1)
    (opening {} 0 .empty).Lasts steps ∧ (opening {} 0 .empty).Forward steps ∧
      venue.Succeeds leaving 5 1 2 ∧
      ∃ room, venue.lobby.liveRoom? 5 = some room ∧
        ∀ other ∈ room.state.presence.roster, 0 ≤ other.joinedAt := by
  intro steps venue leaving
  have hlasts : (opening {} 0 .empty).Lasts steps := by decide +kernel
  have hforward : (opening {} 0 .empty).Forward steps := by decide +kernel
  obtain ⟨howners, hsteps, hfirst⟩ := ownership_of_run {} 0 steps hlasts
  have hroom : (venue.lobby.liveRoom? 5).isSome = true := by decide +kernel
  obtain ⟨room, hroom⟩ := Option.isSome_iff_exists.mp hroom
  have hroster : (venue.lobby.liveRoom? 5).map (·.state.presence) =
      some { roster := [⟨1, 0⟩, ⟨2, 7⟩, ⟨3, 9⟩], owner := some 1 } := by decide +kernel
  have hafter : ((leaving.take venue).lobby.liveRoom? 5).map (·.state.presence.owner) =
      some (some 2) := by decide +kernel
  rw [hroom, Option.map_some, Option.some.injEq] at hroster
  refine ⟨hlasts, hforward, ?_, room, hroom, ?_⟩
  · obtain ⟨owner, howned⟩ := howners 5 room hroom
    have howner : owner = 1 := by
      obtain ⟨found, hfound, howner⟩ := howned.room
      cases hroom.symm.trans hfound
      rw [hroster] at howner
      exact (Option.some.inj howner).symm
    subst howner
    cases hsteps leaving 5 1 howned with
    | kept hstays _ => exact absurd (by decide +kernel) (hstays rfl)
    | ended _ _ halone _ => exact absurd halone (by decide +kernel)
    | passed hsucceeds =>
        obtain ⟨left, hleft, hheir⟩ := hsucceeds.owned.room
        rw [hleft, Option.map_some, hheir, Option.some.injEq, Option.some.injEq] at hafter
        rwa [hafter] at hsucceeds
  · have heldest := hfirst hforward 5 room hroom ⟨1, 0⟩ (by rw [hroster]; exact .head _)
      (by rw [hroster])
    exact heldest

end Venue

end WatchParty
