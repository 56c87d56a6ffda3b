/-
# The time of a room

A room has a time of its own: the reference of its clock, which the server's time may fall behind,
but which never goes back. It is the instant at which the room was created, or else that of the last
playback command that changed the clock, and so the latest of these. Whatever bears an instant and
comes from the room is not of an earlier time.

Commands without effect leave the reference, and so do refused ones. The reference is stored with
the clock, so starting over leaves it, too.
-/

import WatchParty.Proofs.Course
import WatchParty.Proofs.Paging
import WatchParty.Proofs.Stream

namespace WatchParty

open Operation Verdict

/-- The instant that an event names. -/
def RoomEvent.instant : RoomEvent → Instant
  | .presence _ _ _ _ instant => instant
  | .playback _ _ report => report.instant
  | .chat _ message => message.createdAt

namespace Step

/-- The report of a playback command that is granted in a step and changes the clock of a room. -/
def clockMove? (venue : Venue) (number : RoomId) (step : Step) : Option PlaybackReport :=
  match step.answer? venue with
  | some (.applied (.playback room _ report)) =>
    if room = number ∧ (step.take venue).clock? number ≠ venue.clock? number then some report
    else none
  | _ => none

/-- The snapshot that somebody is given in a step. -/
def shown? (venue : Venue) : Step → Option Snapshot
  | .ask call =>
    match (venue.run call.operation).1 with
    | .ok (.snapshot shown) => some shown
    | _ => none
  | .order handle command =>
    match (venue.run (handle.handle command)).1 with
    | .ok (.snapshot shown) => some shown
    | _ => none
  | .say handle text =>
    match (venue.run (handle.handleText text)).1 with
    | .ok (some (.snapshot shown)) => some shown
    | _ => none
  | _ => none

end Step

namespace Venue

/-- The reports of the playback commands that change the clock of a room in some steps. -/
def clockMoves (number : RoomId) : Venue → List Step → List PlaybackReport
  | _, [] => []
  | venue, step :: rest =>
    (step.clockMove? venue number).toList ++ clockMoves number (step.take venue) rest

/-- The time of a room, if one that is not there yet has the time of its creation. -/
def timeOf (venue : Venue) (number : RoomId) (createdAt : Instant) : Instant :=
  ((venue.clock? number).map (·.reference)).getD createdAt

/-- What comes from a room in a step is not of a time before a reference, nor of one before the
reference that the clock has by then. -/
structure OnTime (venue : Venue) (step : Step) (number : RoomId) (reference : Instant) : Prop where
  /-- What is told to those who listen. -/
  events : ∃ events, step.Owes venue number events ∧ ∀ event ∈ events,
    reference ≤ event.instant ∧
      ∀ clock, (step.take venue).clock? number = some clock → clock.reference ≤ event.instant
  /-- A change of the clock is told. -/
  moved : ∀ report, step.clockMove? venue number = some report →
    ∃ user, step.Owes venue number [.playback number user report]
  joined : ∀ participant ∈ (step.take venue).roster number,
    participant ∈ venue.roster number ∨ reference ≤ participant.joinedAt
  messages : ∀ message ∈ (step.take venue).store.history number,
    message ∈ venue.store.history number ∨ reference ≤ message.createdAt

/-- A reference is the time of a live room: it is stored, it is not undercut by that of a later
time, and nothing that comes from the room is of a time before it. -/
structure KeepsTime (venue : Venue) (number : RoomId) (reference : Instant) : Prop where
  stored : (venue.store.rooms.get? number).map (·.playback.updatedAt) = some reference
  onward : ∀ steps, venue.Lasts steps → ∀ clock,
    (venue.follow steps).clock? number = some clock → reference ≤ clock.reference
  onTime : ∀ step, venue.OnTime step number reference
  snapshot : ∀ shown, (venue.run (Venue.snapshot number)).1 = .ok shown →
    reference ≤ shown.playback.instant
  listing : ∀ now query, ∀ shown ∈ Listing.all venue.lobby now query, shown.id = number →
    reference ≤ shown.playback.instant

variable {venue : Venue} {number : RoomId} {state later : RoomState} {step : Step}

namespace Sound

variable (hsound : venue.Sound)

include hsound

variable (hleft : venue.store.lastId < maxIdentifier)

/-! ## Moving the clock -/

include hleft

/-- Only a room that is there has its clock moved. -/
theorem clockMove?_of_absent (habsent : venue.lobby.states.get? number = none) (step : Step) :
    step.clockMove? venue number = none := by
  rw [Step.clockMove?]
  cases hanswer : step.answer? venue with
  | none => rfl
  | some answer =>
      obtain ⟨call, -, hok⟩ := Step.answer?_eq_some.mp hanswer
      cases hsound.reply hleft hok with
      | applied hstate command hnow =>
          apply if_neg
          rintro ⟨rfl, -⟩
          cases habsent.symm.trans hstate
      | _ => rfl

/-- Only commands on the room move its clock. -/
theorem call_of_clockMove? {report : PlaybackReport}
    (hmove : step.clockMove? venue number = some report) :
    ∃ user command, step.call? venue = some (.control number user command) := by
  rw [Step.clockMove?] at hmove
  cases hanswer : step.answer? venue with
  | none =>
      rw [hanswer] at hmove
      cases hmove
  | some answer =>
      obtain ⟨call, hcall, hok⟩ := Step.answer?_eq_some.mp hanswer
      rw [hanswer] at hmove
      cases hsound.reply hleft hok with
      | applied hstate command hnow =>
          obtain ⟨⟨rfl, -⟩, -⟩ := Option.ite_none_right_eq_some.mp hmove
          exact ⟨_, command, hcall⟩
      | _ => cases hmove

omit hsound hleft

/-- A clock that stays has not been moved. -/
theorem clockMove?_of_same
    (hsame : (step.take venue).clock? number = venue.clock? number) :
    step.clockMove? venue number = none := by
  rw [Step.clockMove?]
  split
  · exact if_neg fun h => h.2 hsame
  · rfl

include hsound hleft

/-- A granted command that changes the clock of a room moves it. -/
theorem clockMove?_of_applied {user : UserId} {command : Command} {answer : Answer}
    (hstate : venue.lobby.states.get? number = some state)
    (hcall : step.call? venue = some (.control number user command))
    (hanswer : (venue.run (Call.control number user command).operation).1 = .ok answer)
    (hchanged : (step.take venue).clock? number ≠ venue.clock? number) :
    let now := state.clock.noEarlier venue.now
    step.clockMove? venue number =
      some ((state.clock.apply command now).report command.action now) := by
  intro now
  have happlied : step.answer? venue = some (.applied (.playback number user
      ((state.clock.apply command now).report command.action now))) := by
    rw [Step.answer?_eq_some]
    refine ⟨_, hcall, hanswer.trans ?_⟩
    cases hsound.reply hleft hanswer with
    | applied hcurrent _ hnow =>
        cases hstate.symm.trans hcurrent
        rw [hnow]
        rfl
  rw [Step.clockMove?, happlied]
  exact if_pos ⟨rfl, hchanged⟩

/-- A step leaves the clock of a room, or moves the reference up to the instant that is reported. -/
theorem clock_take (hstate : venue.lobby.states.get? number = some state)
    (hlater : (step.take venue).lobby.states.get? number = some later) :
    (step.clockMove? venue number = none ∧ later.clock = state.clock) ∨
    ∃ report user, step.clockMove? venue number = some report ∧
      later.clock.reference = report.instant ∧ state.clock.reference ≤ report.instant ∧
      step.Owes venue number [.playback number user report] := by
  have hnext := hsound.take hleft step
  have hclock : (step.take venue).clock? number = venue.clock? number ↔
      later.clock = state.clock := by
    rw [hnext.clock?_eq, hsound.clock?_eq, hstate, hlater, Option.map_some, Option.map_some,
      Option.some.injEq]
  have hstays : later.clock = state.clock →
      step.clockMove? venue number = none ∧ later.clock = state.clock :=
    fun hsame => ⟨clockMove?_of_same (hclock.mpr hsame), hsame⟩
  cases hsound.course hleft step hstate with
  | undisturbed hsame _ _ =>
      cases hlater.symm.trans hsame
      exact .inl (hstays rfl)
  | affected hcall hanswer haffects hbecomes _ howes =>
      cases haffects with
      | enter =>
          cases hlater.symm.trans hbecomes
          exact .inl (hstays rfl)
      | depart =>
          cases hlater.symm.trans hbecomes
          exact .inl (hstays rfl)
      | vacate => cases hlater.symm.trans hbecomes
      | talk =>
          cases hlater.symm.trans hbecomes
          exact .inl (hstays rfl)
      | @steer user _ _ now hnow command clock hmoved =>
          cases hlater.symm.trans hbecomes
          subst hnow hmoved
          by_cases hsame : state.clock.apply command (state.clock.noEarlier venue.now) = state.clock
          · exact .inl (hstays hsame)
          · have hinstant := Clock.instant_of_moved hsame command.action
            refine .inr ⟨_, user, hsound.clockMove?_of_applied hleft hstate hcall hanswer
              (mt hclock.mp hsame), hinstant.symm, ?_, howes⟩
            rw [hinstant]
            exact state.clock.reference_le_apply _ _

/-- The same of a room that is there after the step, though it may be new. -/
theorem timeOf_take {createdAt : Instant}
    (hstays : venue.lobby.states.contains number = true →
      (step.take venue).lobby.states.contains number = true)
    (hcreated : ∀ state, (step.take venue).lobby.states.get? number = some state →
      state.data.createdAt = createdAt) :
    (step.clockMove? venue number = none ∧
      (step.take venue).timeOf number createdAt = venue.timeOf number createdAt) ∨
    ∃ report, step.clockMove? venue number = some report ∧
      (step.take venue).timeOf number createdAt = report.instant ∧
      venue.timeOf number createdAt ≤ report.instant := by
  have hnext := hsound.take hleft step
  rw [timeOf, timeOf, hnext.clock?_eq, hsound.clock?_eq]
  cases hstate : venue.lobby.states.get? number with
  | none =>
      refine .inl ⟨hsound.clockMove?_of_absent hleft hstate step, ?_⟩
      cases hlater : (step.take venue).lobby.states.get? number with
      | none => rfl
      | some later =>
          -- A new clock is set to the instant at which the room is created.
          obtain ⟨_, _, _, -, owner, shown, hfound⟩ := hsound.founded hleft hstate hlater
          rw [← hcreated later hlater, hfound]
          rfl
  | some state =>
      obtain ⟨later, hlater⟩ := Option.isSome_iff_exists.mp (hstays (IdMap.contains_of_get? hstate))
      rw [hlater]
      rcases hsound.clock_take hleft hstate hlater with
        ⟨hmove, hsame⟩ | ⟨report, -, hmove, hreference, hle, -⟩
      · exact .inl ⟨hmove, congrArg Clock.reference hsame⟩
      · exact .inr ⟨report, hmove, hreference, hle⟩

omit hleft

/-- The time of a room is the latest of what it was and of the instants at which the clock was
moved, which come in order. -/
theorem timeOf_follow {steps : List Step} (hlasts : venue.Lasts steps)
    (hlater : (venue.follow steps).lobby.states.get? number = some later) :
    let time := venue.timeOf number later.data.createdAt
    let instants := (venue.clockMoves number steps).map (·.instant)
    later.clock.reference = instants.foldl max time ∧ (time :: instants).Pairwise (· ≤ ·) ∧
      time ≤ later.clock.reference := by
  -- The steps are taken off at the front, where the time is either kept or the next instant.
  induction steps generalizing venue with
  | nil =>
      have htime : venue.timeOf number later.data.createdAt = later.clock.reference := by
        rw [timeOf, hsound.clock?_eq, show venue.lobby.states.get? number = some later from hlater]
        rfl
      exact ⟨htime.symm, List.pairwise_singleton _ _, Int.le_of_eq htime⟩
  | cons step rest ih =>
      have hnext := hsound.take hlasts.1 step
      obtain ⟨hreference, hordered, hpast⟩ := ih hnext hlasts.2 hlater
      have hstays : venue.lobby.states.contains number = true →
          (step.take venue).lobby.states.contains number = true :=
        fun hlive => hsound.stays_live hlasts hlive (IdMap.contains_of_get? hlater)
      rcases hsound.timeOf_take hlasts.1 hstays fun state hstate =>
          (hnext.akin_follow hlasts.2 hstate hlater).createdAt.symm with
        ⟨hmove, hsame⟩ | ⟨report, hmove, htime, hle⟩
      · rw [hsame] at hreference hordered hpast
        rw [clockMoves, hmove]
        exact ⟨hreference, hordered, hpast⟩
      · rw [htime] at hreference hordered hpast
        rw [clockMoves, hmove]
        refine ⟨?_, ?_, Int.le_trans hle hpast⟩
        · rw [hreference, Option.toList_some, List.singleton_append, List.map_cons,
            List.foldl_cons, Int.max_eq_right hle]
        · refine List.pairwise_cons.mpr ⟨fun instant hmem => ?_, hordered⟩
          rcases List.mem_cons.mp hmem with rfl | hrest
          · exact hle
          · exact Int.le_trans hle ((List.pairwise_cons.mp hordered).1 instant hrest)

end Sound

end Venue

/-! ## What comes from a room -/

namespace Core.Affects

variable {core : Core} {number : RoomId} {state later : RoomState} {call : Call}
  {becomes : Option RoomState} {said : List Message} {event : RoomEvent}

theorem reference_le (haffects : core.Affects number state call becomes said event) :
    state.clock.reference ≤ event.instant := by
  cases haffects with
  | enter _ _ hnow =>
      rw [hnow]
      exact state.clock.reference_le_noEarlier _
  | depart _ _ hnow =>
      rw [hnow]
      exact state.clock.reference_le_noEarlier _
  | vacate _ _ hnow =>
      rw [hnow]
      exact state.clock.reference_le_noEarlier _
  | @steer user _ _ now hnow command clock hclock =>
      have hnow' : state.clock.reference ≤ now := by
        rw [hnow]
        exact state.clock.reference_le_noEarlier _
      exact Int.le_trans hnow' (Int.le_max_left _ _)
  | talk _ _ _ _ _ hnow =>
      show _ ≤ Message.createdAt _
      rw [hnow]
      exact state.clock.reference_le_noEarlier _

/-- An event is of no earlier time than the clock that there is by then. -/
theorem later_reference_le (haffects : core.Affects number state call (some later) said event) :
    later.clock.reference ≤ event.instant := by
  have hle := haffects.reference_le
  cases haffects with
  | steer => exact Clock.reference_le_noEarlier _ _
  | _ => exact hle

theorem reference_le_joinedAt
    (haffects : core.Affects number state call (some later) said event) :
    ∀ participant ∈ later.presence.roster,
      participant ∈ state.presence.roster ∨ state.clock.reference ≤ participant.joinedAt := by
  intro participant hmem
  cases haffects with
  | @enter user _ habsent now hnow =>
      rw [RoomState.welcome, Presence.join_of_not_contains habsent] at hmem
      rcases Roster.mem_enrol.mp hmem with rfl | ⟨hold, -⟩
      · right
        rw [hnow]
        exact state.clock.reference_le_noEarlier _
      · exact .inl hold
  | depart =>
      rw [RoomState.release, Presence.leave_roster] at hmem
      exact .inl (Roster.mem_dismiss.mp hmem).1
  | steer => exact .inl hmem
  | talk => exact .inl hmem

theorem reference_le_createdAt (haffects : core.Affects number state call becomes said event) :
    ∀ message ∈ said, state.clock.reference ≤ message.createdAt := by
  intro message hmem
  cases haffects with
  | talk _ _ _ _ _ hnow =>
      rw [List.mem_singleton.mp hmem, hnow]
      exact state.clock.reference_le_noEarlier _
  | _ => cases hmem

end Core.Affects

/-- A snapshot is of no earlier time than the clock that it shows. -/
theorem RoomState.reference_le_snapshot (state : RoomState) (now : Instant) :
    state.clock.reference ≤ (state.snapshot now).playback.instant :=
  Int.le_trans (state.clock.reference_le_noEarlier now)
    (Int.le_of_eq (state.clock.noEarlier_noEarlier now).symm)

namespace Venue

variable {venue : Venue} {number : RoomId} {state : RoomState} {step : Step}

namespace Sound

variable (hsound : venue.Sound)

include hsound

/-- A snapshot that answers a call is of a room as it is then. -/
theorem ensures_shown (call : Call) : (call.verdict venue).Ensures fun answer next =>
    ∀ shown, answer = .snapshot shown →
      ∃ state now, next.lobby.states.get? shown.id = some state ∧ shown = state.snapshot now := by
  cases call with
  | createRoom user content title =>
      apply Ensures.map
      apply ensures_withUser
      intro owner _
      cases venue.store.contents.get? content with
      | none => exact trivial
      | some content =>
          intro shown hshown
          cases hshown
          refine ⟨_, _, ?_, rfl⟩
          show (Core.states (venue.establish _).core).get? _ = _
          rw [core_establish]
          exact IdMap.get?_insert_self _ _ _
  | join number user =>
      apply Ensures.map
      apply ensures_withRoom
      intro room hroom
      obtain rfl := hsound.room_id hroom
      apply ensures_withUser
      intro account _
      apply ensures_ite
      · intro _ shown hshown
        cases hshown
        exact ⟨room.state, _, Lobby.states_get? hroom, rfl⟩
      · intro _ shown hshown
        cases hshown
        refine ⟨_, _, ?_, rfl⟩
        show (Core.states (venue.settle room _ _).core).get? room.id = _
        rw [core_settle]
        exact IdMap.get?_insert_self _ _ _
  | _ => exact Ensures.map (ensures_of_forall fun _ _ _ hshown => nomatch hshown)

variable (hleft : venue.store.lastId < maxIdentifier)

include hleft

/-- Whatever comes from a room in a step bears the room's time, or a later one. -/
theorem onTime (hstate : venue.lobby.states.get? number = some state) (step : Step) :
    venue.OnTime step number state.clock.reference := by
  have hnext := hsound.take hleft step
  cases hsound.course hleft step hstate with
  | undisturbed hsame hhistory howes =>
      have hclock : (step.take venue).clock? number = venue.clock? number := by
        rw [hnext.clock?_eq, hsound.clock?_eq, hsame, hstate]
      refine ⟨⟨[], howes, fun _ hmem => (nomatch hmem)⟩, fun report hmove => ?_,
        fun participant hmem => .inl ?_, fun message hmem => .inl ?_⟩
      · cases hmove.symm.trans (clockMove?_of_same hclock)
      · rwa [hnext.roster_eq hsame, ← hsound.roster_eq hstate] at hmem
      · rwa [hhistory] at hmem
  | @affected call answer becomes said event hcall hanswer haffects hbecomes hhistory howes =>
      refine ⟨⟨[event], howes, fun other hmem => ?_⟩, fun report hmove => ?_,
        fun participant hmem => ?_, fun message hmem => ?_⟩
      · obtain rfl := List.mem_singleton.mp hmem
        refine ⟨haffects.reference_le, fun clock hclock => ?_⟩
        rw [hnext.clock?_eq, hbecomes] at hclock
        obtain ⟨later, rfl, rfl⟩ := Option.map_eq_some_iff.mp hclock
        exact haffects.later_reference_le
      · obtain ⟨user, command, hcontrol⟩ := hsound.call_of_clockMove? hleft hmove
        cases hcall.symm.trans hcontrol
        cases haffects with
        | steer =>
            rcases hsound.clock_take hleft hstate hbecomes with
              ⟨hnone, -⟩ | ⟨other, user, hsome, -, -, htold⟩
            · cases hmove.symm.trans hnone
            · cases hmove.symm.trans hsome
              exact ⟨user, htold⟩
      · cases becomes with
        | none =>
            rw [Venue.roster, hnext.liveRoom?_eq_none.mpr hbecomes] at hmem
            cases hmem
        | some later =>
            rw [hnext.roster_eq hbecomes] at hmem
            rw [hsound.roster_eq hstate]
            exact haffects.reference_le_joinedAt participant hmem
      · rw [hhistory] at hmem
        split at hmem
        · rcases List.mem_append.mp hmem with hold | hnew
          · exact .inl hold
          · exact .inr (haffects.reference_le_createdAt message hnew)
        · cases hmem

/-- A snapshot that is given in a step is the answer to a call. -/
theorem answer?_of_shown? {shown : Snapshot} (hshown : step.shown? venue = some shown) :
    step.answer? venue = some (.snapshot shown) := by
  rw [Step.answer?_eq_some]
  cases step with
  | ask call =>
      refine ⟨call, rfl, ?_⟩
      rw [Step.shown?] at hshown
      split at hshown
      · rename_i found hanswer
        cases hshown
        exact hanswer
      · cases hshown
  | order handle command =>
      refine ⟨command.call handle, rfl, ?_⟩
      rw [Step.shown?, (hsound.leads_handle hleft handle command).answer_eq] at hshown
      cases hanswer : (venue.run (command.call handle).operation).1 with
      | error error =>
          rw [hanswer] at hshown
          cases hshown
      | ok answer =>
          rw [hanswer] at hshown
          cases answer <;> cases hshown
          rfl
  | say handle text =>
      cases hread : RoomCommand.read? text with
      | none =>
          obtain ⟨_, hleads⟩ := leads_handleText_none venue handle hread
          rw [Step.shown?, hleads.answer_eq] at hshown
          cases hshown
      | some command =>
          refine ⟨command.call handle, by rw [Step.call?_say, hread, Option.map_some], ?_⟩
          rw [Step.shown?, (hsound.leads_handleText hleft hread).answer_eq] at hshown
          cases hanswer : (venue.run (command.call handle).operation).1 with
          | error error =>
              rw [hanswer] at hshown
              cases hshown
          | ok answer =>
              rw [hanswer] at hshown
              cases answer <;> cases hshown
              rfl
  | _ => cases hshown

/-- A snapshot that is given in a step is of a room that is live after the step, as it is then. -/
theorem of_shown? {shown : Snapshot} (hshown : step.shown? venue = some shown) :
    ∃ state now, (step.take venue).lobby.states.get? shown.id = some state ∧
      shown = state.snapshot now := by
  obtain ⟨call, hcall, hanswer⟩ :=
    Step.answer?_eq_some.mp (hsound.answer?_of_shown? hleft hshown)
  have hstates : (step.take venue).lobby.states =
      ((call.verdict venue).enact venue).2.lobby.states :=
    congrArg Core.states (hsound.core_take hleft hcall)
  rw [(call.obeys hsound hleft).answer_eq] at hanswer
  rw [hstates]
  exact (hsound.ensures_shown call).of_enact hanswer shown rfl

theorem keepsTime (hstate : venue.lobby.states.get? number = some state) :
    venue.KeepsTime number state.clock.reference where
  stored := by
    rw [hsound.describes.get?_rooms hstate, Option.map_some,
      (hsound.describes.backed _ _ hstate).sound.playback]
    rfl
  onward := by
    intro steps hlasts clock hclock
    rw [(hsound.follow hlasts).clock?_eq] at hclock
    obtain ⟨later, hlater, rfl⟩ := Option.map_eq_some_iff.mp hclock
    obtain ⟨-, -, hpast⟩ := hsound.timeOf_follow hlasts hlater
    rwa [timeOf, hsound.clock?_eq, hstate] at hpast
  onTime := hsound.onTime hleft hstate
  snapshot := by
    intro shown hshown
    obtain ⟨room, hroom, rfl⟩ := Lobby.exists_room hstate
    cases (hsound.snapshot_fst hroom).symm.trans hshown
    exact room.state.reference_le_snapshot venue.now
  listing := by
    rintro now query shown hmem rfl
    obtain ⟨current, hcurrent, hshown, -⟩ := hsound.mem_all.mp hmem
    cases hcurrent.symm.trans hstate
    rw [hshown]
    exact state.reference_le_snapshot now

end Sound

/-- In every run the time of a room is the latest of its creation and of the changes to its clock,
which are reported in order, and it is kept: it never goes back, and whatever comes from the room
bears it or a later one. -/
theorem room_time_of_run (rules : Rules) (now : Instant) (steps : List Step)
    (hlasts : (opening rules now .empty).Lasts steps) :
    let venue := (opening rules now .empty).follow steps
    (∀ number room, venue.lobby.liveRoom? number = some room →
      let reference := room.state.clock.reference
      let instants := ((opening rules now .empty).clockMoves number steps).map (·.instant)
      reference = instants.foldl max room.state.data.createdAt ∧ instants.Pairwise (· ≤ ·) ∧
        venue.KeepsTime number reference) ∧
    ∀ (step : Step) (shown : Snapshot), step.shown? venue = some shown →
      ∃ clock, (step.take venue).clock? shown.id = some clock ∧
        clock.reference ≤ shown.playback.instant := by
  intro venue
  have hopening := Sound.opening rules now
  have hsound : venue.Sound := hopening.follow hlasts
  constructor
  · intro number room hroom reference instants
    rw [hsound.liveRoom?_eq] at hroom
    have hstate := Lobby.states_get? hroom
    obtain ⟨hreference, hordered, -⟩ := hopening.timeOf_follow hlasts hstate
    exact ⟨hreference, (List.pairwise_cons.mp hordered).2, hsound.keepsTime hlasts.follow hstate⟩
  · intro step shown hshown
    obtain ⟨state, instant, hstate, hsnapshot⟩ := hsound.of_shown? hlasts.follow hshown
    refine ⟨state.clock, ?_, ?_⟩
    · rw [(hsound.take hlasts.follow step).clock?_eq, hstate, Option.map_some]
    · rw [hsnapshot]
      exact state.reference_le_snapshot instant

/-- The video is started, stopped after the time was set back, and then moved. Refused commands, and
one without effect, do not count. -/
theorem meeting_room_time_of_run :
    let steps : List Step :=
      [.alter (.addUser "ada" "Ada"), .alter (.addUser "bob" "Bob"),
        .alter (.addContent "A Film" none), .alter (.setTime 10), .ask (.createRoom 1 3 none),
        .ask (.join 4 2), .alter (.setTime 20), .ask (.control 4 1 .play), .alter (.setTime 5),
        .ask (.control 4 2 .play), .ask (.control 4 2 .pause), .alter (.setTime 25),
        .alter (.setFailing true), .ask (.control 4 2 .play), .alter (.setFailing false),
        .restart {}, .alter (.setTime 30), .ask (.control 4 2 (.seek .zero))]
    let venue := (opening {} 0 .empty).follow steps
    (opening {} 0 .empty).Lasts steps ∧
      ((opening {} 0 .empty).clockMoves 4 steps).map (·.instant) = [20, 20, 30] ∧
      venue.KeepsTime 4 30 := by
  intro steps venue
  have hlasts : (opening {} 0 .empty).Lasts steps := by decide +kernel
  have hmoves : ((opening {} 0 .empty).clockMoves 4 steps).map (·.instant) = [20, 20, 30] := by
    decide +kernel
  have hcreated : (venue.lobby.liveRoom? 4).map (·.state.data.createdAt) = some 10 := by
    decide +kernel
  obtain ⟨hrooms, -⟩ := room_time_of_run {} 0 steps hlasts
  obtain ⟨room, hroom, hinstant⟩ := Option.map_eq_some_iff.mp hcreated
  obtain ⟨hreference, -, hkeeps⟩ := hrooms 4 room hroom
  rw [hmoves, hinstant] at hreference
  rw [hreference] at hkeeps
  exact ⟨hlasts, hmoves, hkeeps⟩

end Venue

end WatchParty
