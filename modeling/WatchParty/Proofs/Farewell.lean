/-
# Rooms that are gone stay gone

When the last participant leaves a room, its rows go, and its number is not given away again. Every
operation on it is refused from then on, however the run goes on, and no step has anything to
publish about it. Those who were subscribed hear of the end as their last event.
-/

import WatchParty.Proofs.Course
import WatchParty.Proofs.Paging
import WatchParty.Proofs.Waiting

namespace WatchParty

open Operation Topics

/-- What a step publishes is not about a room. After starting over, nobody listens at all. -/
def Step.Silences (venue : Venue) (number : RoomId) (step : Step) : Prop :=
  (∃ rules, step = .restart rules ∧ (step.take venue).lobby.topics.subscriptions = ∅) ∨
    ∃ acts, (step.take venue).lobby.topics = venue.lobby.topics.follow acts ∧
      ∀ other event, .publish other event ∈ acts → other ≠ number ∧ event.room ≠ number

/-- Some steps neither start over nor give a subscription up. -/
def Step.Keeping (id : SubscriptionId) (steps : List Step) : Prop :=
  ∀ step ∈ steps, (∀ rules, step ≠ .restart rules) ∧ step ≠ .unsubscribe id

theorem Lobby.subscriptions_hostAll (lobby : Lobby) (states : List RoomState) :
    (lobby.hostAll states).topics.subscriptions = lobby.topics.subscriptions := by
  induction states generalizing lobby with
  | nil => rfl
  | cons state rest ih => exact ih (lobby.host state)

namespace Venue

/-- A room has left no trace, and will leave none. -/
structure Gone (venue : Venue) (number : RoomId) : Prop where
  row : venue.store.rooms.contains number = false
  participants : venue.store.participants.contains number = false
  chat : ∀ message ∈ venue.store.messages, message.room ≠ number
  snapshot : venue.run (Venue.snapshot number) = (.error .roomNotFound, venue)
  headCount : venue.run (Venue.headCount number) = (.error .roomNotFound, venue)
  join : ∀ user, venue.run (Venue.join number user) = (.error .roomNotFound, venue)
  leave : ∀ user, venue.run (Venue.leave number user) = (.error .roomNotFound, venue)
  control : ∀ user command,
    venue.run (Venue.control number user command) = (.error .roomNotFound, venue)
  post : ∀ user content, venue.run (Venue.chat number user content) = (.error .roomNotFound, venue)
  messages : ∀ user, venue.run (Venue.messages number user) = (.error .roomNotFound, venue)
  subscribe : venue.run (Venue.subscribe number) = (.error .roomNotFound, venue)
  connect : ∀ user, venue.run (Venue.connect number user) = (.error .roomNotFound, venue)
  unlisted : ∀ now query, ∀ room ∈ (Listing.page venue.lobby now query).rooms, room.id ≠ number
  /-- No new room is given the number. -/
  unused : ∀ user content title room,
    (venue.run (Venue.createRoom user content title)).1 = .ok room → room.id ≠ number
  silent : ∀ step, Step.Silences venue number step

variable {venue : Venue} {number : RoomId} {user : UserId} {step : Step}

namespace Sound

variable (hsound : venue.Sound)

include hsound

theorem run_unknown {α : Type} (hgone : venue.core.states.contains number = false)
    (rest : Room → Operation α) :
    venue.run (findRoom number >>= rest) = (.error .roomNotFound, venue) := by
  have hroom : venue.lobby.rooms.get? number = none := by
    rw [core, Lobby.contains_states, IdMap.contains_eq_isSome] at hgone
    exact Option.not_isSome_iff_eq_none.mp (Bool.eq_false_iff.mp hgone)
  apply run_bind_error
  rw [hsound.run_findRoom, hroom]
  rfl

theorem id_of_createRoom (hleft : venue.store.lastId < maxIdentifier) {content : ContentId}
    {title : Option String} {room : Snapshot}
    (hanswer : (venue.run (createRoom user content title)).1 = .ok room) :
    room.id = venue.store.nextId := by
  have hobeys : venue.Obeys (createRoom user content title)
      (venue.createVerdict user content title) := hsound.obeys_createRoom hleft content title
  have hensures : (venue.createVerdict user content title).Ensures
      fun room _ => room.id = venue.store.nextId := by
    apply Verdict.ensures_withUser
    intro owner howner
    cases venue.store.contents.get? content with
    | none => exact trivial
    | some shown => rfl
  exact hensures.of_enact (hobeys.answer_eq.symm.trans hanswer)

/-- A room that is not there, but whose number has been handed out, is gone. -/
theorem gone (hleft : venue.store.lastId < maxIdentifier)
    (hgone : venue.core.states.contains number = false) (hold : number ≤ venue.store.lastId) :
    venue.Gone number where
  row := (hsound.describes.contains number).trans hgone
  participants := by
    rw [hsound.describes.participants, IdMap.contains_mapValues]
    exact hgone
  chat := by
    rintro message hmessage rfl
    cases hgone.symm.trans (hsound.describes.messages message hmessage)
  snapshot := hsound.run_unknown hgone _
  headCount := hsound.run_unknown hgone _
  join := fun _ => hsound.run_unknown hgone _
  leave := fun _ => hsound.run_unknown hgone _
  control := fun _ _ => hsound.run_unknown hgone _
  post := fun _ _ => hsound.run_unknown hgone _
  messages := fun _ => hsound.run_unknown hgone _
  subscribe := hsound.run_unknown hgone _
  connect := fun _ => run_bind_error (hsound.run_unknown hgone _)
  unlisted := by
    rintro now query room hroom rfl
    obtain ⟨state, hstate, -⟩ := hsound.mem_all.mp ((Listing.cut_sublist _ _).subset hroom)
    cases hgone.symm.trans (IdMap.contains_of_get? hstate)
  unused := by
    rintro user content title room hanswer rfl
    rw [hsound.id_of_createRoom hleft hanswer] at hold
    exact absurd (hsound.numbered.lt_nextId hleft) (Int.not_lt.mpr hold)
  silent := by
    intro step
    obtain ⟨rules, rfl⟩ | hsame := step.eq_restart_or_ne
    · have hlobby : ((Step.restart rules).take venue).lobby =
          (Lobby.opening rules venue.lobby.nextConnection).hostAll venue.lobby.states.values :=
        (hsound.leads_restart rules).lobby_eq
      refine .inl ⟨rules, rfl, ?_⟩
      rw [hlobby, Lobby.subscriptions_hostAll]
      rfl
    · obtain ⟨acts, htopics, hwarrants, -⟩ := hsound.take_warrants hleft hsame
      refine .inr ⟨acts, htopics, fun other event hmem => ?_⟩
      cases hwarrants _ hmem with
      | tells hlive hroom hends =>
          have hother : other ≠ number := by
            rintro rfl
            cases hgone.symm.trans hlive
          exact ⟨hother, hroom ▸ hother⟩

/-- A room that is gone stays gone. -/
theorem gone_follow (hgone : venue.core.states.contains number = false)
    (hold : number ≤ venue.store.lastId) {steps : List Step} (hlasts : venue.Lasts steps) :
    (venue.follow steps).Gone number := by
  have hprecedes := hsound.precedes_follow hlasts
  have hstill : (venue.follow steps).core.states.contains number = false := by
    apply Bool.eq_false_iff.mpr
    intro hback
    cases hgone.symm.trans (hprecedes.contains hold hback)
  exact (hsound.follow hlasts).gone hlasts.follow hstill (Int.le_trans hold hprecedes.counted)

/-- The last participant of a room leaves. What remains of the room is the event that says so. -/
theorem core_take_of_last (hleft : venue.store.lastId < maxIdentifier)
    (hcall : step.call? venue = some (.leave number user))
    (hanswer : (venue.run (Call.leave number user).operation).1 = .ok .left)
    (hlast : (venue.roster number).map (·.user) = [user]) :
    venue.core.states.contains number = true ∧ ∃ instant, (step.take venue).core =
      { venue.core with
        store := venue.store.forget number
        states := venue.lobby.states.erase number
        topics := (venue.lobby.topics.publish number
          (.presence number [] none true instant)).2.closeTopic number } := by
  obtain ⟨state, hstate⟩ : ∃ state, venue.lobby.states.get? number = some state := by
    rw [← Option.isSome_iff_exists, ← Option.not_isNone, Bool.not_eq_true', Bool.eq_false_iff]
    intro hnone
    rw [Venue.roster, hsound.liveRoom?_eq_none.mpr (Option.isNone_iff_eq_none.mp hnone)] at hlast
    cases hlast
  rw [hsound.roster_eq hstate] at hlast
  obtain ⟨participant, hroster, huser⟩ := List.map_eq_singleton_iff.mp hlast
  have hmember : state.presence.contains user = true := by
    rw [Presence.contains, Roster.has_iff, hroster]
    exact ⟨participant, List.mem_singleton_self _, huser⟩
  have hnobody : state.presence.roster.dismiss user = [] := by
    rw [hroster, Roster.dismiss]
    simp [huser]
  generalize hnext : (step.take venue).core = next
  have houtcome := hsound.take_call hleft hcall
  rw [hnext] at houtcome
  cases houtcome with
  | refused herror => cases hanswer.symm.trans herror
  | idle _ hidle =>
      obtain ⟨other, hother, habsent⟩ := hidle
      cases hstate.symm.trans hother
      cases hmember.symm.trans habsent
  | changed _ hchange =>
      cases hchange with
      | depart hother _ hothers =>
          cases hstate.symm.trans hother
          exact absurd hnobody hothers
      | @vacate _ _ other hother _ _ now _ =>
          cases hstate.symm.trans hother
          refine ⟨IdMap.contains_of_get? hstate, now, ?_⟩
          have hevent : (state.release user).presenceEvent now =
              .presence number [] none true now := by
            have hempty : (state.release user).presence = .empty :=
              congrArg Prod.snd (Presence.leave_of_last hmember hnobody)
            have hid : (state.release user).data.id = number :=
              (hsound.describes.backed number state hstate).numbered
            rw [RoomState.presenceEvent, RoomState.members, hempty, hid,
              RoomState.deleted_release.mpr hnobody]
            rfl
          rw [hevent]
          rfl

end Sound

theorem delivered_append (id : SubscriptionId) (venue : Venue) (steps more : List Step) :
    venue.delivered id (steps ++ more) =
      venue.delivered id steps ++ (venue.follow steps).delivered id more := by
  induction steps generalizing venue with
  | nil => rfl
  | cons step rest ih =>
      rw [List.cons_append, delivered, ih, delivered, List.append_assoc]
      rfl

theorem run_receive (venue : Venue) (id : SubscriptionId) (limit : Option Nat) :
    (venue.run (receive id limit)).1 = .ok (venue.lobby.topics.receive id limit).1 := rfl

/-- What a step delivers has waited in the subscription. -/
theorem mem_waiting_of_delivers {id : SubscriptionId} {subscription : Subscription RoomEvent}
    (hheld : venue.lobby.topics.subscriptions.get? id = some subscription) {event : RoomEvent}
    (hmem : .event event ∈ step.delivers venue id) : event ∈ subscription.waiting := by
  cases step with
  | receive other limit =>
      rw [Step.delivers] at hmem
      split at hmem
      · obtain ⟨received, rest, ended, hreceive, hdrains, -⟩ := receive_drains hheld limit
        have hrun : (venue.run (receive id limit)).1 =
            .ok (some { deliveries := received, ended }) := by
          rw [run_receive, hreceive]
        rw [hrun] at hmem
        exact hdrains.mem_waiting (.inl hmem)
      · cases hmem
  | _ => cases hmem

variable {id : SubscriptionId} {subscription : Subscription RoomEvent}

/-- While a room is there, no subscription to it is told otherwise. -/
theorem Sound.hopeful_follow (hsound : venue.Sound) (htended : venue.Tended)
    (horderly : venue.lobby.topics.Orderly)
    (hheld : venue.lobby.topics.subscriptions.get? id = some subscription) {steps : List Step}
    (hlasts : venue.Lasts steps) (hkeeping : Step.Keeping id steps)
    (hlive : (venue.follow steps).core.states.contains subscription.room = true) :
    (∃ rest, (venue.follow steps).lobby.topics.subscriptions.get? id = some rest ∧
      rest.room = subscription.room) ∧
      ∀ event, .event event ∈ venue.delivered id steps → event.endsRoom = false := by
  induction steps generalizing venue subscription with
  | nil => exact ⟨⟨subscription, hheld, rfl⟩, fun event hmem => nomatch hmem⟩
  | cons step rest ih =>
      obtain ⟨hsame, hkept⟩ := hkeeping step List.mem_cons_self
      obtain ⟨acts, htopics, -, hacts⟩ := hsound.take_warrants hlasts.1 hsame
      have hhopes := htended.tends.hopes id subscription hheld
      obtain ⟨middle, hmiddle, hroom⟩ :=
        horderly.follow_room hheld fun hmem => hkept ((hacts id).1 hmem)
      rw [← htopics] at hmiddle
      obtain ⟨hlast, hrest⟩ := ih (hsound.take hlasts.1 step)
        (hsound.tended_take hlasts.1 htended step) (hsound.orderly_take hlasts.1 horderly step)
        hmiddle hlasts.2 (fun other hother => hkeeping other (List.mem_cons_of_mem _ hother))
        (hroom.symm ▸ hlive)
      refine ⟨hroom ▸ hlast, fun event hmem => ?_⟩
      rw [delivered, List.mem_append] at hmem
      rcases hmem with hmem | hmem
      · have hnow : venue.core.states.contains subscription.room = true :=
          (hsound.precedes_follow hlasts).contains hhopes.numbered hlive
        exact (hhopes.hopeful hnow).2 event (mem_waiting_of_delivers hheld hmem)
      · exact hrest event hmem

/-- A subscription whose topic is closed delivers what waits in it, and nothing else. -/
theorem Sound.drains_follow (hsound : venue.Sound) (horderly : venue.lobby.topics.Orderly)
    (hheld : venue.lobby.topics.subscriptions.get? id = some subscription)
    (hclosed : subscription.closed = true) {steps : List Step}
    (hlasts : venue.Lasts steps) (hkeeping : Step.Keeping id steps) :
    ∃ rest, (venue.follow steps).lobby.topics.subscriptions.get? id = some rest ∧
      subscription.Drains (venue.delivered id steps) rest := by
  induction steps generalizing venue subscription with
  | nil => exact ⟨subscription, hheld, .refl _⟩
  | cons step rest ih =>
      obtain ⟨hsame, hkept⟩ := hkeeping step List.mem_cons_self
      obtain ⟨acts, htopics, -, hacts⟩ := hsound.take_warrants hlasts.1 hsame
      obtain ⟨middle, hmiddle, hfirst⟩ :=
        horderly.follow_drains hheld hclosed fun hmem => hkept ((hacts id).1 hmem)
      rw [← htopics] at hmiddle
      rw [(hacts id).2] at hfirst
      obtain ⟨last, hlast, hsecond⟩ := ih (hsound.take hlasts.1 step)
        (hsound.orderly_take hlasts.1 horderly step) hmiddle (hfirst.closed.trans hclosed)
        hlasts.2 fun other hother => hkeeping other (List.mem_cons_of_mem _ hother)
      exact ⟨last, hlast, hfirst.trans hsecond⟩

/-- Whoever goes on to receive gets all that waits when the topic is closed, and is then told that
nothing more will come. -/
theorem Sound.receives_rest (hsound : venue.Sound) (horderly : venue.lobby.topics.Orderly)
    (hheld : venue.lobby.topics.subscriptions.get? id = some subscription)
    (hclosed : subscription.closed = true) {steps : List Step}
    (hlasts : venue.Lasts steps) (hkeeping : Step.Keeping id steps) :
    ∃ last, ((venue.follow steps).run (receive id none)).1 =
        .ok (some { deliveries := last, ended := some true }) ∧
      subscription.deliveries = venue.delivered id steps ++ last := by
  obtain ⟨rest, hrest, hdrains⟩ := hsound.drains_follow horderly hheld hclosed hlasts hkeeping
  obtain ⟨last, empty, ended, hreceive, hall, hended⟩ := receive_drains hrest none
  obtain ⟨hnothing, rfl⟩ := hended rfl
  have hempty : empty.deliveries = [] := by
    rw [← List.length_eq_zero_iff, Subscription.length_deliveries, hnothing]
  refine ⟨last, ?_, ?_⟩
  · rw [run_receive, hreceive, hdrains.closed, hclosed]
  · rw [(hdrains.trans hall).deliveries, hempty, List.append_nil]

theorem Sound.isOpen_of_contains (hsound : venue.Sound)
    (hlive : venue.core.states.contains number = true) :
    venue.lobby.topics.isOpen number = true := by
  rw [hsound.lobby.topics, ← Lobby.contains_states]
  exact hlive

theorem Sound.held_of_subscription? (hsound : venue.Sound)
    (hstep : step.subscription? venue = some (number, id)) :
    (step.take venue).lobby.topics.subscriptions.get? id =
      some (.holding number false venue.lobby.topics.capacity []) := by
  obtain ⟨hlive, hid, hcore⟩ := hsound.of_subscription? hstep
  rw [show (step.take venue).lobby.topics = (venue.lobby.topics.subscribe number).2 from
    congrArg Core.topics hcore, get?_subscribe, if_pos ⟨hsound.isOpen_of_contains hlive, hid⟩]

/-- Whoever is subscribed when a room is vacated is left with the news, after what waited before,
and with a closed topic. -/
theorem held_of_vacated {next : Venue} {event : RoomEvent} (htended : venue.Tended)
    (hlive : venue.core.states.contains number = true)
    (hopen : venue.lobby.topics.isOpen number = true)
    (htopics : next.lobby.topics =
      (venue.lobby.topics.publish number event).2.closeTopic number)
    (hheld : venue.lobby.topics.subscriptions.get? id = some subscription)
    (hroom : subscription.room = number) :
    ∃ last, next.lobby.topics.subscriptions.get? id = some last ∧ last.closed = true ∧
      ∃ earlier, last.deliveries = earlier ++ [.event event] ∧
        ∀ other, .event other ∈ earlier → other.endsRoom = false := by
  obtain ⟨hstill, hwaiting⟩ :=
    (htended.tends.hopes id subscription hheld).hopeful (hroom.symm ▸ hlive)
  have hcapacity : 1 ≤ venue.lobby.topics.capacity := by
    rw [htended.capacity]
    exact Nat.le_trans (Nat.le_max_right _ _) (roundCapacity_spec _).2
  obtain ⟨kept, hpushed, hkept⟩ := subscription.waiting_push hcapacity event
  let last := { subscription.push venue.lobby.topics.capacity event with closed := true }
  obtain ⟨earlier, hdeliveries, hearlier⟩ :=
    Subscription.deliveries_of_waiting (show last.waiting = kept ++ [event] from hpushed)
  refine ⟨last, ?_, rfl, earlier, hdeliveries, fun other hmem => ?_⟩
  · rw [htopics, get?_closeTopic, get?_publish, hheld]
    simp [listens, hopen, hroom, hstill, last]
  · exact hwaiting other (hkept other (hearlier other hmem))

/-- Rooms are deleted for good. Once the last participant has left a room, nothing is left of it,
now or ever, whatever happens and even if the system starts over. Whoever was subscribed to it, at
whatever time that was, and goes on to receive, is told of the end as the last event that arrives,
and of no end before, and then that nothing more will come. -/
theorem Reachable.deleted_for_good (hreach : venue.Reachable)
    (hcall : step.call? venue = some (.leave number user))
    (hanswer : (venue.run (Call.leave number user).operation).1 = .ok .left)
    (hlast : (venue.roster number).map (·.user) = [user]) :
    let gone := step.take venue
    (∀ steps, gone.Lasts steps → (gone.follow steps).Gone number) ∧
    ∃ instant, ∀ (origin : Venue) (first : Step) (before after : List Step) (id : SubscriptionId),
      origin.Reachable → origin.Lasts (first :: before) →
      first.subscription? origin = some (number, id) →
      (first.take origin).follow before = venue → Step.Keeping id before →
      gone.Lasts after → Step.Keeping id after →
      ∃ earlier last,
        ((gone.follow after).run (receive id none)).1 =
          .ok (some { deliveries := last, ended := some true }) ∧
        (first.take origin).delivered id (before ++ step :: after) ++ last =
          earlier ++ [.event (.presence number [] none true instant)] ∧
        ∀ event, .event event ∈ earlier → event.endsRoom = false := by
  intro gone
  have hsound := hreach.sound
  have hleft := hreach.lastId_lt
  have hgone : gone.Sound := hsound.take hleft step
  obtain ⟨hlive, instant, hcore⟩ := hsound.core_take_of_last hleft hcall hanswer hlast
  have htopics : gone.lobby.topics = (venue.lobby.topics.publish number
      (.presence number [] none true instant)).2.closeTopic number := congrArg Core.topics hcore
  have hold : number ≤ gone.store.lastId := by
    rw [show gone.store = venue.store.forget number from congrArg Core.store hcore]
    exact hsound.numbered.rooms number ((hsound.describes.contains number).trans hlive)
  have herased : gone.core.states.contains number = false := by
    rw [hcore]
    simp [IdMap.contains_erase]
  refine ⟨fun steps => hgone.gone_follow herased hold, instant, ?_⟩
  intro origin first before after id horigin hbefore hfirst hvenue hkept hafter hkept'
  -- From the subscription on until the room is vacated, no end is told of.
  have hbegun := horigin.sound.take hbefore.1 first
  obtain ⟨⟨held, hheld, hroom⟩, hhope⟩ := hbegun.hopeful_follow
    (horigin.sound.tended_take hbefore.1 horigin.tended first)
    (horigin.sound.orderly_take hbefore.1 horigin.orderly first)
    (horigin.sound.held_of_subscription? hfirst) hbefore.2 hkept (hvenue ▸ hlive)
  rw [hvenue] at hheld
  -- Then the news waits after all else, and comes when all that waits is taken.
  obtain ⟨told, htold, hclosed, earlier, hdeliveries, hearlier⟩ :=
    held_of_vacated hreach.tended hlive (hsound.isOpen_of_contains hlive) htopics hheld hroom
  obtain ⟨last, hreceive, hall⟩ := hgone.receives_rest
    (hsound.orderly_take hleft hreach.orderly step) htold hclosed hafter hkept'
  refine ⟨(first.take origin).delivered id before ++ earlier, last, hreceive, ?_, ?_⟩
  · have hsilent : step.delivers venue id = [] := by
      cases step <;> first | rfl | cases hcall
    rw [delivered_append, hvenue, delivered, hsilent, List.nil_append, List.append_assoc, ← hall,
      hdeliveries, List.append_assoc]
  · intro event hmem
    rcases List.mem_append.mp hmem with hmem | hmem
    · exact hhope event hmem
    · exact hearlier event hmem

theorem meeting_deleted_for_good :
    let alone := meeting.follow [.subscribe 4, .ask (.leave 4 1)]
    let gone := (Step.ask (.leave 4 2)).take alone
    (gone.follow [.restart {}]).Gone 4 ∧
    ∃ instant earlier last,
      (gone.run (receive 0 none)).1 = .ok (some { deliveries := last, ended := some true }) ∧
      ((Step.subscribe 4).take meeting).delivered 0 [.ask (.leave 4 1), .ask (.leave 4 2)] ++ last =
        earlier ++ [.event (.presence 4 [] none true instant)] := by
  intro alone gone
  have halone : alone.Reachable :=
    (meeting_reachable.take (.subscribe 4) (by decide)).take (.ask (.leave 4 1)) (by decide)
  have hcall : (Step.ask (.leave 4 2)).call? alone = some (.leave 4 2) := rfl
  obtain ⟨hgone, instant, htold⟩ := halone.deleted_for_good hcall (by decide) (by decide)
  obtain ⟨earlier, last, hreceive, hdelivered, -⟩ := htold meeting (.subscribe 4)
    [.ask (.leave 4 1)] [] 0 meeting_reachable (by decide) (by decide) rfl (by simp [Step.Keeping])
    (by decide) (by simp [Step.Keeping])
  exact ⟨hgone [.restart {}] (by decide), instant, earlier, last, hreceive, hdelivered⟩

end Venue

end WatchParty
