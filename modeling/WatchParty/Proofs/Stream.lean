/-
# The stream of events is faithful

Whoever has heard every event of a room since some time knows the room from what it was then: who is
there and who owns it from the last announcement of that, where the video is from the last report,
and what was said from the messages, one after the other. What a subscription is owed is accounted
for elsewhere, so it is enough here that every step tells in its events what it changes.

A room that is there at the end of a run was there all the time, because no number is given away
twice. So its topic was never closed, and all of its events were owed.
-/

import WatchParty.Proofs.Lineage
import WatchParty.Proofs.Publishing
import WatchParty.Proofs.Restart

namespace WatchParty

namespace RoomEvent

/-- The members and the owner that an event announces. -/
def presence? : RoomEvent → Option (List Member × Option UserId)
  | .presence _ members owner _ _ => some (members, owner)
  | _ => none

/-- The report that an event brings. -/
def report? : RoomEvent → Option PlaybackReport
  | .playback _ _ report => some report
  | _ => none

/-- The message that an event brings. -/
def message? : RoomEvent → Option Message
  | .chat _ message => some message
  | _ => none

end RoomEvent

/-- Events that tell all that became of a room between two states of it. -/
structure RoomState.Told (events : List RoomEvent) (state later : RoomState) : Prop where
  /-- The members and the owner are those announced last, or else the former ones. -/
  presence : (later.members, later.presence.owner) =
    (events.filterMap RoomEvent.presence?).getLast?.getD (state.members, state.presence.owner)
  /-- The clock is the one reported last, or else the former one. -/
  playback : match (events.filterMap RoomEvent.report?).getLast? with
    | some report => report = later.clock.report report.action report.instant
    | none => later.clock = state.clock

namespace RoomState.Told

variable {events more : List RoomEvent} {state middle later : RoomState}

theorem refl (state : RoomState) : Told [] state state := ⟨rfl, rfl⟩

/-- What is told later counts. -/
theorem append (hfirst : Told events state middle) (hsecond : Told more middle later) :
    Told (events ++ more) state later where
  presence := by
    rw [hsecond.presence, hfirst.presence, List.filterMap_append, List.getLast?_append]
    cases (more.filterMap RoomEvent.presence?).getLast? <;> rfl
  playback := by
    have hlater := hsecond.playback
    rw [List.filterMap_append, List.getLast?_append]
    cases hmore : (more.filterMap RoomEvent.report?).getLast? with
    | some report =>
        rw [hmore] at hlater
        exact hlater
    | none =>
        rw [hmore] at hlater
        have hclock : later.clock = middle.clock := hlater
        rw [Option.none_or, hclock]
        exact hfirst.playback

/-- An announcement of who is there tells who came. -/
theorem of_welcome (state : RoomState) (user : User) (now : Instant) :
    Told [(state.welcome user now).presenceEvent now] state (state.welcome user now) := ⟨rfl, rfl⟩

/-- An announcement of who is there tells who went. -/
theorem of_release (state : RoomState) (user : UserId) (now : Instant) :
    Told [(state.release user).presenceEvent now] state (state.release user) := ⟨rfl, rfl⟩

/-- A report of a clock tells of a change to it. -/
theorem of_report (state : RoomState) (clock : Clock) (number : RoomId) (user : UserId)
    (action : PlaybackAction) (now : Instant) :
    Told [.playback number user (clock.report action now)] state (state.steer clock) :=
  ⟨rfl, (clock.report_instant action now).symm⟩

theorem of_message (state : RoomState) (number : RoomId) (message : Message) :
    Told [.chat number message] state state := ⟨rfl, rfl⟩

end RoomState.Told

namespace Core

open Topics

variable {core middle next : Core} {number other : RoomId} {events more : List RoomEvent}

/-- Events tell all that a room goes through between two cores, and all that is said there. -/
structure Tells (core : Core) (number : RoomId) (events : List RoomEvent) (next : Core) : Prop where
  state : ∀ state later, core.states.get? number = some state →
    next.states.get? number = some later → state.Told events later
  history : next.store.history number =
    core.store.history number ++ events.filterMap RoomEvent.message?

/-- Nothing is told of a room that stays as it is. -/
theorem Tells.of_eq (hstate : next.states.get? number = core.states.get? number)
    (hhistory : next.store.history number = core.store.history number) :
    core.Tells number [] next where
  state := by
    intro state later hbefore hafter
    rw [hstate, hbefore] at hafter
    cases hafter
    exact .refl state
  history := by rw [hhistory, List.filterMap_nil, List.append_nil]

theorem Tells.append {state : RoomState} (hstate : middle.states.get? number = some state)
    (hfirst : core.Tells number events middle) (hsecond : middle.Tells number more next) :
    core.Tells number (events ++ more) next where
  state := fun before later hbefore hlater =>
    (hfirst.state before state hbefore hstate).append (hsecond.state state later hstate hlater)
  history := by
    rw [hsecond.history, hfirst.history, List.filterMap_append, List.append_assoc]

/-- An event that is published to a room tells of the new state that the room takes, and of what is
said there. Other rooms hear nothing, and nothing happens to them. -/
theorem Tells.publish {state later : RoomState} {event : RoomEvent}
    (hstate : core.states.get? number = some state) (htold : state.Told [event] later)
    (hstates : next.states = core.states.insert number later)
    (hhistory : ∀ other, next.store.history other =
      core.store.history other ++ if number = other then event.message?.toList else [])
    (other : RoomId) : core.Tells other (owed other [.publish number event]) next := by
  have howed : owed other [Act.publish number event] = if number = other then [event] else [] :=
    List.append_nil _
  rw [howed]
  by_cases hroom : number = other
  · subst hroom
    rw [if_pos rfl]
    refine ⟨fun before after hbefore hafter => ?_, ?_⟩
    · rw [hstate] at hbefore
      rw [hstates, IdMap.get?_insert_self] at hafter
      cases hbefore
      cases hafter
      exact htold
    · rw [hhistory, if_pos rfl]
      cases hmessage : event.message? <;> simp [hmessage]
  · rw [if_neg hroom]
    apply Tells.of_eq
    · rw [hstates, IdMap.get?_insert, if_neg (Ne.symm hroom)]
    · rw [hhistory, if_neg hroom, List.append_nil]

/-- An event without a message tells of a new state only. -/
theorem Tells.announce {state later : RoomState} {event : RoomEvent}
    (hstate : core.states.get? number = some state) (htold : state.Told [event] later)
    (hstates : next.states = core.states.insert number later)
    (hmessage : event.message? = none) (hmessages : next.store.messages = core.store.messages)
    (other : RoomId) : core.Tells other (owed other [.publish number event]) next := by
  refine .publish hstate htold hstates (fun other => ?_) other
  rw [hmessage, Option.toList_none, ite_self, List.append_nil,
    Store.history_eq_of_messages hmessages]

/-- What is done with the topics between two cores tells of every room that is there all the time,
and closes no topic of such a room. -/
structure Follows (core : Core) (acts : List (Act RoomEvent)) (next : Core) : Prop where
  topics : next.topics = core.topics.follow acts
  stays : ∀ number, core.states.contains number = true → next.states.contains number = true →
    acts.any (Act.closes number) = false
  tells : ∀ number, core.states.contains number = true → next.states.contains number = true →
    core.Tells number (owed number acts) next

theorem Quiet.follows {acts : List (Act RoomEvent)} (hquiet : core.Quiet acts next)
    (hopen : ∀ number, acts.any (Act.closes number) = false)
    (hsilent : ∀ number, owed number acts = []) : core.Follows acts next where
  topics := hquiet.topics
  stays := fun number _ _ => hopen number
  tells := fun number _ _ => by
    rw [hsilent]
    apply Tells.of_eq
    · rw [hquiet.states]
    · exact Store.history_eq_of_messages hquiet.messages number

/-- Every change is followed by the topics, and nobody receives anything meanwhile. -/
theorem Change.follows {call : Call} (hchange : core.Change call next)
    (hnew : core.states.contains core.store.nextId = false) :
    ∃ acts, core.Follows acts next ∧ ∀ id, received id core.topics acts = [] := by
  cases hchange with
  | @found user content title owner shown howner hshown state hstate =>
      refine ⟨[.openTopic state.data.id], ⟨rfl, fun _ _ _ => rfl, fun number hbefore _ => ?_⟩,
        fun _ => rfl⟩
      have hne : number ≠ state.data.id := by
        rintro rfl
        rw [hstate] at hbefore
        exact Bool.false_ne_true (hnew.symm.trans hbefore)
      exact .of_eq ((IdMap.get?_insert _ _ _ _).trans (if_neg hne)) rfl
  | @enter room user state hstate huser habsent now hnow =>
      refine ⟨[.publish room _], ⟨rfl, fun _ _ _ => rfl, fun number _ _ => ?_⟩, fun _ => rfl⟩
      refine .announce hstate (.of_welcome state user now) ?_ ?_ ?_ number <;> rfl
  | @depart room user state hstate hmember hothers now hnow =>
      refine ⟨[.publish room _], ⟨rfl, fun _ _ _ => rfl, fun number _ _ => ?_⟩, fun _ => rfl⟩
      refine .announce hstate (.of_release state user now) ?_ ?_ ?_ number <;> rfl
  | @vacate room user state hstate hmember hlast now hnow =>
      have hother : ∀ number, (core.states.erase room).contains number = true →
          number ≠ room := by
        rintro number hlive rfl
        simp at hlive
      refine ⟨[.publish room _, .closeTopic room], ⟨rfl, fun number _ hlive => ?_,
        fun number _ hlive => ?_⟩, fun _ => rfl⟩
      · have hne : (room == number) = false := beq_false_of_ne (hother number hlive).symm
        simp [Act.closes, hne]
      · have hne := hother number hlive
        have howed : owed number [.publish room ((state.release user).presenceEvent now),
            .closeTopic room] = [] := by
          simp [owed, Act.closes, Act.news, hne.symm]
        rw [howed]
        exact .of_eq ((IdMap.get?_erase _ _ _).trans (if_neg hne)) (Store.history_forget hne)
  | @steer room user state hstate hmember hmay now hnow command clock hclock =>
      refine ⟨[.publish room _], ⟨rfl, fun _ _ _ => rfl, fun number _ _ => ?_⟩, fun _ => rfl⟩
      refine .announce hstate (.of_report state clock room user _ now) ?_ ?_ ?_ number <;> rfl
  | @talk room user state hstate hmember content text htext message hid hroom hsender hcontent
      hnow =>
      refine ⟨[.publish room _], ⟨rfl, fun _ _ _ => rfl, fun number _ _ => ?_⟩, fun _ => rfl⟩
      apply Tells.publish hstate (.of_message state room message)
      · exact (IdMap.insert_eq_self hstate).symm
      · intro other
        rw [Store.history_post, hroom]
        rfl

theorem Follows.refl (core : Core) : core.Follows [] core :=
  (Quiet.refl core).follows (fun _ => rfl) fun _ => rfl

theorem Follows.append {acts later : List (Act RoomEvent)} (hfirst : core.Follows acts middle)
    (hsecond : middle.Follows later next)
    (hstays : ∀ number, core.states.contains number = true → next.states.contains number = true →
      middle.states.contains number = true) : core.Follows (acts ++ later) next where
  topics := by rw [hsecond.topics, hfirst.topics, follow_append]
  stays := by
    intro number hbefore hafter
    have hmiddle := hstays number hbefore hafter
    rw [List.any_append, hfirst.stays number hbefore hmiddle, hsecond.stays number hmiddle hafter]
    rfl
  tells := by
    intro number hbefore hafter
    have hmiddle := hstays number hbefore hafter
    obtain ⟨state, hstate⟩ := Option.isSome_iff_exists.mp hmiddle
    rw [owed_append (hfirst.stays number hbefore hmiddle)]
    exact (hfirst.tells number hbefore hmiddle).append hstate (hsecond.tells number hmiddle hafter)

end Core

/-! ## Steps and runs -/

/-- What a subscription receives through a step. -/
def Step.delivers (venue : Venue) (id : SubscriptionId) : Step → List (Delivery RoomEvent)
  | .receive other limit =>
    if other = id then
      match (venue.run (Venue.receive id limit)).1 with
      | .ok (some receipt) => receipt.deliveries
      | _ => []
    else []
  | _ => []

/-- The room that a step subscribes to, and the subscription that is given for it. -/
def Step.subscription? (venue : Venue) : Step → Option (RoomId × SubscriptionId)
  | .subscribe room => (venue.run (Venue.subscribe room)).1.toOption.map fun id => (room, id)
  | .connect room user =>
    (venue.run (Venue.connect room user)).1.toOption.map fun answer => (room, answer.2)
  | _ => none

/-- Hosting rooms opens their topics, one after the other. -/
theorem Lobby.topics_hostAll_eq (lobby : Lobby) (states : List RoomState) :
    (lobby.hostAll states).topics =
      lobby.topics.follow (states.map fun state => .openTopic state.data.id) := by
  induction states generalizing lobby with
  | nil => rfl
  | cons state rest ih => exact ih (lobby.host state)

namespace Venue

open Topics

/-- What a subscription receives while some steps happen. -/
def delivered (id : SubscriptionId) : Venue → List Step → List (Delivery RoomEvent)
  | _, [] => []
  | venue, step :: rest => step.delivers venue id ++ delivered id (step.take venue) rest

variable {venue : Venue}

/-- What listeners do with the topics says what they receive. -/
theorem received_listens (venue : Venue) (step : Step) (id : SubscriptionId) :
    Topics.received id venue.lobby.topics step.listens = step.delivers venue id := by
  cases step with
  | receive other limit =>
      rw [Step.listens, Topics.received, Topics.received, List.append_nil, Act.delivered,
        Step.delivers]
      split
      · show ((venue.lobby.topics.receive id limit).1.map (·.deliveries)).getD [] =
          match (Except.ok (venue.lobby.topics.receive id limit).1 : Except RoomError _) with
          | .ok (some receipt) => receipt.deliveries
          | _ => []
        cases (venue.lobby.topics.receive id limit).1 <;> rfl
      · rfl
  | _ => rfl

theorem Sound.take_follows (hsound : venue.Sound) (hleft : venue.store.lastId < maxIdentifier)
    {step : Step} (hsame : ∀ rules, step ≠ .restart rules) :
    ∃ acts, venue.core.Follows acts (step.take venue).core ∧
      ∀ id, Topics.received id venue.lobby.topics acts = step.delivers venue id := by
  rcases hsound.take_cases hleft hsame with ⟨call, -, hcall, -, hchange⟩ | hquiet
  · have hnew : venue.core.states.contains venue.core.store.nextId = false := by
      rw [IdMap.contains_eq_isSome]
      exact congrArg Option.isSome (hsound.get?_nextId hleft)
    obtain ⟨acts, hfollows, hnothing⟩ := hchange.follows hnew
    refine ⟨acts, hfollows, fun id => ?_⟩
    have hdelivers : step.delivers venue id = [] := by
      cases step <;> first | rfl | cases hcall
    rw [hdelivers]
    exact hnothing id
  · refine ⟨step.listens, hquiet.follows ?_ ?_, received_listens venue step⟩
    · intro number
      cases step <;> rfl
    · intro number
      cases step <;> rfl

/-- What is done with the topics in a run that does not start over tells of every room that is there
all the time, and says what every subscription receives. -/
theorem Sound.follow_follows (hsound : venue.Sound) {steps : List Step}
    (hlasts : venue.Lasts steps) (hsame : ∀ step ∈ steps, ∀ rules, step ≠ .restart rules) :
    ∃ acts, venue.core.Follows acts (venue.follow steps).core ∧
      ∀ id, Topics.received id venue.lobby.topics acts = venue.delivered id steps := by
  induction steps generalizing venue with
  | nil => exact ⟨[], .refl _, fun _ => rfl⟩
  | cons step rest ih =>
      obtain ⟨acts, hfirst, hreceived⟩ := hsound.take_follows hlasts.1 (hsame _ List.mem_cons_self)
      have hnext := hsound.take hlasts.1 step
      obtain ⟨more, hsecond, hreceived'⟩ :=
        ih hnext hlasts.2 fun step hstep => hsame step (List.mem_cons_of_mem _ hstep)
      refine ⟨acts ++ more, hfirst.append hsecond ?_, fun id => ?_⟩
      · exact fun number hbefore hafter => hsound.stays_live hlasts hbefore hafter
      · have htopics : (step.take venue).lobby.topics = venue.lobby.topics.follow acts :=
          hfirst.topics
        rw [Topics.received_append, hreceived, ← htopics, hreceived', delivered]

theorem Sound.orderly_take (hsound : venue.Sound) (hleft : venue.store.lastId < maxIdentifier)
    (horderly : venue.lobby.topics.Orderly) (step : Step) :
    (step.take venue).lobby.topics.Orderly := by
  obtain ⟨rules, rfl⟩ | hsame := step.eq_restart_or_ne
  · have hlobby := (hsound.leads_restart rules).lobby_eq
    show (venue.run _).2.lobby.topics.Orderly
    rw [hlobby]
    show ((Lobby.opening rules venue.lobby.nextConnection).hostAll
      venue.lobby.states.values).topics.Orderly
    rw [Lobby.topics_hostAll_eq]
    exact (Orderly.ofCapacity _).follow _
  · obtain ⟨acts, hfollows, -⟩ := hsound.take_follows hleft hsame
    have htopics : (step.take venue).lobby.topics = venue.lobby.topics.follow acts :=
      hfollows.topics
    rw [htopics]
    exact horderly.follow acts

theorem Sound.orderly_follow (hsound : venue.Sound) (horderly : venue.lobby.topics.Orderly)
    {steps : List Step} (hlasts : venue.Lasts steps) :
    (venue.follow steps).lobby.topics.Orderly := by
  induction steps generalizing venue with
  | nil => exact horderly
  | cons step rest ih =>
      exact ih (hsound.take hlasts.1 step) (hsound.orderly_take hlasts.1 horderly step) hlasts.2

theorem Reachable.orderly (hreach : venue.Reachable) : venue.lobby.topics.Orderly := by
  obtain ⟨rules, now, steps, hlasts, rfl⟩ := hreach
  exact (Sound.opening rules now).orderly_follow (Orderly.ofCapacity _) hlasts

/-- A subscription is made to the topic of a live room, and changes nothing else. -/
theorem Sound.of_subscription? (hsound : venue.Sound) {step : Step} {number : RoomId}
    {id : SubscriptionId} (hstep : step.subscription? venue = some (number, id)) :
    venue.core.states.contains number = true ∧ id = venue.lobby.topics.nextSubscription ∧
      (step.take venue).core =
        { venue.core with topics := (venue.lobby.topics.subscribe number).2 } := by
  have hlive : ∀ {room}, venue.lobby.rooms.get? number = some room →
      venue.core.states.contains number = true :=
    fun hroom => IdMap.contains_of_get? (Lobby.states_get? hroom)
  cases step with
  | subscribe other =>
      rw [Step.subscription?] at hstep
      cases hroom : venue.lobby.rooms.get? other with
      | none =>
          rw [hsound.run_subscribe_error hroom] at hstep
          cases hstep
      | some room =>
          rw [hsound.run_subscribe hroom] at hstep
          cases hstep
          exact ⟨hlive hroom, rfl, hsound.core_subscribe number⟩
  | connect other user =>
      rw [Step.subscription?, connect] at hstep
      cases hroom : venue.lobby.rooms.get? other with
      | none =>
          rw [run_bind_error (hsound.run_subscribe_error hroom)] at hstep
          cases hstep
      | some room =>
          rw [run_bind (hsound.run_subscribe hroom)] at hstep
          cases hstep
          exact ⟨hlive hroom, rfl, hsound.core_connect number user⟩
  | _ => cases hstep

/-! ## Faithfulness -/

/-- Some events tell what becomes of a room between two venues, in the terms of those who ask. -/
structure Faithful (venue : Venue) (number : RoomId) (events : List RoomEvent) (later : Venue) :
    Prop where
  /-- The members and the owner are those announced last, or else the former ones. -/
  presence : ∃ former current, (venue.run (snapshot number)).1 = .ok former ∧
    (later.run (snapshot number)).1 = .ok current ∧
    (current.members, some current.owner) =
      (events.filterMap RoomEvent.presence?).getLast?.getD (former.members, some former.owner)
  /-- The clock is the one reported last, or else the former one. -/
  playback : ∃ former current, venue.lobby.liveRoom? number = some former ∧
    later.lobby.liveRoom? number = some current ∧
    match (events.filterMap RoomEvent.report?).getLast? with
    | some report => report = current.view.clock.report report.action report.instant
    | none => current.view.clock = former.view.clock
  /-- The messages that came to the history are those that were brought, in the same order. -/
  history : later.store.history number =
    venue.store.history number ++ events.filterMap RoomEvent.message?

theorem Sound.snapshot_fst (hsound : venue.Sound) {number : RoomId} {room : Room}
    (hroom : venue.lobby.rooms.get? number = some room) :
    (venue.run (snapshot number)).1 = .ok (room.state.snapshot venue.now) := by
  rw [(hsound.obeys_snapshot number).answer_eq, withRoom, hroom]
  rfl

/-- Whoever asks learns what the events tell of the states. -/
theorem Sound.faithful {later : Venue} (hsound : venue.Sound) (hlater : later.Sound)
    {number : RoomId} {events : List RoomEvent}
    (hbefore : venue.core.states.contains number = true)
    (hafter : later.core.states.contains number = true)
    (htells : venue.core.Tells number events later.core) :
    venue.Faithful number events later := by
  rw [← hsound.isSome_liveRoom?, hsound.liveRoom?_eq] at hbefore
  rw [← hlater.isSome_liveRoom?, hlater.liveRoom?_eq] at hafter
  obtain ⟨former, hformer⟩ := Option.isSome_iff_exists.mp hbefore
  obtain ⟨current, hcurrent⟩ := Option.isSome_iff_exists.mp hafter
  have htold := htells.state _ _ (Lobby.states_get? hformer) (Lobby.states_get? hcurrent)
  refine ⟨⟨_, _, hsound.snapshot_fst hformer, hlater.snapshot_fst hcurrent, ?_⟩,
    ⟨former, current, ?_, ?_, ?_⟩, htells.history⟩
  · have hpresence := htold.presence
    rw [(hsound.backed hformer).sound.owner, (hlater.backed hcurrent).sound.owner] at hpresence
    exact hpresence
  · rw [hsound.liveRoom?_eq, hformer]
  · rw [hlater.liveRoom?_eq, hcurrent]
  · rw [hsound.view_eq hformer, hlater.view_eq hcurrent]
    exact htold.playback

/-- The events that a subscription brought tell what becomes of its room. -/
theorem Sound.faithful_of_delivered (hsound : venue.Sound)
    (horderly : venue.lobby.topics.Orderly) {first : Step} {steps : List Step} {number : RoomId}
    {id : SubscriptionId} (hfirst : first.subscription? venue = some (number, id))
    (hlasts : venue.Lasts (first :: steps))
    (hsame : ∀ step ∈ steps, ∀ rules, step ≠ .restart rules) {events : List RoomEvent}
    (hdelivered : (first.take venue).delivered id steps = events.map .event)
    {subscription : Subscription RoomEvent}
    (hkept : ((first.take venue).follow steps).lobby.topics.subscriptions.get? id =
      some subscription)
    (hnothing : subscription.pending = 0)
    (hlive : (((first.take venue).follow steps).lobby.liveRoom? number).isSome = true) :
    venue.Faithful number events ((first.take venue).follow steps) := by
  obtain ⟨hbefore, hid, hcore⟩ := hsound.of_subscription? hfirst
  have hbegun := hsound.take hlasts.1 first
  have hlater := hbegun.follow hlasts.2
  have hopen : venue.lobby.topics.isOpen number = true := by
    rw [hsound.lobby.topics, ← Lobby.contains_states]
    exact hbefore
  obtain ⟨acts, hfollows, hreceived⟩ := hbegun.follow_follows hlasts.2 hsame
  generalize (first.take venue).follow steps = later at *
  generalize first.take venue = begun at *
  have htopics : begun.lobby.topics = (Act.subscribe number).take venue.lobby.topics :=
    congrArg Core.topics hcore
  have hheld : begun.lobby.topics.subscriptions.get? id =
      some (.holding number false begun.lobby.topics.capacity []) := by
    rw [htopics, Act.capacity_take, Act.take, get?_subscribe, if_pos ⟨hopen, hid⟩]
  have horderly' : begun.lobby.topics.Orderly := by
    rw [htopics]
    exact horderly.take (.subscribe number)
  have howed : owed number acts = events := by
    apply horderly'.owed_eq hheld (by rw [hreceived, hdelivered]) _ hnothing
    rw [← hkept]
    exact congrArg (·.subscriptions.get? id) hfollows.topics.symm
  rw [hlater.isSome_liveRoom?] at hlive
  have htells := hfollows.tells number (by rw [hcore]; exact hbefore) hlive
  rw [howed, hcore] at htells
  exact hsound.faithful hlater hbefore hlive ⟨htells.state, htells.history⟩

/-- The stream of events is faithful. Every granted call publishes one event to the topic of its
room if it is news there, and nothing else publishes any. Hence the events that a subscription has
brought tell what its room has become since it was made, as long as the same system is running, the
room is live, no events were missed and none wait. -/
theorem Reachable.stream_faithful (hreach : venue.Reachable) :
    (∀ step, (∀ rules, step ≠ .restart rules) → venue.PublishesOnce step) ∧
    (∀ number, (venue.run (snapshot number)).2.lobby.topics = venue.lobby.topics ∧
      (venue.run (headCount number)).2.lobby.topics = venue.lobby.topics) ∧
    ∀ first steps number id, first.subscription? venue = some (number, id) →
      venue.Lasts (first :: steps) → (∀ step ∈ steps, ∀ rules, step ≠ .restart rules) →
      let begun := first.take venue
      let later := begun.follow steps
      ∀ events subscription, begun.delivered id steps = events.map .event →
        later.lobby.topics.subscriptions.get? id = some subscription → subscription.pending = 0 →
        (later.lobby.liveRoom? number).isSome = true → venue.Faithful number events later := by
  have hsound := hreach.sound
  refine ⟨fun step hsame => hsound.publishesOnce hreach.lastId_lt hsame, fun number => ⟨?_, ?_⟩, ?_⟩
  · exact congrArg Core.topics (still_snapshot number venue)
  · exact congrArg Core.topics (still_headCount number venue)
  · intro first steps number id hfirst hlasts hsame begun later events subscription hdelivered hkept
      hnothing hlive
    exact hsound.faithful_of_delivered hreach.orderly hfirst hlasts hsame hdelivered hkept hnothing
      hlive

/-- Somebody listens while the video is started, something is said and the owner leaves, and then
receives three events. -/
theorem meeting_stream_faithful :
    let begun := (Step.subscribe 4).take meeting
    let steps : List Step :=
      [.ask (.control 4 1 .play), .ask (.chat 4 2 "Hello"), .ask (.leave 4 1), .receive 0 none]
    let events := (begun.delivered 0 steps).filterMap Delivery.value?
    meeting.PublishesOnce (.ask (.leave 4 1)) ∧ events.length = 3 ∧
      meeting.Faithful 4 events (begun.follow steps) := by
  intro begun steps events
  obtain ⟨honce, -, hfaithful⟩ := meeting_reachable.stream_faithful
  refine ⟨honce _ (fun _ hrestart => nomatch hrestart), by decide +kernel, ?_⟩
  exact hfaithful (.subscribe 4) steps 4 0 (by decide +kernel) (by decide +kernel)
    (by simp [steps]) events _ (by decide +kernel) rfl (by decide +kernel) (by decide +kernel)

end Venue

end WatchParty
