/-
# What waits in subscriptions

What waits in a subscription is delivered from its front, and nothing else ever takes anything out
of it but the need for room. So a subscription whose topic is closed delivers exactly what waited in
it then. Steps do with the topics what their changes of the rooms call for, and what listeners want.

While a room is there the subscriptions to it are open, and none of the events that wait in them
says that the room is gone.
-/

import WatchParty.Proofs.Stream

namespace WatchParty

universe u

variable {α : Type u}

namespace Subscription

variable {subscription rest last : Subscription α} {value : α}

/-- All deliveries that wait in a subscription: how many events were given up, and the others. -/
def deliveries (subscription : Subscription α) : List (Delivery α) :=
  (if subscription.missed = 0 then [] else [.lagged subscription.missed]) ++
    subscription.waiting.map .event

theorem length_deliveries (subscription : Subscription α) :
    subscription.deliveries.length = subscription.pending := by
  rw [deliveries, pending, List.length_append, List.length_map, Nat.add_comm]
  split <;> rfl

theorem event_mem_deliveries : .event value ∈ subscription.deliveries ↔
    value ∈ subscription.waiting := by
  rw [deliveries]
  split <;> simp

/-- Some deliveries are taken from the front of what waits, and the others are left. -/
structure Drains (subscription : Subscription α) (received : List (Delivery α))
    (rest : Subscription α) : Prop where
  room : rest.room = subscription.room
  closed : rest.closed = subscription.closed
  deliveries : subscription.deliveries = received ++ rest.deliveries

namespace Drains

variable {received more : List (Delivery α)}

theorem refl (subscription : Subscription α) : subscription.Drains [] subscription :=
  ⟨rfl, rfl, rfl⟩

theorem trans (hfirst : subscription.Drains received rest) (hsecond : rest.Drains more last) :
    subscription.Drains (received ++ more) last where
  room := hsecond.room.trans hfirst.room
  closed := hsecond.closed.trans hfirst.closed
  deliveries := by rw [hfirst.deliveries, hsecond.deliveries, List.append_assoc]

theorem mem_waiting (hdrains : subscription.Drains received rest)
    (hmem : .event value ∈ received ∨ value ∈ rest.waiting) : value ∈ subscription.waiting := by
  rw [← event_mem_deliveries, hdrains.deliveries, List.mem_append, event_mem_deliveries]
  exact hmem

end Drains

theorem next_drains (subscription : Subscription α) :
    (subscription.pending = 0 ∧ subscription.next = (none, subscription)) ∨
      ∃ delivery rest, subscription.next = (some delivery, rest) ∧
        subscription.Drains [delivery] rest := by
  by_cases hmissed : subscription.missed = 0
  · cases hwaiting : subscription.waiting with
    | nil => exact .inl ⟨by simp [pending, hmissed, hwaiting], by simp [next, hmissed, hwaiting]⟩
    | cons value waiting =>
        refine .inr ⟨.event value, { subscription with waiting }, ?_, rfl, rfl, ?_⟩
        · simp [next, hmissed, hwaiting]
        · simp [deliveries, hmissed, hwaiting]
  · refine .inr ⟨.lagged subscription.missed, { subscription with missed := 0 }, ?_, rfl, rfl, ?_⟩
    · simp [next, hmissed]
    · simp [deliveries, hmissed]

theorem Drains.pending_eq {received : List (Delivery α)}
    (hdrains : subscription.Drains received rest) :
    subscription.pending = received.length + rest.pending := by
  rw [← length_deliveries, hdrains.deliveries, List.length_append, length_deliveries]

theorem take_drains (limit : Nat) (subscription : Subscription α) :
    subscription.Drains (subscription.take limit).1 (subscription.take limit).2 ∧
      (subscription.pending ≤ limit → (subscription.take limit).2.pending = 0) := by
  induction limit generalizing subscription with
  | zero => exact ⟨.refl _, Nat.le_zero.mp⟩
  | succ limit ih =>
      rw [take]
      rcases subscription.next_drains with ⟨hnothing, hnext⟩ | ⟨delivery, rest, hnext, hdrains⟩
      · rw [hnext]
        exact ⟨.refl _, fun _ => hnothing⟩
      · rw [hnext]
        obtain ⟨hlater, hall⟩ := ih rest
        refine ⟨hdrains.trans hlater, fun hfits => hall ?_⟩
        have hpending := hdrains.pending_eq
        rw [List.length_singleton] at hpending
        omega

/-- An event that is pushed waits after some of the others, of which the oldest may be given up. -/
theorem waiting_push {capacity : Nat} (hcapacity : 1 ≤ capacity) (subscription : Subscription α)
    (value : α) : ∃ kept, (subscription.push capacity value).waiting = kept ++ [value] ∧
      ∀ other ∈ kept, other ∈ subscription.waiting := by
  rw [push]
  split
  · exact ⟨subscription.waiting, rfl, fun _ hmem => hmem⟩
  · rename_i hfull
    rw [List.length_append, List.length_singleton] at hfull
    refine ⟨subscription.waiting.drop 1, ?_, fun _ => List.mem_of_mem_drop⟩
    exact List.drop_append_of_le_length (by omega)

theorem deliveries_of_waiting {kept : List α} (hwaiting : subscription.waiting = kept ++ [value]) :
    ∃ earlier, subscription.deliveries = earlier ++ [.event value] ∧
      ∀ other, .event other ∈ earlier → other ∈ kept := by
  refine ⟨(if subscription.missed = 0 then [] else [.lagged subscription.missed]) ++
    kept.map .event, ?_, fun other hmem => ?_⟩
  · rw [deliveries, hwaiting, List.map_append, ← List.append_assoc]
    rfl
  · split at hmem <;> simpa using hmem

@[simp]
theorem room_push (capacity : Nat) (subscription : Subscription α) (value : α) :
    (subscription.push capacity value).room = subscription.room := by
  rw [push]
  split <;> rfl

@[simp]
theorem closed_push (capacity : Nat) (subscription : Subscription α) (value : α) :
    (subscription.push capacity value).closed = subscription.closed := by
  rw [push]
  split <;> rfl

/-- What waits after an event is pushed waited before, or is the event. -/
theorem mem_waiting_push {capacity : Nat} {other : α}
    (hmem : other ∈ (subscription.push capacity value).waiting) :
    other ∈ subscription.waiting ∨ other = value := by
  rw [push] at hmem
  split at hmem
  · simpa using hmem
  · simpa using List.mem_of_mem_drop hmem

end Subscription

/-! ## Receiving -/

namespace Topics

open Subscription

variable {topics : Topics α} {id : SubscriptionId} {subscription : Subscription α}

/-- Whoever receives takes deliveries from the front. Where no limit is set, they take all. -/
theorem receive_drains (hheld : topics.subscriptions.get? id = some subscription)
    (limit : Option Nat) :
    ∃ received rest ended, topics.receive id limit = (some { deliveries := received, ended },
        { topics with subscriptions := topics.subscriptions.insert id rest }) ∧
      subscription.Drains received rest ∧
      (limit = none → rest.pending = 0 ∧ ended = some subscription.closed) := by
  obtain ⟨hdrains, hall⟩ := subscription.take_drains (limit.getD subscription.pending)
  refine ⟨_, _, _, by rw [receive, hheld], hdrains, ?_⟩
  rintro rfl
  have hnothing : (subscription.take subscription.pending).2.pending = 0 := hall (Nat.le_refl _)
  have hclosed : (subscription.take subscription.pending).2.closed = subscription.closed :=
    hdrains.closed
  exact ⟨hnothing, by simp [ended, hnothing, hclosed]⟩

namespace Act

/-- A subscription that is closed is drained by its holder, and nothing else touches it. -/
theorem take_drains (horderly : topics.Orderly)
    (hheld : topics.subscriptions.get? id = some subscription)
    (hclosed : subscription.closed = true) {act : Act α} (hkept : act ≠ .unsubscribe id) :
    ∃ rest, (act.take topics).subscriptions.get? id = some rest ∧
      subscription.Drains (act.delivered topics id) rest := by
  cases act with
  | openTopic other => exact ⟨subscription, hheld, .refl _⟩
  | closeTopic other =>
      refine ⟨subscription, ?_, .refl _⟩
      rw [take, get?_closeTopic, hheld]
      simp [listens, hclosed]
  | subscribe other =>
      have hne : id ≠ topics.nextSubscription := Int.ne_of_lt (horderly id _ hheld).1
      refine ⟨subscription, ?_, .refl _⟩
      rw [take, get?_subscribe, if_neg fun hnew => hne hnew.2, hheld]
  | unsubscribe other =>
      have hne : id ≠ other := fun heq => hkept (heq ▸ rfl)
      refine ⟨subscription, ?_, .refl _⟩
      rw [take, get?_unsubscribe, if_neg hne, hheld]
  | publish other value =>
      refine ⟨subscription, ?_, .refl _⟩
      rw [take, get?_publish, hheld]
      simp [listens, hclosed]
  | receive other limit =>
      by_cases hother : other = id
      · subst hother
        obtain ⟨received, rest, ended, hreceive, hdrains, -⟩ := receive_drains hheld limit
        refine ⟨rest, ?_, ?_⟩
        · rw [take, hreceive]
          exact IdMap.get?_insert_self _ _ _
        · simpa [delivered, hreceive] using hdrains
      · refine ⟨subscription, ?_, ?_⟩
        · rw [take, get?_receive_of_ne topics (Ne.symm hother), hheld]
        · rw [delivered, if_neg hother]
          exact .refl _

end Act

theorem Orderly.follow_drains (horderly : topics.Orderly)
    (hheld : topics.subscriptions.get? id = some subscription)
    (hclosed : subscription.closed = true) {acts : List (Act α)} (hkept : .unsubscribe id ∉ acts) :
    ∃ rest, (topics.follow acts).subscriptions.get? id = some rest ∧
      subscription.Drains (received id topics acts) rest := by
  induction acts generalizing topics subscription with
  | nil => exact ⟨subscription, hheld, .refl _⟩
  | cons act acts ih =>
      obtain ⟨hact, hacts⟩ := not_or.mp (mt List.mem_cons.mpr hkept)
      obtain ⟨middle, hmiddle, hfirst⟩ :=
        Act.take_drains horderly hheld hclosed (Ne.symm hact)
      obtain ⟨rest, hrest, hsecond⟩ :=
        ih (horderly.take act) hmiddle (hfirst.closed.trans hclosed) hacts
      exact ⟨rest, hrest, hfirst.trans hsecond⟩

/-- As long as it is not given up, a subscription is to the same room. -/
theorem Orderly.follow_room (horderly : topics.Orderly)
    (hheld : topics.subscriptions.get? id = some subscription) {acts : List (Act α)}
    (hkept : .unsubscribe id ∉ acts) :
    ∃ rest, (topics.follow acts).subscriptions.get? id = some rest ∧
      rest.room = subscription.room := by
  obtain ⟨-, -, unread, hholding⟩ := horderly id _ hheld
  rw [hholding] at hheld
  obtain ⟨rest, -, hlast, -⟩ := horderly.account hheld acts
  exact ⟨_, hlast hkept, rfl⟩

end Topics

/-- An event says that its room is gone. -/
def RoomEvent.endsRoom : RoomEvent → Bool
  | .presence _ _ _ deleted _ => deleted
  | _ => false

namespace Core

open Topics

variable {core next : Core}

/-- What a step that leads from one core to the next may do with the topics. -/
inductive Warrants (core next : Core) : Act RoomEvent → Prop where
  /-- The topic of a room is opened whose number has been handed out by then. -/
  | opens {number : RoomId} (hold : number ≤ next.store.lastId) :
      Warrants core next (.openTopic number)
  /-- The topic of a room is closed that has gone. -/
  | closes {number : RoomId} (hgone : next.states.contains number = false) :
      Warrants core next (.closeTopic number)
  /-- An event is published about a room that was there. It says so if the room has gone. -/
  | tells {number : RoomId} {event : RoomEvent} (hlive : core.states.contains number = true)
      (hroom : event.room = number)
      (hends : event.endsRoom = true → next.states.contains number = false) :
      Warrants core next (.publish number event)
  | subscribes (number : RoomId) : Warrants core next (.subscribe number)
  | unsubscribes (id : SubscriptionId) : Warrants core next (.unsubscribe id)
  | receives (id : SubscriptionId) (limit : Option Nat) : Warrants core next (.receive id limit)

/-- A change opens, closes and publishes as it calls for, and does not listen. -/
theorem Change.warrants {call : Call} (hchange : core.Change call next)
    (hbacked : ∀ number state, core.states.get? number = some state →
      state.data.id = number ∧ state.deleted = false) :
    ∃ acts, next.topics = core.topics.follow acts ∧ (∀ act ∈ acts, core.Warrants next act) ∧
      ∀ id, .unsubscribe id ∉ acts ∧ received id core.topics acts = [] := by
  -- A room that stays is told of by one event, which does not say that it has gone.
  have htells : ∀ {number state event}, core.states.get? number = some state →
      event.room = number → event.endsRoom = false →
      next.topics = (core.topics.publish number event).2 →
      ∃ acts, next.topics = core.topics.follow acts ∧ (∀ act ∈ acts, core.Warrants next act) ∧
        ∀ id, .unsubscribe id ∉ acts ∧ received id core.topics acts = [] := by
    intro number state event hstate hroom hstays htopics
    refine ⟨[.publish number event], htopics, fun act hact => ?_, fun id => ⟨by simp, rfl⟩⟩
    rw [List.mem_singleton.mp hact]
    refine .tells (IdMap.contains_of_get? hstate) hroom fun hgone => ?_
    cases hstays.symm.trans hgone
  cases hchange with
  | @found user content title owner shown howner hshown state hstate =>
      refine ⟨[.openTopic state.data.id], rfl, fun act hact => ?_, fun id => ⟨by simp, rfl⟩⟩
      rw [List.mem_singleton.mp hact]
      exact .opens (Int.le_refl _)
  | enter hstate huser habsent hnow =>
      obtain ⟨hid, hlive⟩ := hbacked _ _ hstate
      refine htells hstate ?_ ?_ rfl
      · exact hid
      · exact hlive
  | depart hstate hmember hothers hnow =>
      refine htells hstate ?_ ?_ rfl
      · exact (hbacked _ _ hstate).1
      · exact Bool.eq_false_iff.mpr (mt RoomState.deleted_release.mp hothers)
  | @vacate number user state hstate hmember hlast now hnow =>
      have hgone : (core.states.erase number).contains number = false := by
        simp [IdMap.contains_erase]
      refine ⟨[.publish number ((state.release user).presenceEvent now), .closeTopic number], rfl,
        fun act hact => ?_, fun id => ⟨by simp, rfl⟩⟩
      rcases List.mem_cons.mp hact with rfl | hact
      · exact .tells (IdMap.contains_of_get? hstate) (hbacked _ _ hstate).1 fun _ => hgone
      · rw [List.mem_singleton.mp hact]
        exact .closes hgone
  | steer hstate hmember hmay hnow command hclock => exact htells hstate rfl rfl rfl
  | talk hstate => exact htells hstate rfl rfl rfl

end Core

namespace Venue

open Topics

variable {venue : Venue}

/-- A step that does not start over does with the topics what is warranted, and receives what it
delivers. Only who gives a subscription up gives it up. -/
theorem Sound.take_warrants (hsound : venue.Sound) (hleft : venue.store.lastId < maxIdentifier)
    {step : Step} (hsame : ∀ rules, step ≠ .restart rules) :
    ∃ acts, (step.take venue).lobby.topics = venue.lobby.topics.follow acts ∧
      (∀ act ∈ acts, venue.core.Warrants (step.take venue).core act) ∧
      ∀ id, (.unsubscribe id ∈ acts → step = .unsubscribe id) ∧
        received id venue.lobby.topics acts = step.delivers venue id := by
  rcases hsound.take_cases hleft hsame with ⟨call, -, hcall, -, hchange⟩ | hquiet
  · have hbacked : ∀ number state, venue.core.states.get? number = some state →
        state.data.id = number ∧ state.deleted = false := fun number state hstate =>
      have hbacked := hsound.describes.backed number state hstate
      ⟨hbacked.numbered, hbacked.sound.live⟩
    obtain ⟨acts, htopics, hwarrants, hnobody⟩ := hchange.warrants hbacked
    refine ⟨acts, htopics, hwarrants, fun id => ⟨fun hmem => absurd hmem (hnobody id).1, ?_⟩⟩
    rw [show step.delivers venue id = [] by cases step <;> first | rfl | cases hcall]
    exact (hnobody id).2
  · refine ⟨step.listens, hquiet.topics, ?_, fun id => ⟨?_, received_listens venue step id⟩⟩
    · intro act hact
      cases step with
      | subscribe room =>
          rw [List.mem_singleton.mp hact]
          exact .subscribes room
      | unsubscribe id =>
          rw [List.mem_singleton.mp hact]
          exact .unsubscribes id
      | receive id limit =>
          rw [List.mem_singleton.mp hact]
          exact .receives id limit
      | connect room user =>
          rw [List.mem_singleton.mp hact]
          exact .subscribes room
      | _ => cases hact
    · intro hmem
      cases step with
      | unsubscribe other =>
          cases List.mem_singleton.mp hmem
          rfl
      | _ => simp [Step.listens] at hmem

end Venue

/-! ## Waiting in hope -/

namespace Core

open Topics

variable {core next : Core} {topics : Topics RoomEvent} {subscription rest : Subscription RoomEvent}

/-- While the room of a subscription is there, the subscription is open, and no event that waits in
it says otherwise. The number of the room has been handed out. -/
structure Hopes (core : Core) (subscription : Subscription RoomEvent) : Prop where
  numbered : subscription.room ≤ core.store.lastId
  hopeful : core.states.contains subscription.room = true →
    subscription.closed = false ∧ ∀ event ∈ subscription.waiting, event.endsRoom = false

/-- All open topics and all subscriptions are of rooms whose numbers have been handed out, and those
of rooms that are there do not know of an end. -/
structure Tends (core : Core) (topics : Topics RoomEvent) : Prop where
  opened : ∀ number, topics.isOpen number = true → number ≤ core.store.lastId
  hopes : ∀ id subscription, topics.subscriptions.get? id = some subscription →
    core.Hopes subscription

theorem Hopes.later (hhopes : core.Hopes subscription) (hprecedes : core.Precedes next) :
    next.Hopes subscription where
  numbered := Int.le_trans hhopes.numbered hprecedes.counted
  hopeful := fun hlive => hhopes.hopeful (hprecedes.contains hhopes.numbered hlive)

/-- Of what waits some may be taken. -/
theorem Hopes.drains {received : List (Delivery RoomEvent)} (hhopes : core.Hopes subscription)
    (hdrains : subscription.Drains received rest) : core.Hopes rest where
  numbered := hdrains.room ▸ hhopes.numbered
  hopeful := fun hlive => by
    rw [hdrains.room] at hlive
    obtain ⟨hopen, hwaiting⟩ := hhopes.hopeful hlive
    exact ⟨hdrains.closed.trans hopen,
      fun event hmem => hwaiting event (hdrains.mem_waiting (.inr hmem))⟩

theorem Tends.ofCapacity (core : Core) (wanted : Nat) : core.Tends (.ofCapacity wanted) where
  opened := fun _ hopen => absurd (show false = true from hopen) Bool.false_ne_true
  hopes := fun _ _ hget => nomatch hget

/-- What is warranted keeps up the hope of those whose room is there. -/
theorem Tends.take (htends : next.Tends topics) {act : Act RoomEvent}
    (hwarrants : core.Warrants next act) : next.Tends (act.take topics) := by
  obtain ⟨hopened, hhopes⟩ := htends
  cases hwarrants with
  | @opens number hold =>
      refine ⟨fun other hopen => ?_, hhopes⟩
      rw [Act.take, isOpen_openTopic, Bool.or_eq_true, decide_eq_true_eq] at hopen
      rcases hopen with rfl | hopen
      · exact hold
      · exact hopened other hopen
  | @closes number hgone =>
      refine ⟨fun other hopen => ?_, fun id subscription hget => ?_⟩
      · rw [Act.take, isOpen_closeTopic, Bool.and_eq_true] at hopen
        exact hopened other hopen.2
      · rw [Act.take, get?_closeTopic, Option.map_eq_some_iff] at hget
        obtain ⟨former, hformer, rfl⟩ := hget
        have hformer := hhopes id former hformer
        split
        · rename_i hlistens
          refine ⟨hformer.numbered, fun hlive => ?_⟩
          have hroom : former.room = number := by simp_all [listens]
          cases hgone.symm.trans (hroom ▸ hlive)
        · exact hformer
  | @tells number event _ _ hends =>
      refine ⟨fun other hopen => ?_, fun id subscription hget => ?_⟩
      · rw [Act.take, isOpen_publish] at hopen
        exact hopened other hopen
      · rw [Act.take, get?_publish, Option.map_eq_some_iff] at hget
        obtain ⟨former, hformer, rfl⟩ := hget
        have hformer := hhopes id former hformer
        split
        · rename_i hlistens
          have hroom : former.room = number := by simp_all [listens]
          refine ⟨by rw [Subscription.room_push]; exact hformer.numbered, fun hlive => ?_⟩
          rw [Subscription.room_push] at hlive
          obtain ⟨hopen, hwaiting⟩ := hformer.hopeful hlive
          refine ⟨by rw [Subscription.closed_push, hopen], fun other hmem => ?_⟩
          rcases Subscription.mem_waiting_push hmem with hmem | rfl
          · exact hwaiting other hmem
          · refine Bool.eq_false_iff.mpr fun hgone => ?_
            cases (hends hgone).symm.trans (hroom ▸ hlive)
        · exact hformer
  | subscribes number =>
      refine ⟨fun other hopen => ?_, fun id subscription hget => ?_⟩
      · rw [Act.take, isOpen_subscribe] at hopen
        exact hopened other hopen
      · rw [Act.take, get?_subscribe] at hget
        split at hget
        · rename_i hnew
          cases hget
          have hnothing : ∀ event ∈ (Subscription.holding number false topics.capacity
              ([] : List RoomEvent)).waiting, event.endsRoom = false := by
            simp [Subscription.holding]
          exact ⟨hopened number hnew.1, fun _ => ⟨rfl, hnothing⟩⟩
        · exact hhopes id subscription hget
  | unsubscribes id =>
      exact ⟨hopened, fun other subscription hget => hhopes other _ (IdMap.of_get?_erase hget)⟩
  | receives id limit =>
      refine ⟨fun other hopen => ?_, fun other subscription hget => ?_⟩
      · rw [Act.take, isOpen_receive] at hopen
        exact hopened other hopen
      · cases hheld : topics.subscriptions.get? id with
        | none =>
            rw [Act.take, receive, hheld] at hget
            exact hhopes other subscription hget
        | some held =>
            obtain ⟨received, rest, ended, hreceive, hdrains, -⟩ := receive_drains hheld limit
            rw [Act.take, hreceive] at hget
            rcases IdMap.of_get?_insert hget with ⟨-, rfl⟩ | hold
            · exact (hhopes id held hheld).drains hdrains
            · exact hhopes other subscription hold

theorem Tends.follow (htends : next.Tends topics) {acts : List (Act RoomEvent)}
    (hwarrants : ∀ act ∈ acts, core.Warrants next act) : next.Tends (topics.follow acts) := by
  induction acts generalizing topics with
  | nil => exact htends
  | cons act acts ih =>
      exact ih (htends.take (hwarrants act List.mem_cons_self))
        fun other hother => hwarrants other (List.mem_cons_of_mem _ hother)

end Core

namespace Venue

open Topics

variable {venue : Venue}

/-- The topics of a venue are of the capacity that the rules ask for, and those who listen do not
know of an end as long as their room is there. -/
structure Tended (venue : Venue) : Prop where
  capacity : venue.lobby.topics.capacity = roundCapacity venue.lobby.rules.broadcastCapacity
  tends : venue.core.Tends venue.lobby.topics

theorem Tended.opening (rules : Rules) (now : Instant) : (opening rules now .empty).Tended where
  capacity := rfl
  tends := .ofCapacity _ rules.broadcastCapacity

/-- A new system has topics for its rooms, and nobody listens. -/
theorem Sound.tended_restart (hsound : venue.Sound) (rules : Rules) :
    ((Step.restart rules).take venue).Tended := by
  have hlobby : ((Step.restart rules).take venue).lobby =
      (Lobby.opening rules venue.lobby.nextConnection).hostAll venue.lobby.states.values :=
    (hsound.leads_restart rules).lobby_eq
  have hstore := (hsound.take_restart rules).1
  constructor
  · rw [hlobby, Lobby.topics_hostAll_eq, capacity_follow, Lobby.rules_hostAll]
    rfl
  · rw [hlobby, Lobby.topics_hostAll_eq]
    have hopens : ∀ act ∈ venue.lobby.states.values.map fun state => Act.openTopic state.data.id,
        venue.core.Warrants ((Step.restart rules).take venue).core act := by
      intro act hact
      obtain ⟨state, hstate, rfl⟩ := List.mem_map.mp hact
      obtain ⟨number, hget⟩ := IdMap.mem_values.mp hstate
      have hbacked := hsound.describes.backed number state hget
      refine .opens ?_
      show state.data.id ≤ ((Step.restart rules).take venue).store.lastId
      rw [hstore, hbacked.numbered]
      exact hsound.numbered.rooms number (hsound.describes.contains_room hget)
    exact (Core.Tends.ofCapacity _ rules.broadcastCapacity).follow hopens

/-- Only starting over changes the rules. -/
theorem Sound.rules_take (hsound : venue.Sound) (hleft : venue.store.lastId < maxIdentifier)
    {step : Step} (hsame : ∀ rules, step ≠ .restart rules) :
    (step.take venue).lobby.rules = venue.lobby.rules := by
  rcases hsound.take_cases hleft hsame with ⟨call, -, -, -, hchange⟩ | hquiet
  · generalize hcore : (step.take venue).core = core at hchange
    have hrules : (step.take venue).lobby.rules = core.rules := congrArg Core.rules hcore
    rw [hrules]
    cases hchange <;> rfl
  · exact hquiet.rules

theorem Sound.tended_take (hsound : venue.Sound) (hleft : venue.store.lastId < maxIdentifier)
    (htended : venue.Tended) (step : Step) : (step.take venue).Tended := by
  obtain ⟨rules, rfl⟩ | hsame := step.eq_restart_or_ne
  · exact hsound.tended_restart rules
  · obtain ⟨acts, htopics, hwarrants, -⟩ := hsound.take_warrants hleft hsame
    have hprecedes := hsound.precedes_take hleft step
    constructor
    · rw [htopics, capacity_follow, hsound.rules_take hleft hsame, htended.capacity]
    · rw [htopics]
      refine Core.Tends.follow ⟨fun number hopen => ?_, fun id subscription hget => ?_⟩ hwarrants
      · exact Int.le_trans (htended.tends.opened number hopen) hprecedes.counted
      · exact (htended.tends.hopes id subscription hget).later hprecedes

theorem Sound.tended_follow (hsound : venue.Sound) (htended : venue.Tended) {steps : List Step}
    (hlasts : venue.Lasts steps) : (venue.follow steps).Tended := by
  induction steps generalizing venue with
  | nil => exact htended
  | cons step rest ih =>
      exact ih (hsound.take hlasts.1 step) (hsound.tended_take hlasts.1 htended step) hlasts.2

theorem Reachable.tended (hreach : venue.Reachable) : venue.Tended := by
  obtain ⟨rules, now, steps, hlasts, rfl⟩ := hreach
  exact (Sound.opening rules now).tended_follow (.opening rules now) hlasts

end Venue

end WatchParty
