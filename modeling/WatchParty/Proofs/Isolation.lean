/-
# Rooms are isolated

Whoever joins, leaves, controls or talks in a room, or closes a connection to it, touches nothing of
any other room: neither its state and what readers see of it, nor its rows and messages, nor its
topic with those who listen, nor its connections. What is answered, what becomes of the room and
what is told of it depend on the room alone, besides the accounts, the rules, the time and whether
writes fail. So of two steps in different rooms either may come first.

All of this is up to the numbers of new messages, which the rooms draw from a common counter.
-/

import WatchParty.Proofs.Locality
import WatchParty.Proofs.Waiting

namespace WatchParty

open Operation Verdict Topics

namespace Subscription

/-- A subscription in which the numbers of messages do not count. -/
def unnumbered (subscription : Subscription RoomEvent) : Subscription RoomEvent :=
  { subscription with waiting := subscription.waiting.map RoomEvent.unnumbered }

@[simp]
theorem listens_unnumbered (number : RoomId) (subscription : Subscription RoomEvent) :
    listens number subscription.unnumbered = listens number subscription := rfl

theorem unnumbered_push (capacity : Nat) (subscription : Subscription RoomEvent)
    (event : RoomEvent) : (subscription.push capacity event).unnumbered =
      subscription.unnumbered.push capacity event.unnumbered := by
  have hwaiting : subscription.unnumbered.waiting ++ [event.unnumbered] =
      (subscription.waiting ++ [event]).map RoomEvent.unnumbered := by
    rw [List.map_append]
    rfl
  rw [push, push, hwaiting, List.length_map]
  split
  · rfl
  · rw [unnumbered, List.map_drop]
    rfl

end Subscription

namespace Topics

/-- A subscription after an event was published to a room. -/
def hand (topics : Topics RoomEvent) (number : RoomId) (event : RoomEvent)
    (subscription : Subscription RoomEvent) : Subscription RoomEvent :=
  if topics.isOpen number && listens number subscription then
    subscription.push topics.capacity event
  else subscription

variable (topics : Topics RoomEvent) (number : RoomId) (event : RoomEvent)
  (subscription : Subscription RoomEvent)

@[simp]
theorem room_hand : (topics.hand number event subscription).room = subscription.room := by
  rw [hand]
  split <;> simp

theorem unnumbered_hand : (topics.hand number event subscription).unnumbered =
    topics.hand number event.unnumbered subscription.unnumbered := by
  rw [hand, hand, Subscription.listens_unnumbered]
  split
  · exact subscription.unnumbered_push topics.capacity event
  · rfl

end Topics

namespace Effect

/-- A subscription after a room went through an effect. -/
def hear (topics : Topics RoomEvent) (number : RoomId) (effect : Effect)
    (subscription : Subscription RoomEvent) : Subscription RoomEvent :=
  match effect with
  | rests => subscription
  | turns _ _ event => topics.hand number event subscription
  | ends event =>
    let told := topics.hand number event subscription
    if listens number told then { told with closed := true } else told

variable {effect effect' : Effect} {topics topics' : Topics RoomEvent} {number : RoomId}
  {subscription : Subscription RoomEvent}

theorem get?_follow_acts (topics : Topics RoomEvent) (number : RoomId) (effect : Effect)
    (id : SubscriptionId) : (topics.follow (effect.acts number)).subscriptions.get? id =
      (topics.subscriptions.get? id).map (effect.hear topics number) := by
  cases effect with
  | rests => exact Option.map_id'.symm
  | turns state said event => exact get?_publish topics number event id
  | ends event =>
      show ((topics.publish number event).2.closeTopic number).subscriptions.get? id = _
      rw [get?_closeTopic, get?_publish, Option.map_map]
      rfl

theorem room_hear : (effect.hear topics number subscription).room = subscription.room := by
  cases effect with
  | rests => rfl
  | turns state said event => simp [hear]
  | ends event =>
      simp only [hear]
      split <;> simp

/-- Who listens to another room hears nothing. -/
theorem hear_of_ne (hother : subscription.room ≠ number) :
    effect.hear topics number subscription = subscription := by
  have hdeaf : listens number subscription = false := by simp [listens, hother]
  cases effect <;> simp [hear, hand, hdeaf]

theorem get?_follow_acts_of_ne {id : SubscriptionId} (hother : subscription.room ≠ number) :
    (topics.follow (effect.acts number)).subscriptions.get? id = some subscription ↔
      topics.subscriptions.get? id = some subscription := by
  rw [get?_follow_acts, Option.map_eq_some_iff]
  constructor
  · rintro ⟨former, hget, rfl⟩
    rw [room_hear] at hother
    rwa [hear_of_ne hother]
  · exact fun hget => ⟨subscription, hget, hear_of_ne hother⟩

theorem unnumbered_hear (effect : Effect) (topics : Topics RoomEvent) (number : RoomId)
    (subscription : Subscription RoomEvent) : (effect.hear topics number subscription).unnumbered =
      effect.unnumbered.hear topics number subscription.unnumbered := by
  cases effect with
  | rests => rfl
  | turns state said event => exact unnumbered_hand topics number event subscription
  | ends event =>
      simp only [hear, unnumbered, ← unnumbered_hand, Subscription.listens_unnumbered]
      split <;> rfl

theorem hear_congr (hopen : topics'.isOpen number = topics.isOpen number)
    (hcapacity : topics'.capacity = topics.capacity) :
    effect.hear topics' number subscription = effect.hear topics number subscription := by
  cases effect <;> simp [hear, hand, hopen, hcapacity]

/-- What is heard of two effects is the same up to the numbers of messages, for those to whom it was
the same before. -/
theorem hear_alike (halike : effect.unnumbered = effect'.unnumbered)
    (hopen : topics'.isOpen number = topics.isOpen number)
    (hcapacity : topics'.capacity = topics.capacity) {former former' : Subscription RoomEvent}
    (hformer : former.unnumbered = former'.unnumbered) :
    (effect.hear topics number former).unnumbered =
      (effect'.hear topics' number former').unnumbered := by
  rw [hear_congr hopen hcapacity, unnumbered_hear, unnumbered_hear, halike, hformer]

theorem state?_unnumbered (effect : Effect) (former : Option RoomState) :
    effect.unnumbered.state? former = effect.state? former := by
  cases effect <;> rfl

end Effect

/-! ## What two venues have of a room -/

/-- Two histories go on from an earlier one alike, up to the numbers of new messages, or they are
the same. -/
def Message.GoOnAlike (former first second : List Message) : Prop :=
  first = second ∨ ∃ said said', first = former ++ said ∧ second = former ++ said' ∧
    said.map Message.unnumbered = said'.map Message.unnumbered

theorem Effect.goOnAlike {effect effect' : Effect} (halike : effect.unnumbered = effect'.unnumbered)
    (former : List Message) :
    Message.GoOnAlike former (effect.history former) (effect'.history former) := by
  cases effect with
  | rests =>
      cases effect' <;> first | exact .inl rfl | cases halike
  | turns state said event =>
      cases effect' with
      | turns state' said' event' =>
          exact .inr ⟨said, said', rfl, rfl, (Effect.turns.inj halike).2.1⟩
      | _ => cases halike
  | ends event =>
      cases effect' <;> first | exact .inl rfl | cases halike

namespace Venue

/-- Two venues are alike in what there is besides rooms: the time, the rules, the accounts, and
whether writes fail. -/
structure SameCircumstances (first second : Venue) : Prop where
  now : second.now = first.now
  rules : second.lobby.rules = first.lobby.rules
  users : second.store.users = first.store.users
  failing : second.store.failing = first.store.failing

/-- Two venues have the same of a room, apart from its messages and those who listen. -/
structure SharesRoom (first second : Venue) (number : RoomId) : Prop where
  state : (second.lobby.rooms.get? number).map (·.state) =
    (first.lobby.rooms.get? number).map (·.state)
  /-- Readers see the same. -/
  view : (second.lobby.rooms.get? number).map (·.view) =
    (first.lobby.rooms.get? number).map (·.view)
  row : second.store.rooms.get? number = first.store.rooms.get? number
  participants : second.store.participants.get? number = first.store.participants.get? number
  topic : second.lobby.topics.isOpen number = first.lobby.topics.isOpen number
  connections : first.lobby.SharesConnections second.lobby number

/-- Nothing of a room is touched between two venues. -/
structure Spares (venue : Venue) (number : RoomId) (next : Venue) : Prop where
  room : next.lobby.rooms.get? number = venue.lobby.rooms.get? number
  row : next.store.rooms.get? number = venue.store.rooms.get? number
  participants : next.store.participants.get? number = venue.store.participants.get? number
  messages : next.store.history number = venue.store.history number
  topic : next.lobby.topics.isOpen number = venue.lobby.topics.isOpen number
  subscriptions : ∀ id subscription, subscription.room = number →
    (next.lobby.topics.subscriptions.get? id = some subscription ↔
      venue.lobby.topics.subscriptions.get? id = some subscription)
  connections : venue.lobby.SharesConnections next.lobby number

/-- Whoever listens to a room in two venues, and has heard the same in both, goes on to hear the
same, up to the numbers of messages. -/
def HearAlike (first second : Venue) (number : RoomId) (first' second' : Venue) : Prop :=
  ∀ id id' subscription subscription',
    first.lobby.topics.subscriptions.get? id = some subscription →
    second.lobby.topics.subscriptions.get? id' = some subscription' →
    subscription.room = number → subscription.unnumbered = subscription'.unnumbered →
    ∃ later later', first'.lobby.topics.subscriptions.get? id = some later ∧
      second'.lobby.topics.subscriptions.get? id' = some later' ∧
      later.room = number ∧ later.unnumbered = later'.unnumbered

/-- A room goes on alike from two venues, up to the numbers of new messages. -/
structure GoesOnAlike (first second : Venue) (number : RoomId) (first' second' : Venue) :
    Prop where
  shares : first'.SharesRoom second' number
  messages : Message.GoOnAlike (first.store.history number) (first'.store.history number)
    (second'.store.history number)
  listeners : first.HearAlike second number first' second'

variable {venue next first second third : Venue} {number other : RoomId} {step : Step}

namespace SharesRoom

theorem symm (hshares : first.SharesRoom second number) : second.SharesRoom first number :=
  ⟨hshares.state.symm, hshares.view.symm, hshares.row.symm, hshares.participants.symm,
    hshares.topic.symm, hshares.connections.symm⟩

theorem trans (hfirst : first.SharesRoom second number) (hsecond : second.SharesRoom third number) :
    first.SharesRoom third number :=
  ⟨hsecond.state.trans hfirst.state, hsecond.view.trans hfirst.view, hsecond.row.trans hfirst.row,
    hsecond.participants.trans hfirst.participants, hsecond.topic.trans hfirst.topic,
    hfirst.connections.trans hsecond.connections⟩

theorem core_agrees (hshares : first.SharesRoom second number)
    (hcircumstances : first.SameCircumstances second) : first.core.Agrees second.core number where
  now := hcircumstances.now
  rules := hcircumstances.rules
  users := hcircumstances.users
  failing := hcircumstances.failing
  state := by
    simp only [core, Lobby.states, IdMap.get?_mapValues]
    exact hshares.state

end SharesRoom

namespace Spares

theorem trans (hfirst : first.Spares number second) (hsecond : second.Spares number third) :
    first.Spares number third where
  room := hsecond.room.trans hfirst.room
  row := hsecond.row.trans hfirst.row
  participants := hsecond.participants.trans hfirst.participants
  messages := hsecond.messages.trans hfirst.messages
  topic := hsecond.topic.trans hfirst.topic
  subscriptions := fun id subscription hroom =>
    (hsecond.subscriptions id subscription hroom).trans (hfirst.subscriptions id subscription hroom)
  connections := hfirst.connections.trans hsecond.connections

theorem sharesRoom (hspares : first.Spares number second) : first.SharesRoom second number where
  state := by rw [hspares.room]
  view := by rw [hspares.room]
  row := hspares.row
  participants := hspares.participants
  topic := hspares.topic
  connections := hspares.connections

end Spares

/-- In sound venues the states of rooms tell what there is of them, apart from connections. -/
theorem Sound.sharesRoom (hfirst : first.Sound) (hsecond : second.Sound)
    (hstate : second.lobby.states.get? number = first.lobby.states.get? number)
    (hconnections : first.lobby.SharesConnections second.lobby number) :
    first.SharesRoom second number where
  state := by
    simp only [Lobby.states, IdMap.get?_mapValues] at hstate
    exact hstate
  view := by
    have hview : ∀ {venue : Venue}, venue.Sound →
        (venue.lobby.rooms.get? number).map (·.view) =
          (venue.lobby.states.get? number).map (·.view) := by
      intro venue hsound
      rw [Lobby.states, IdMap.get?_mapValues, Option.map_map]
      exact Option.map_congr fun room hroom => hsound.view_eq hroom
    rw [hview hfirst, hview hsecond, hstate]
  row := by
    rw [hfirst.describes.rooms, hsecond.describes.rooms, IdMap.get?_mapValues,
      IdMap.get?_mapValues, hstate]
  participants := by
    rw [hfirst.describes.participants, hsecond.describes.participants, IdMap.get?_mapValues,
      IdMap.get?_mapValues, hstate]
  topic := by
    rw [hfirst.lobby.topics, hsecond.lobby.topics, ← Lobby.contains_states,
      ← Lobby.contains_states, IdMap.contains_eq_isSome, IdMap.contains_eq_isSome, hstate]
  connections := hconnections

/-- A step that concerns a room puts it through something. -/
theorem Sound.exists_effect (hsound : venue.Sound) (hleft : venue.store.lastId < maxIdentifier)
    (hconcerns : step.Concerns venue.lobby number) :
    ∃ effect, venue.Undergoes number effect (step.take venue) := by
  have hagrees : venue.core.Agrees venue.core number := ⟨rfl, rfl, rfl, rfl, rfl⟩
  obtain ⟨effect, -, -, hundergoes, -⟩ := hsound.undergoes_take hsound hleft hleft hagrees
    hconcerns hconcerns fun _ _ _ => Iff.rfl
  exact ⟨effect, hundergoes⟩

/-- What goes on in a room spares all others. -/
theorem Sound.spares (hsound : venue.Sound) (hleft : venue.store.lastId < maxIdentifier)
    (hconcerns : step.Concerns venue.lobby number) (hother : other ≠ number) :
    venue.Spares other (step.take venue) := by
  obtain ⟨effect, hundergoes⟩ := hsound.exists_effect hleft hconcerns
  have hroom := hundergoes.rooms other hother
  have hshares : venue.SharesRoom (step.take venue) other := by
    apply hsound.sharesRoom (hsound.take hleft step)
    · simp only [Lobby.states, IdMap.get?_mapValues, hroom]
    · rintro id connection rfl
      rw [hsound.connections_take hleft hconcerns]
      exact hconcerns.get?_connectionsLeft hother
  exact
    { room := hroom
      row := hshares.row
      participants := hshares.participants
      messages := hundergoes.elsewhere other hother
      topic := hshares.topic
      connections := hshares.connections
      subscriptions := fun id subscription hlistens => by
        rw [hundergoes.topics]
        exact Effect.get?_follow_acts_of_ne (hlistens ▸ hother) }

/-- A room goes on alike from two venues that are alike in what it depends on. -/
theorem Sound.goesOnAlike (hfirst : first.Sound) (hsecond : second.Sound)
    (hleft : first.store.lastId < maxIdentifier) (hleft' : second.store.lastId < maxIdentifier)
    (hcircumstances : first.SameCircumstances second)
    (hcapacity : second.lobby.topics.capacity = first.lobby.topics.capacity)
    (hshares : first.SharesRoom second number)
    (hmessages : second.store.history number = first.store.history number)
    (hconcerns : step.Concerns first.lobby number)
    (hconcerns' : step.Concerns second.lobby number) :
    step.AnswersAlike first second ∧
      first.GoesOnAlike second number (step.take first) (step.take second) := by
  have hagrees := hshares.core_agrees hcircumstances
  obtain ⟨effect, effect', halike, hundergoes, hundergoes'⟩ := hfirst.undergoes_take hsecond hleft
    hleft' hagrees hconcerns hconcerns' hshares.connections
  refine ⟨hfirst.answersAlike hsecond hleft hleft' hagrees hconcerns hconcerns'
    hshares.connections, ?_, ?_, ?_⟩
  · apply (hfirst.take hleft step).sharesRoom (hsecond.take hleft' step)
    · have hstate : second.lobby.states.get? number = first.lobby.states.get? number :=
        hagrees.state
      rw [hundergoes.state, hundergoes'.state, ← effect.state?_unnumbered,
        ← effect'.state?_unnumbered, halike, hstate]
    · intro id connection hroom
      rw [hfirst.connections_take hleft hconcerns, hsecond.connections_take hleft' hconcerns']
      exact Step.connectionsLeft_congr (hshares.connections id connection hroom)
  · rw [hundergoes.history, hundergoes'.history, hmessages]
    exact Effect.goOnAlike halike _
  · intro id id' subscription subscription' hheld hheld' hroom hsame
    refine ⟨effect.hear first.lobby.topics number subscription,
      effect'.hear second.lobby.topics number subscription', ?_, ?_, ?_, ?_⟩
    · rw [hundergoes.topics, Effect.get?_follow_acts, hheld, Option.map_some]
    · rw [hundergoes'.topics, Effect.get?_follow_acts, hheld', Option.map_some]
    · exact Effect.room_hear.trans hroom
    · exact Effect.hear_alike halike hshares.topic hcapacity hsame

/-! ## Two steps -/

namespace GoesOnAlike

variable {middle final last : Venue}

theorem symm (hgoes : venue.GoesOnAlike venue number final last) :
    venue.GoesOnAlike venue number last final where
  shares := hgoes.shares.symm
  messages := by
    rcases hgoes.messages with hsame | ⟨said, said', hfinal, hlast, halike⟩
    · exact .inl hsame.symm
    · exact .inr ⟨said', said, hlast, hfinal, halike.symm⟩
  listeners := fun id id' subscription subscription' hheld hheld' hroom hsame => by
    have hroom' : subscription'.room = number :=
      (congrArg Subscription.room hsame).symm.trans hroom
    obtain ⟨later, later', hlater, hlater', hstill, halike⟩ :=
      hgoes.listeners id' id subscription' subscription hheld' hheld hroom' hsame.symm
    exact ⟨later', later, hlater', hlater, (congrArg Subscription.room halike).symm.trans hstill,
      halike.symm⟩

/-- What spares a room may come before or after. -/
theorem of_spares (hgoes : venue.GoesOnAlike middle number next last)
    (hbefore : venue.Spares number middle) (hafter : next.Spares number final) :
    venue.GoesOnAlike venue number final last where
  shares := hafter.sharesRoom.symm.trans hgoes.shares
  messages := by
    rw [hafter.messages]
    exact hgoes.messages
  listeners := fun id id' subscription subscription' hheld hheld' hroom hsame => by
    have hroom' : subscription'.room = number :=
      (congrArg Subscription.room hsame).symm.trans hroom
    obtain ⟨later, later', hlater, hlater', hstill, halike⟩ :=
      hgoes.listeners id id' subscription subscription' hheld
        ((hbefore.subscriptions id' subscription' hroom').mpr hheld') hroom hsame
    exact ⟨later, later', (hafter.subscriptions id later hstill).mpr hlater, hlater', hstill,
      halike⟩

/-- A room that is spared both times goes on alike. -/
theorem of_spared (hfinal : venue.Spares number final) (hlast : venue.Spares number last) :
    venue.GoesOnAlike venue number final last where
  shares := hfinal.sharesRoom.symm.trans hlast.sharesRoom
  messages := .inl (hfinal.messages.trans hlast.messages.symm)
  listeners := fun id id' subscription subscription' hheld hheld' hroom hsame =>
    ⟨subscription, subscription', (hfinal.subscriptions id subscription hroom).mpr hheld,
      (hlast.subscriptions id' subscription'
        ((congrArg Subscription.room hsame).symm.trans hroom)).mpr hheld', hroom, hsame⟩

end GoesOnAlike

/-- A step that concerns a room leaves the circumstances as they are. -/
theorem Sound.sameCircumstances (hsound : venue.Sound) (hleft : venue.store.lastId < maxIdentifier)
    (hconcerns : step.Concerns venue.lobby number) :
    venue.SameCircumstances (step.take venue) ∧
      (step.take venue).lobby.topics.capacity = venue.lobby.topics.capacity := by
  obtain ⟨effect, hundergoes⟩ := hsound.exists_effect hleft hconcerns
  refine ⟨⟨hundergoes.now, hundergoes.rules, hundergoes.users, hundergoes.failing⟩, ?_⟩
  rw [hundergoes.topics, capacity_follow]

/-- What a step concerns does not change when others do. -/
theorem Sound.concerns_take (hsound : venue.Sound) (hleft : venue.store.lastId < maxIdentifier)
    (hconcerns : step.Concerns venue.lobby number) {later : Step}
    (hlater : later.Concerns venue.lobby other) : later.Concerns (step.take venue).lobby other := by
  have hconnections := hsound.connections_take hleft hconcerns
  cases later with
  | close handle =>
      refine ⟨hlater.1, fun connection hget => hlater.2 connection ?_⟩
      rw [hconnections] at hget
      cases step with
      | close closed => exact IdMap.of_get?_erase hget
      | _ => exact hget
  | _ => exact hlater

/-- A step goes on in its room as if another room's step had not come before, and leaves the room
as if it did not come after. -/
theorem Sound.goesOnAlike_follow (hsound : venue.Sound) {step' : Step}
    (hconcerns : step.Concerns venue.lobby number) (hconcerns' : step'.Concerns venue.lobby other)
    (hother : other ≠ number) (hlasts : venue.Lasts [step]) (hlasts' : venue.Lasts [step']) :
    step.AnswersAlike venue (step'.take venue) ∧
      venue.GoesOnAlike venue number (venue.follow [step, step'])
        (venue.follow [step', step]) := by
  obtain ⟨hleft, hnext⟩ := hlasts
  have hbefore := hsound.spares hleft hconcerns' hother.symm
  have hafter := (hsound.take hleft step).spares hnext
    (hsound.concerns_take hleft hconcerns hconcerns') hother.symm
  obtain ⟨hcircumstances, hcapacity⟩ := hsound.sameCircumstances hleft hconcerns'
  obtain ⟨hanswers, hgoes⟩ := hsound.goesOnAlike (hsound.take hleft step') hleft hlasts'.2
    hcircumstances hcapacity hbefore.sharesRoom hbefore.messages hconcerns
    (hsound.concerns_take hleft hconcerns' hconcerns)
  exact ⟨hanswers, hgoes.of_spares hbefore hafter⟩

/-- Rooms are isolated. What goes on in a room spares all others. It is answered alike, and the room
goes on alike, wherever the room and the circumstances are the same. Hence two steps in different
rooms are answered alike in either order, and every room goes on alike. -/
theorem Reachable.rooms_isolated (hreach : venue.Reachable)
    (hconcerns : step.Concerns venue.lobby number) :
    (∀ other, other ≠ number → venue.Spares other (step.take venue)) ∧
    (∀ twin : Venue, twin.Reachable → venue.SameCircumstances twin →
      venue.SharesRoom twin number → twin.store.history number = venue.store.history number →
      step.Concerns twin.lobby number →
      step.AnswersAlike venue twin ∧
        venue.GoesOnAlike twin number (step.take venue) (step.take twin)) ∧
    (∀ other step', other ≠ number → step'.Concerns venue.lobby other →
      venue.Lasts [step] → venue.Lasts [step'] →
      step.AnswersAlike venue (step'.take venue) ∧ step'.AnswersAlike venue (step.take venue) ∧
        ∀ room, venue.GoesOnAlike venue room (venue.follow [step, step'])
          (venue.follow [step', step])) := by
  have hsound := hreach.sound
  have hleft := hreach.lastId_lt
  refine ⟨fun other hother => hsound.spares hleft hconcerns hother, ?_, ?_⟩
  · intro twin htwin hcircumstances hshares hmessages hconcerns'
    have hcapacity : twin.lobby.topics.capacity = venue.lobby.topics.capacity := by
      rw [htwin.tended.capacity, hreach.tended.capacity, hcircumstances.rules]
    exact hsound.goesOnAlike htwin.sound hleft htwin.lastId_lt hcircumstances hcapacity hshares
      hmessages hconcerns hconcerns'
  · intro other step' hother hconcerns' hlasts hlasts'
    obtain ⟨hanswers, hgoes⟩ :=
      hsound.goesOnAlike_follow hconcerns hconcerns' hother hlasts hlasts'
    obtain ⟨hanswers', hgoes'⟩ :=
      hsound.goesOnAlike_follow hconcerns' hconcerns hother.symm hlasts' hlasts
    refine ⟨hanswers, hanswers', fun room => ?_⟩
    by_cases hfirst : room = number
    · subst hfirst
      exact hgoes
    · by_cases hsecond : room = other
      · subst hsecond
        exact hgoes'.symm
      · have hspared : ∀ {step step' : Step} {number other : RoomId}, room ≠ number →
            room ≠ other → step.Concerns venue.lobby number → step'.Concerns venue.lobby other →
            venue.Lasts [step] → venue.Spares room (venue.follow [step, step']) := by
          intro step step' number other hne hne' hconcerns hconcerns' hlasts
          exact (hsound.spares hleft hconcerns hne).trans
            ((hsound.take hleft step).spares hlasts.2
              (hsound.concerns_take hleft hconcerns hconcerns') hne')
        exact .of_spared (hspared hfirst hsecond hconcerns hconcerns' hlasts)
          (hspared hsecond hfirst hconcerns' hconcerns hlasts')

/-- Somebody leaves a room by closing a connection, and somebody talks in another one. -/
theorem meeting_rooms_isolated :
    let bob : User := ⟨2, "bob", "Bob"⟩
    let venue := meeting.follow [.ask (.createRoom 1 3 none), .connect 4 bob]
    let twin := meeting.follow [.connect 4 bob]
    let close := Step.close ⟨0, 4, bob⟩
    let chat := Step.ask (.chat 5 1 "Hello")
    venue.Spares 5 (close.take venue) ∧
      venue.GoesOnAlike twin 4 (close.take venue) (close.take twin) ∧
      chat.AnswersAlike venue (close.take venue) ∧
      ∀ room, venue.GoesOnAlike venue room (venue.follow [close, chat])
        (venue.follow [chat, close]) := by
  intro bob venue twin close chat
  have hrooms := meeting_reachable.take (.ask (.createRoom 1 3 none)) (by decide)
  have hvenue : venue.Reachable := hrooms.take (.connect 4 bob) (by decide)
  have htwin : twin.Reachable := meeting_reachable.take (.connect 4 bob) (by decide)
  have hconcerns : close.Concerns venue.lobby 4 :=
    ⟨rfl, hrooms.sound.genuine_of_connect rfl (by decide)⟩
  have hconcerns' : close.Concerns twin.lobby 4 :=
    ⟨rfl, meeting_reachable.sound.genuine_of_connect rfl (by decide)⟩
  have hconnections : twin.lobby.connections = venue.lobby.connections := by decide +kernel
  have hshares : venue.SharesRoom twin 4 :=
    { state := by decide +kernel, view := by decide +kernel, row := by decide +kernel
      participants := by decide +kernel, topic := by decide +kernel
      connections := fun id connection _ => by rw [hconnections] }
  obtain ⟨hspares, htwins, hswaps⟩ := hvenue.rooms_isolated hconcerns
  obtain ⟨-, hgoes⟩ := htwins twin htwin (by constructor <;> decide +kernel) hshares
    (by decide +kernel) hconcerns'
  obtain ⟨-, hanswers, hrest⟩ := hswaps 5 chat (by decide) rfl (by decide +kernel)
    (by decide +kernel)
  exact ⟨hspares 5 (by decide), hgoes, hanswers, hrest⟩

end Venue

end WatchParty
