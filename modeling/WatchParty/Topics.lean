/-
# Topics and subscriptions

Every open room has a topic. Publishing an event hands it to all subscriptions that the topic has
at that moment; nobody who subscribes later sees it. A subscription holds a limited number of
events that were not received yet. When one more arrives the oldest is given up, and the number of
events given up is told in one delivery before those that were kept.

Closing a topic ends it for good. Its subscriptions still hold what they were owed, and opening
the room's topic again makes a new one, which they have no part in.
-/

import WatchParty.IdMap
import WatchParty.Identifier

namespace WatchParty

universe u

/-- Something that a subscription receives. -/
inductive Delivery (α : Type u) where
  /-- An event, in the order of publishing. -/
  | event (value : α)
  /-- Some events that were given up because the subscription fell behind. -/
  | lagged (count : Nat)
deriving DecidableEq, Repr

/-- A subscription to the topic that a room had when it was made. -/
structure Subscription (α : Type u) where
  /-- The room. -/
  room : RoomId
  /-- Whether the topic has been closed. -/
  closed : Bool
  /-- How many events were given up since the last delivery that told so. -/
  missed : Nat
  /-- The events held, oldest first. -/
  waiting : List α
deriving DecidableEq, Repr

namespace Subscription

variable {α : Type u}

/-- Hold one more event, giving up the oldest if there are more than the capacity. -/
def push (capacity : Nat) (subscription : Subscription α) (value : α) : Subscription α :=
  let waiting := subscription.waiting ++ [value]
  if waiting.length ≤ capacity then { subscription with waiting }
  else { subscription with waiting := waiting.drop 1, missed := subscription.missed + 1 }

/-- The next delivery, if one waits: first the count of what was given up, then what was kept. -/
def next (subscription : Subscription α) : Option (Delivery α) × Subscription α :=
  if subscription.missed ≠ 0 then
    (some (.lagged subscription.missed), { subscription with missed := 0 })
  else
    match subscription.waiting with
    | [] => (none, subscription)
    | value :: rest => (some (.event value), { subscription with waiting := rest })

/-- How many deliveries wait. -/
def pending (subscription : Subscription α) : Nat :=
  subscription.waiting.length + (if subscription.missed = 0 then 0 else 1)

/-- Take deliveries one after the other, as long as some wait and at most the given number. -/
def take : Nat → Subscription α → List (Delivery α) × Subscription α
  | 0, subscription => ([], subscription)
  | limit + 1, subscription =>
    match subscription.next with
    | (none, subscription) => ([], subscription)
    | (some delivery, subscription) =>
      let (deliveries, subscription) := take limit subscription
      (delivery :: deliveries, subscription)

/-- Whether nothing will ever arrive again. -/
def ended (subscription : Subscription α) : Bool :=
  subscription.closed && subscription.pending == 0

end Subscription

/-- A subscription is known by a number. -/
abbrev SubscriptionId := Int

/-- The topics of all rooms, with the subscriptions to them and to topics that have closed. -/
structure Topics (α : Type u) where
  /-- How many events a subscription holds. -/
  capacity : Nat
  /-- The rooms whose topic is open. -/
  openRooms : IdMap Unit
  /-- The subscriptions that somebody still holds. -/
  subscriptions : IdMap (Subscription α)
  /-- The number of the next subscription. -/
  nextSubscription : SubscriptionId
deriving DecidableEq, Repr

namespace Topics

variable {α : Type u}

/-- The capacity of topics for a wanted one: the least power of two that is not smaller, and at
least one. -/
def roundCapacity (wanted : Nat) : Nat :=
  if wanted ≤ 1 then 1 else Nat.pow 2 ((wanted - 1).log2 + 1)

/-- No topics, for a wanted capacity. -/
def ofCapacity (wanted : Nat) : Topics α :=
  { capacity := roundCapacity wanted, openRooms := ∅, subscriptions := ∅, nextSubscription := 0 }

/-- Whether a room's topic is open. -/
def isOpen (topics : Topics α) (room : RoomId) : Bool := topics.openRooms.contains room

/-- Open a room's topic. An open one stays as it is. -/
def openTopic (topics : Topics α) (room : RoomId) : Topics α :=
  { topics with openRooms := topics.openRooms.insert room () }

/-- Whether a subscription is to the topic that a room has now, if the topic is open. -/
def listens (room : RoomId) (subscription : Subscription α) : Bool :=
  subscription.room == room && !subscription.closed

/-- Close a room's topic. Its subscriptions keep what they hold. -/
def closeTopic (topics : Topics α) (room : RoomId) : Topics α :=
  { topics with
    openRooms := topics.openRooms.erase room
    subscriptions := topics.subscriptions.mapValues fun subscription =>
      if listens room subscription then { subscription with closed := true } else subscription }

/-- Subscribe to a room's topic, if it is open. -/
def subscribe (topics : Topics α) (room : RoomId) : Option SubscriptionId × Topics α :=
  if topics.isOpen room then
    (some topics.nextSubscription,
      { topics with
        subscriptions := topics.subscriptions.insert topics.nextSubscription
          { room, closed := false, missed := 0, waiting := [] }
        nextSubscription := topics.nextSubscription + 1 })
  else (none, topics)

/-- Give a subscription up. -/
def unsubscribe (topics : Topics α) (id : SubscriptionId) : Topics α :=
  { topics with subscriptions := topics.subscriptions.erase id }

/-- How many subscriptions a room's open topic has. -/
def subscriberCount (topics : Topics α) (room : RoomId) : Nat :=
  if topics.isOpen room then topics.subscriptions.values.countP (listens room) else 0

/-- Hand an event to the subscriptions of a room's open topic, and count them. -/
def publish (topics : Topics α) (room : RoomId) (value : α) : Nat × Topics α :=
  if topics.isOpen room then
    (topics.subscriberCount room,
      { topics with
        subscriptions := topics.subscriptions.mapValues fun subscription =>
          if listens room subscription then subscription.push topics.capacity value
          else subscription })
  else (0, topics)

/-- What taking deliveries from a subscription came to. -/
structure Receipt (α : Type u) where
  /-- What was received, in order. -/
  deliveries : List (Delivery α)
  /-- Whether nothing will arrive again; unknown if as many deliveries were taken as were asked
  for. -/
  ended : Option Bool
deriving DecidableEq, Repr

/-- Take what waits in a subscription, at most the given number of deliveries. -/
def receive (topics : Topics α) (id : SubscriptionId) (limit : Option Nat) :
    Option (Receipt α) × Topics α :=
  match topics.subscriptions.get? id with
  | none => (none, topics)
  | some subscription =>
    let (deliveries, subscription) := subscription.take (limit.getD subscription.pending)
    let full : Bool := match limit with
      | some bound => bound ≤ deliveries.length
      | none => false
    (some { deliveries, ended := if full then none else some subscription.ended },
      { topics with subscriptions := topics.subscriptions.insert id subscription })

end Topics

end WatchParty
