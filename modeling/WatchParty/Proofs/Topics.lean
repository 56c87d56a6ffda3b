/-
# What subscriptions receive

Topics are opened and closed, subscriptions are made, given up and read, and events are published,
in any order. What a subscription is owed follows from these acts alone: it is what was published to
its room from then on, until the topic was closed. The subscription holds of it what is unread, the
newest events as they are, as many as the capacity allows, and the older ones as a count. So what it
receives accounts for the events one after the other, and nothing is lost without being counted.

When a subscription is read is up to its holder. Nothing is said about it here.
-/

import Mathlib.Algebra.GroupWithZero.Nat
import WatchParty.Proofs.IdMap
import WatchParty.Topics

namespace WatchParty

universe u

variable {α : Type u}

namespace Topics

/-- The capacity is a power of two that is at least one and at least what was wanted. -/
theorem roundCapacity_spec (wanted : Nat) :
    (∃ exponent, roundCapacity wanted = Nat.pow 2 exponent) ∧
      max wanted 1 ≤ roundCapacity wanted := by
  rw [roundCapacity]
  split
  · exact ⟨⟨0, rfl⟩, by omega⟩
  · refine ⟨⟨_, rfl⟩, ?_⟩
    have hlt : wanted - 1 < Nat.pow 2 ((wanted - 1).log2 + 1) := Nat.lt_log2_self
    omega

/-- No smaller power of two would do. -/
theorem roundCapacity_le {wanted exponent : Nat} (hle : max wanted 1 ≤ Nat.pow 2 exponent) :
    roundCapacity wanted ≤ Nat.pow 2 exponent := by
  rw [roundCapacity]
  split
  · exact Nat.le_trans (Nat.le_max_right _ _) hle
  · rename_i hmany
    have hlog : Nat.pow 2 (wanted - 1).log2 ≤ wanted - 1 := Nat.log2_self_le (by omega)
    have hlt : Nat.pow 2 (wanted - 1).log2 < Nat.pow 2 exponent := by omega
    exact Nat.pow_le_pow_right (by omega) ((Nat.pow_lt_pow_iff_right (by omega)).mp hlt)

end Topics

namespace Delivery

/-- The event that a delivery brings, if it brings one. -/
def value? : Delivery α → Option α
  | .event value => some value
  | .lagged _ => none

/-- How many events a delivery stands for without bringing them. -/
def missed : Delivery α → Nat
  | .event _ => 0
  | .lagged count => count

/-- Deliveries account for published events in their order and leave the others unread. An event
that is brought is the next one, and a count stands for as many of the next ones, at least one. -/
inductive Account : List (Delivery α) → List α → List α → Prop where
  | done (unread : List α) : Account [] unread unread
  | event (value : α) {deliveries : List (Delivery α)} {published unread : List α}
    (hrest : Account deliveries published unread) :
    Account (.event value :: deliveries) (value :: published) unread
  | lagged {lost : List α} (hlost : lost ≠ []) {deliveries : List (Delivery α)}
    {published unread : List α} (hrest : Account deliveries published unread) :
    Account (.lagged lost.length :: deliveries) (lost ++ published) unread

namespace Account

variable {deliveries others : List (Delivery α)} {published middle unread : List α}

theorem append (hfirst : Account deliveries published middle)
    (hsecond : Account others middle unread) : Account (deliveries ++ others) published unread := by
  induction hfirst with
  | done => exact hsecond
  | event value hrest ih => exact .event value (ih hsecond)
  | lagged hlost hrest ih => exact .lagged hlost (ih hsecond)

/-- A count stands for the next events. -/
theorem skip {count : Nat} (hpos : 0 < count) (hle : count ≤ published.length)
    (hrest : Account deliveries (published.drop count) unread) :
    Account (.lagged count :: deliveries) published unread := by
  have hlost : (published.take count).length = count := by
    rw [List.length_take, Nat.min_eq_left hle]
  have hnonempty : published.take count ≠ [] := List.length_pos_iff.mp (by omega)
  have hcounted := lagged hnonempty hrest
  rwa [hlost, List.take_append_drop] at hcounted

/-- What is published later is unread. -/
theorem extend (haccount : Account deliveries published unread) (more : List α) :
    Account deliveries (published ++ more) (unread ++ more) := by
  induction haccount with
  | done => exact .done _
  | event value hrest ih => exact .event value ih
  | lagged hlost hrest ih =>
      rw [List.append_assoc]
      exact .lagged hlost ih

/-- Every event is brought, counted or unread. -/
theorem length_eq (haccount : Account deliveries published unread) :
    (deliveries.filterMap value?).length + (deliveries.map missed).sum + unread.length =
      published.length := by
  induction haccount with
  | done => simp
  | event value hrest ih =>
      simp only [List.filterMap_cons, List.map_cons, List.sum_cons, value?, missed,
        List.length_cons]
      omega
  | lagged hlost hrest ih =>
      simp only [List.filterMap_cons, List.map_cons, List.sum_cons, value?, missed,
        List.length_append]
      omega

/-- What is unread is what follows the events that were brought or counted. -/
theorem drop_eq (haccount : Account deliveries published unread) :
    published.drop ((deliveries.filterMap value?).length + (deliveries.map missed).sum) =
      unread := by
  induction haccount with
  | done => rfl
  | event value hrest ih =>
      simp only [List.filterMap_cons, List.map_cons, List.sum_cons, value?, missed,
        List.length_cons, Nat.zero_add, Nat.succ_add_eq_add_succ, Nat.add_succ,
        List.drop_succ_cons, ih]
  | lagged hlost hrest ih =>
      simp only [List.filterMap_cons, List.map_cons, List.sum_cons, value?, missed]
      rw [Nat.add_left_comm, List.drop_append, List.drop_eq_nil_of_le (Nat.le_add_right _ _),
        Nat.add_sub_cancel_left, ih, List.nil_append]

theorem missed_pos (haccount : Account deliveries published unread) {count : Nat}
    (hmem : .lagged count ∈ deliveries) : 0 < count := by
  induction haccount with
  | done => cases hmem
  | event value hrest ih =>
      cases hmem with
      | tail _ hmem => exact ih hmem
  | lagged hlost hrest ih =>
      cases hmem with
      | head => exact List.length_pos_iff.mpr hlost
      | tail _ hmem => exact ih hmem

/-- Where nothing was missed, what was received and what is unread is all there was. -/
theorem eq_append {events : List α} (haccount : Account (events.map .event) published unread) :
    published = events ++ unread := by
  induction events generalizing published with
  | nil =>
      cases haccount with
      | done => rfl
  | cons event rest ih =>
      cases haccount with
      | event _ hrest => exact congrArg (event :: ·) (ih hrest)

end Account

end Delivery

namespace Subscription

open Delivery

/-- A subscription of which some events are unread. It holds the newest of them, as many as the
capacity allows, and has counted the others. -/
def holding (room : RoomId) (closed : Bool) (capacity : Nat) (unread : List α) : Subscription α :=
  { room, closed
    missed := unread.length - capacity
    waiting := unread.drop (unread.length - capacity) }

variable {room : RoomId} {closed : Bool} {capacity : Nat} {unread : List α} {value : α}

theorem length_waiting_holding (room : RoomId) (closed : Bool) (capacity : Nat)
    (unread : List α) :
    (holding room closed capacity unread).waiting.length = min unread.length capacity := by
  simp only [holding, List.length_drop]
  omega

@[simp]
theorem room_holding : (holding room closed capacity unread).room = room := rfl

@[simp]
theorem closed_holding : (holding room closed capacity unread).closed = closed := rfl

theorem push_holding : (holding room closed capacity unread).push capacity value =
    holding room closed capacity (unread ++ [value]) := by
  have hlength := length_waiting_holding room closed capacity unread
  rw [push, List.length_append, hlength, List.length_singleton]
  split
  · rename_i hfits
    have hnone : unread.length - capacity = 0 := by omega
    have hnone' : (unread ++ [value]).length - capacity = 0 := by
      rw [List.length_append, List.length_singleton]
      omega
    simp only [holding, hnone, hnone', List.drop_zero]
  · rename_i hfull
    have hmore : (unread ++ [value]).length - capacity = unread.length - capacity + 1 := by
      rw [List.length_append, List.length_singleton]
      omega
    simp only [holding, hmore, ← List.drop_drop]
    rw [List.drop_append_of_le_length (Nat.sub_le unread.length capacity)]

/-- Whoever is behind by more than the capacity is told so first, and keeps the newest events. -/
theorem next_of_behind (hbehind : capacity < unread.length) :
    (holding room closed capacity unread).next =
      (some (.lagged (unread.length - capacity)),
        holding room closed capacity (unread.drop (unread.length - capacity))) := by
  have hmissed : unread.length - capacity ≠ 0 := by omega
  have hrest : (unread.drop (unread.length - capacity)).length - capacity = 0 := by
    rw [List.length_drop]
    omega
  rw [next, holding, if_pos hmissed, holding, hrest, List.drop_zero]

theorem next_of_nil : (holding room closed capacity ([] : List α)).next =
    (none, holding room closed capacity []) := by
  simp [next, holding]

theorem next_of_cons {rest : List α} (hfits : (value :: rest).length ≤ capacity) :
    (holding room closed capacity (value :: rest)).next =
      (some (.event value), holding room closed capacity rest) := by
  rw [List.length_cons] at hfits
  have hnone : rest.length + 1 - capacity = 0 := by omega
  have hnone' : rest.length - capacity = 0 := by omega
  simp [next, holding, hnone, hnone']

theorem pending_holding : (holding room closed capacity unread).pending =
    if capacity < unread.length then capacity + 1 else unread.length := by
  rw [pending, length_waiting_holding]
  by_cases hbehind : capacity < unread.length
  · have hmissed : unread.length - capacity ≠ 0 := by omega
    rw [holding, if_neg hmissed, if_pos hbehind]
    omega
  · have hmissed : unread.length - capacity = 0 := by omega
    rw [holding, if_pos hmissed, if_neg hbehind]
    omega

/-- Taking deliveries accounts for some of what is unread. -/
theorem take_holding (room : RoomId) (closed : Bool) (capacity limit : Nat) (unread : List α) :
    ∃ deliveries rest, (holding room closed capacity unread).take limit =
        (deliveries, holding room closed capacity rest) ∧
      Account deliveries unread rest ∧
      ((holding room closed capacity unread).pending ≤ limit → rest = []) := by
  induction limit generalizing unread with
  | zero =>
      refine ⟨[], unread, rfl, .done unread, fun hall => ?_⟩
      rw [pending_holding] at hall
      split at hall
      · omega
      · exact List.length_eq_zero_iff.mp (Nat.le_zero.mp hall)
  | succ limit ih =>
      by_cases hbehind : capacity < unread.length
      · obtain ⟨deliveries, rest, htake, haccount, hall⟩ :=
          ih (unread.drop (unread.length - capacity))
        refine ⟨.lagged (unread.length - capacity) :: deliveries, rest, ?_,
          haccount.skip (Nat.sub_pos_of_lt hbehind) (Nat.sub_le _ _), ?_⟩
        · rw [take, next_of_behind hbehind]
          simp only [htake]
        · rw [pending_holding, if_pos hbehind]
          intro hpending
          apply hall
          rw [pending_holding, List.length_drop]
          split <;> omega
      · cases unread with
        | nil => exact ⟨[], [], by rw [take, next_of_nil], .done [], fun _ => rfl⟩
        | cons value unread =>
            have hfits := Nat.not_lt.mp hbehind
            obtain ⟨deliveries, rest, htake, haccount, hall⟩ := ih unread
            refine ⟨.event value :: deliveries, rest, ?_, .event value haccount, ?_⟩
            · rw [take, next_of_cons hfits]
              simp only [htake]
            · rw [pending_holding, if_neg hbehind]
              intro hpending
              apply hall
              rw [List.length_cons] at hpending hfits
              rw [pending_holding, if_neg (by omega)]
              omega

end Subscription

namespace Topics

@[simp]
theorem isOpen_publish (topics : Topics α) (room other : RoomId) (value : α) :
    (topics.publish room value).2.isOpen other = topics.isOpen other := by
  rw [publish]
  split <;> rfl

@[simp]
theorem isOpen_openTopic (topics : Topics α) (room other : RoomId) :
    (topics.openTopic room).isOpen other = (decide (other = room) || topics.isOpen other) :=
  IdMap.contains_insert _ _ _ _

@[simp]
theorem isOpen_closeTopic (topics : Topics α) (room other : RoomId) :
    (topics.closeTopic room).isOpen other = (decide (other ≠ room) && topics.isOpen other) :=
  IdMap.contains_erase _ _ _

@[simp]
theorem isOpen_subscribe (topics : Topics α) (room other : RoomId) :
    (topics.subscribe room).2.isOpen other = topics.isOpen other := by
  rw [subscribe]
  split <;> rfl

@[simp]
theorem isOpen_receive (topics : Topics α) (id : SubscriptionId) (limit : Option Nat)
    (other : RoomId) : (topics.receive id limit).2.isOpen other = topics.isOpen other := by
  rw [receive]
  split <;> rfl

theorem get?_closeTopic (topics : Topics α) (room : RoomId) (id : SubscriptionId) :
    (topics.closeTopic room).subscriptions.get? id =
      (topics.subscriptions.get? id).map fun subscription =>
        if listens room subscription then { subscription with closed := true } else subscription :=
  IdMap.get?_mapValues _ _ _

theorem get?_subscribe (topics : Topics α) (room : RoomId) (id : SubscriptionId) :
    (topics.subscribe room).2.subscriptions.get? id =
      if topics.isOpen room = true ∧ id = topics.nextSubscription then
        some (.holding room false topics.capacity [])
      else topics.subscriptions.get? id := by
  rw [subscribe]
  by_cases hopen : topics.isOpen room = true
  · simp [hopen, Subscription.holding]
  · simp [hopen]

theorem get?_unsubscribe (topics : Topics α) (other id : SubscriptionId) :
    (topics.unsubscribe other).subscriptions.get? id =
      if id = other then none else topics.subscriptions.get? id :=
  IdMap.get?_erase _ _ _

theorem get?_publish (topics : Topics α) (room : RoomId) (value : α) (id : SubscriptionId) :
    (topics.publish room value).2.subscriptions.get? id =
      (topics.subscriptions.get? id).map fun subscription =>
        if topics.isOpen room && listens room subscription then
          subscription.push topics.capacity value
        else subscription := by
  rw [publish]
  cases hopen : topics.isOpen room with
  | true => simp
  | false => simp

theorem get?_receive_of_ne (topics : Topics α) {other id : SubscriptionId} (hne : id ≠ other)
    (limit : Option Nat) :
    (topics.receive other limit).2.subscriptions.get? id = topics.subscriptions.get? id := by
  rw [receive]
  split
  · rfl
  · rw [IdMap.get?_insert, if_neg hne]

/-- Receiving accounts for some of what is unread, and for all of it where no limit is set. -/
theorem receive_holding {topics : Topics α} {id : SubscriptionId} {room : RoomId} {closed : Bool}
    {unread : List α}
    (hheld : topics.subscriptions.get? id = some (.holding room closed topics.capacity unread))
    (limit : Option Nat) :
    ∃ deliveries rest ended, topics.receive id limit =
        (some { deliveries, ended },
          { topics with
            subscriptions :=
              topics.subscriptions.insert id (.holding room closed topics.capacity rest) }) ∧
      Delivery.Account deliveries unread rest ∧
      (limit = none → rest = [] ∧ ended = some closed) := by
  obtain ⟨deliveries, rest, htake, haccount, hall⟩ :=
    Subscription.take_holding room closed topics.capacity
      (limit.getD (Subscription.holding room closed topics.capacity unread).pending) unread
  cases limit with
  | none =>
      cases hall (Nat.le_refl _)
      refine ⟨deliveries, [], some closed, ?_, haccount, fun _ => ⟨rfl, rfl⟩⟩
      simp only [receive, hheld, htake]
      simp [Subscription.ended, Subscription.pending_holding]
  | some limit =>
      let left := Subscription.holding room closed topics.capacity rest
      refine ⟨deliveries, rest, if limit ≤ deliveries.length then none else some left.ended, ?_,
        haccount, fun hnone => nomatch hnone⟩
      simp only [receive, hheld, htake, decide_eq_true_eq, left]

/-- Whoever reads one delivery and is behind by more than the capacity is told so. -/
theorem receive_one_of_behind {topics : Topics α} {id : SubscriptionId} {room : RoomId}
    {closed : Bool} {unread : List α}
    (hheld : topics.subscriptions.get? id = some (.holding room closed topics.capacity unread))
    (hbehind : topics.capacity < unread.length) :
    (topics.receive id (some 1)).1 =
      some { deliveries := [.lagged (unread.length - topics.capacity)], ended := none } := by
  simp [receive, hheld, Subscription.take, Subscription.next_of_behind hbehind]

/-- Whoever reads one delivery and is not that far behind receives the next event, if one is
unread. -/
theorem receive_one_of_fits {topics : Topics α} {id : SubscriptionId} {room : RoomId}
    {closed : Bool} {unread : List α}
    (hheld : topics.subscriptions.get? id = some (.holding room closed topics.capacity unread))
    (hfits : unread.length ≤ topics.capacity) :
    (topics.receive id (some 1)).1 = some
      { deliveries := (unread.take 1).map .event
        ended := if unread = [] then some closed else none } := by
  cases unread with
  | nil =>
      simp [receive, hheld, Subscription.take, Subscription.next_of_nil, Subscription.ended,
        Subscription.pending_holding]
  | cons value rest =>
      simp [receive, hheld, Subscription.take, Subscription.next_of_cons hfits]

/-- Opening a topic that is open changes nothing. -/
theorem openTopic_eq_self {topics : Topics α} {room : RoomId} (hopen : topics.isOpen room = true) :
    topics.openTopic room = topics := by
  obtain ⟨mark, hmark⟩ := Option.isSome_iff_exists.mp hopen
  rw [openTopic, IdMap.insert_eq_self hmark]

end Topics

end WatchParty
