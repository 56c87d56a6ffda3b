/-
# Broadcasting conserves events

What is done with topics, one act after another, and what a subscription receives meanwhile. The
acts tell which events a subscription is owed, which subscriptions a topic has, and whether it is
closed, without a look at any subscription. The main statement compares the deliveries with that:
they account for the events owed, in order, up to those that are unread.

Acts follow one another here. That those who publish and receive at once are put into such an order
is taken for granted.
-/

import WatchParty.Proofs.Topics

namespace WatchParty.Topics

open Delivery Subscription

universe u

variable {α : Type u}

/-- Something that is done with topics. -/
inductive Act (α : Type u) where
  | openTopic (room : RoomId)
  | closeTopic (room : RoomId)
  | subscribe (room : RoomId)
  | unsubscribe (id : SubscriptionId)
  | publish (room : RoomId) (value : α)
  | receive (id : SubscriptionId) (limit : Option Nat)
deriving DecidableEq, Repr

namespace Act

/-- The topics after an act. -/
def take (topics : Topics α) : Act α → Topics α
  | .openTopic room => topics.openTopic room
  | .closeTopic room => topics.closeTopic room
  | .subscribe room => (topics.subscribe room).2
  | .unsubscribe id => topics.unsubscribe id
  | .publish room value => (topics.publish room value).2
  | .receive id limit => (topics.receive id limit).2

/-- Whether an act closes a room's topic. -/
def closes (room : RoomId) : Act α → Bool
  | .closeTopic other => other == room
  | _ => false

/-- What an act publishes to a room. -/
def news (room : RoomId) : Act α → List α
  | .publish other value => if other = room then [value] else []
  | _ => []

/-- What a subscription receives through an act. -/
def delivered (topics : Topics α) (id : SubscriptionId) : Act α → List (Delivery α)
  | .receive other limit =>
    if other = id then ((topics.receive id limit).1.map (·.deliveries)).getD [] else []
  | _ => []

/-- The subscriptions that a room's topic has after an act, if it had the given ones before. -/
def attendance (room : RoomId) (topics : Topics α) (ids : List SubscriptionId) :
    Act α → List SubscriptionId
  | .closeTopic other => if other = room then [] else ids
  | .subscribe other => if other = room then ids ++ (topics.subscribe room).1.toList else ids
  | .unsubscribe id => ids.filter (· ≠ id)
  | _ => ids

end Act

/-- The topics after some acts. -/
def follow (topics : Topics α) (acts : List (Act α)) : Topics α := acts.foldl Act.take topics

/-- What a subscription receives while some acts are done. -/
def received (id : SubscriptionId) : Topics α → List (Act α) → List (Delivery α)
  | _, [] => []
  | topics, act :: rest => act.delivered topics id ++ received id (act.take topics) rest

/-- What some acts publish to a room until they close its topic. -/
def owed (room : RoomId) : List (Act α) → List α
  | [] => []
  | act :: rest => if act.closes room then [] else act.news room ++ owed room rest

/-- What is left of the events owed to a subscription without those that it received and those that
it was told to have missed. -/
def remaining (id : SubscriptionId) (room : RoomId) (topics : Topics α) (acts : List (Act α)) :
    List α :=
  let deliveries := received id topics acts
  (owed room acts).drop
    ((deliveries.filterMap value?).length + (deliveries.map Delivery.missed).sum)

/-- The subscriptions that a room's topic has after some acts, if it had the given ones before. They
are those that were made since the topic was last closed, except for those that were given up. -/
def audience (room : RoomId) : Topics α → List SubscriptionId → List (Act α) → List SubscriptionId
  | _, ids, [] => ids
  | topics, ids, act :: rest =>
    audience room (act.take topics) (act.attendance room topics ids) rest

variable {topics : Topics α} {id : SubscriptionId} {room : RoomId} {closed : Bool}
  {unread : List α}

theorem follow_append (topics : Topics α) (acts more : List (Act α)) :
    topics.follow (acts ++ more) = (topics.follow acts).follow more := List.foldl_append

theorem received_append (id : SubscriptionId) (topics : Topics α) (acts more : List (Act α)) :
    received id topics (acts ++ more) =
      received id topics acts ++ received id (topics.follow acts) more := by
  induction acts generalizing topics with
  | nil => rfl
  | cons act rest ih =>
      rw [List.cons_append, received, ih, received, List.append_assoc]
      rfl

/-- While the topic stays open, what is published later is owed as well. -/
theorem owed_append {room : RoomId} {acts : List (Act α)}
    (hopen : acts.any (Act.closes room) = false) (more : List (Act α)) :
    owed room (acts ++ more) = owed room acts ++ owed room more := by
  induction acts with
  | nil => rfl
  | cons act rest ih =>
      obtain ⟨hact, hrest⟩ := Bool.or_eq_false_iff.mp hopen
      rw [List.cons_append, owed, owed, hact, ih hrest]
      exact (List.append_assoc _ _ _).symm

/-- A subscription is owed nothing more by whom receives. -/
theorem owed_receive (room : RoomId) (acts : List (Act α)) (id : SubscriptionId)
    (limit : Option Nat) : owed room (acts ++ [.receive id limit]) = owed room acts := by
  induction acts with
  | nil => rfl
  | cons act rest ih => rw [List.cons_append, owed, owed, ih]

/-! ## What every act keeps -/

/-- Every subscription has a number that was handed out, is to the open topic of its room unless
that has been closed, and holds what is unread of some events. -/
def Orderly (topics : Topics α) : Prop :=
  ∀ id subscription, topics.subscriptions.get? id = some subscription →
    id < topics.nextSubscription ∧
    (subscription.closed = false → topics.isOpen subscription.room = true) ∧
    ∃ unread, subscription = .holding subscription.room subscription.closed topics.capacity unread

theorem Orderly.ofCapacity (wanted : Nat) : (ofCapacity wanted : Topics α).Orderly :=
  fun _ _ hget => nomatch hget

namespace Act

@[simp]
theorem capacity_take (topics : Topics α) (act : Act α) :
    (act.take topics).capacity = topics.capacity := by
  cases act with
  | subscribe room =>
      rw [take, Topics.subscribe]
      split <;> rfl
  | publish room value =>
      rw [take, Topics.publish]
      split <;> rfl
  | receive id limit =>
      rw [take, Topics.receive]
      split <;> rfl
  | _ => rfl

theorem nextSubscription_le (topics : Topics α) (act : Act α) :
    topics.nextSubscription ≤ (act.take topics).nextSubscription := by
  cases act with
  | subscribe room =>
      rw [take, Topics.subscribe]
      split
      · exact Int.le_of_lt (Int.lt_succ _)
      · exact Int.le_refl _
  | publish room value =>
      rw [take, Topics.publish]
      split <;> exact Int.le_refl _
  | receive id limit =>
      rw [take, Topics.receive]
      split <;> exact Int.le_refl _
  | _ => exact Int.le_refl _

theorem news_of_closes {act : Act α} (hcloses : act.closes room = true) : act.news room = [] := by
  cases act with
  | closeTopic other => rfl
  | _ => cases hcloses

/-- A topic stays open as long as it is not closed. -/
theorem isOpen_take (hopen : topics.isOpen room = true) {act : Act α}
    (hkept : act.closes room = false) : (act.take topics).isOpen room = true := by
  cases act with
  | openTopic other =>
      rw [take, isOpen_openTopic, hopen, Bool.or_true]
  | closeTopic other =>
      have hne : room ≠ other := by
        rintro rfl
        simp [closes] at hkept
      rw [take, isOpen_closeTopic, hopen, Bool.and_true]
      exact decide_eq_true hne
  | subscribe other => rw [take, isOpen_subscribe, hopen]
  | unsubscribe id => exact hopen
  | publish other value => rw [take, isOpen_publish, hopen]
  | receive id limit => rw [take, isOpen_receive, hopen]

/-- After an act, what a subscription holds is what the act did not deliver of what was unread and
what it published. -/
theorem take_held (horderly : topics.Orderly)
    (hheld : topics.subscriptions.get? id = some (.holding room closed topics.capacity unread))
    {act : Act α} (hkept : act ≠ .unsubscribe id) :
    ∃ rest, (act.take topics).subscriptions.get? id =
        some (.holding room (closed || act.closes room) topics.capacity rest) ∧
      Account (act.delivered topics id) (unread ++ if closed then [] else act.news room) rest := by
  have hnothing : Account [] (unread ++ if closed then [] else ([] : List α)) unread := by
    rw [ite_self, List.append_nil]
    exact .done unread
  cases act with
  | openTopic other => exact ⟨unread, (Bool.or_false closed).symm ▸ hheld, hnothing⟩
  | closeTopic other =>
      refine ⟨unread, ?_, hnothing⟩
      rw [take, get?_closeTopic, hheld, Option.map_some, listens, room_holding, closed_holding,
        closes, Bool.beq_comm]
      cases other == room <;> cases closed <;> rfl
  | subscribe other =>
      have hne : id ≠ topics.nextSubscription := Int.ne_of_lt (horderly id _ hheld).1
      refine ⟨unread, ?_, hnothing⟩
      simp only [take, get?_subscribe, if_neg fun hnew => hne (And.right hnew), hheld, closes,
        Bool.or_false]
  | unsubscribe other =>
      have hne : id ≠ other := fun heq => hkept (heq ▸ rfl)
      refine ⟨unread, ?_, hnothing⟩
      simp only [take, get?_unsubscribe, if_neg hne, hheld, closes, Bool.or_false]
  | publish other value =>
      refine ⟨_, ?_, .done _⟩
      simp only [take, get?_publish, hheld, Option.map_some, closes, Bool.or_false, listens,
        room_holding, closed_holding, news]
      by_cases hlistens : other = room ∧ closed = false
      · obtain ⟨rfl, rfl⟩ := hlistens
        have hopen : topics.isOpen other = true := (horderly id _ hheld).2.1 rfl
        simp [hopen, push_holding]
      · cases closed with
        | true => simp
        | false =>
            have hroom : other ≠ room := fun heq => hlistens ⟨heq, rfl⟩
            simp [hroom, hroom.symm]
  | receive other limit =>
      by_cases hother : other = id
      · subst hother
        obtain ⟨deliveries, rest, ended, hreceive, haccount, -⟩ := receive_holding hheld limit
        refine ⟨rest, ?_, ?_⟩
        · simp only [take, hreceive, IdMap.get?_insert_self, closes, Bool.or_false]
        · simpa [delivered, hreceive, news] using haccount
      · refine ⟨unread, ?_, ?_⟩
        · simp only [take, get?_receive_of_ne topics (Ne.symm hother), hheld, closes,
            Bool.or_false]
        · simpa only [delivered, if_neg hother, news] using hnothing

/-- A subscription that nobody holds is new after an act, or still not held. -/
theorem take_absent (habsent : topics.subscriptions.get? id = none) (act : Act α) :
    (∃ room, act = .subscribe room ∧ topics.isOpen room = true ∧ id = topics.nextSubscription) ∨
    ((act.take topics).subscriptions.get? id = none ∧ act.delivered topics id = []) := by
  cases act with
  | openTopic room => exact .inr ⟨habsent, rfl⟩
  | closeTopic room =>
      exact .inr ⟨by rw [take, get?_closeTopic, habsent, Option.map_none], rfl⟩
  | subscribe room =>
      by_cases hnew : topics.isOpen room = true ∧ id = topics.nextSubscription
      · exact .inl ⟨room, rfl, hnew⟩
      · exact .inr ⟨by rw [take, get?_subscribe, if_neg hnew, habsent], rfl⟩
  | unsubscribe other =>
      exact .inr ⟨by rw [take, get?_unsubscribe, habsent, ite_self], rfl⟩
  | publish room value =>
      exact .inr ⟨by rw [take, get?_publish, habsent, Option.map_none], rfl⟩
  | receive other limit =>
      right
      by_cases hother : other = id
      · subst hother
        rw [take, delivered, if_pos rfl, Topics.receive, habsent]
        exact ⟨habsent, rfl⟩
      · rw [take, get?_receive_of_ne topics (Ne.symm hother), delivered, if_neg hother]
        exact ⟨habsent, rfl⟩

end Act

theorem Orderly.take (horderly : topics.Orderly) (act : Act α) : (act.take topics).Orderly := by
  intro id subscription hafter
  cases hbefore : topics.subscriptions.get? id with
  | none =>
      rcases Act.take_absent hbefore act with ⟨room, rfl, hopen, rfl⟩ | ⟨hnone, -⟩
      · rw [Act.take, get?_subscribe, if_pos ⟨hopen, rfl⟩] at hafter
        cases hafter
        refine ⟨?_, fun _ => ?_, [], ?_⟩
        · rw [Act.take, Topics.subscribe, if_pos hopen]
          exact Int.lt_succ _
        · rwa [Act.take, isOpen_subscribe]
        · rw [Act.capacity_take]
          rfl
      · rw [hnone] at hafter
        cases hafter
  | some held =>
      obtain ⟨hold, hopen, unread, hholding⟩ := horderly id held hbefore
      have hkept : act ≠ .unsubscribe id := by
        rintro rfl
        rw [Act.take, get?_unsubscribe, if_pos rfl] at hafter
        cases hafter
      rw [hholding] at hbefore
      obtain ⟨rest, hget, -⟩ := Act.take_held horderly hbefore hkept
      rw [hafter] at hget
      cases hget
      refine ⟨Int.lt_of_lt_of_le hold (Act.nextSubscription_le topics act), fun hclosed => ?_,
        rest, ?_⟩
      · have hboth := Bool.or_eq_false_iff.mp hclosed
        exact Act.isOpen_take (hopen hboth.1) hboth.2
      · rw [Act.capacity_take]
        rfl

theorem Orderly.follow (horderly : topics.Orderly) (acts : List (Act α)) :
    (topics.follow acts).Orderly := by
  induction acts generalizing topics with
  | nil => exact horderly
  | cons act rest ih => exact ih (horderly.take act)

/-- A subscription that was given up receives nothing any more, and does not come back. -/
theorem follow_absent (habsent : topics.subscriptions.get? id = none)
    (hold : id < topics.nextSubscription) (acts : List (Act α)) :
    received id topics acts = [] ∧ (topics.follow acts).subscriptions.get? id = none := by
  induction acts generalizing topics with
  | nil => exact ⟨rfl, habsent⟩
  | cons act rest ih =>
      rcases Act.take_absent habsent act with ⟨room, -, -, rfl⟩ | ⟨hnone, hnothing⟩
      · exact absurd hold (Int.lt_irrefl _)
      · have hlater := ih hnone (Int.lt_of_lt_of_le hold (Act.nextSubscription_le topics act))
        rw [received, hnothing, List.nil_append]
        exact hlater

/-- What is received while some acts are done accounts for what was unread and what they owe, and
what is not accounted for is unread, until the subscription is given up. -/
theorem Orderly.account (horderly : topics.Orderly)
    (hheld : topics.subscriptions.get? id = some (.holding room closed topics.capacity unread))
    (acts : List (Act α)) :
    ∃ rest, Account (received id topics acts) (unread ++ if closed then [] else owed room acts)
        rest ∧
      (.unsubscribe id ∉ acts → (topics.follow acts).subscriptions.get? id =
        some (.holding room (closed || acts.any (Act.closes room)) topics.capacity rest)) ∧
      (.unsubscribe id ∈ acts → (topics.follow acts).subscriptions.get? id = none) := by
  induction acts generalizing topics closed unread with
  | nil =>
      refine ⟨unread, ?_, fun _ => ?_, fun hmem => nomatch hmem⟩
      · rw [owed, ite_self, List.append_nil]
        exact .done unread
      · rw [List.any_nil, Bool.or_false]
        exact hheld
  | cons act acts ih =>
      by_cases hkept : act = .unsubscribe id
      · subst hkept
        have habsent : ((Act.unsubscribe id).take topics).subscriptions.get? id = none := by
          rw [Act.take, get?_unsubscribe, if_pos rfl]
        obtain ⟨hnothing, hgone⟩ := follow_absent habsent (horderly id _ hheld).1 acts
        refine ⟨unread ++ if closed then [] else owed room (.unsubscribe id :: acts), ?_,
          fun hnot => absurd List.mem_cons_self hnot, fun _ => hgone⟩
        rw [received, hnothing, List.append_nil]
        exact .done _
      · obtain ⟨middle, hget, hfirst⟩ := Act.take_held horderly hheld hkept
        rw [← Act.capacity_take topics act] at hget
        obtain ⟨rest, hsecond, hlast, hgone⟩ := ih (horderly.take act) hget
        refine ⟨rest, ?_, fun hnot => ?_, fun hmem => ?_⟩
        · have howed : unread ++ (if closed then [] else owed room (act :: acts)) =
              (unread ++ if closed then [] else act.news room) ++
                if closed || act.closes room then [] else owed room acts := by
            rw [List.append_assoc, owed]
            cases closed with
            | true => rfl
            | false =>
                cases hcloses : act.closes room with
                | true => simp [Act.news_of_closes hcloses]
                | false => simp
          rw [received, howed]
          exact (hfirst.extend _).append hsecond
        · have hlater := hlast fun hmem => hnot (List.mem_cons_of_mem _ hmem)
          rwa [Act.capacity_take, Bool.or_assoc] at hlater
        · exact hgone ((List.mem_cons.mp hmem).resolve_left fun heq => hkept heq.symm)

/-- Who was told of nothing missed, and has nothing waiting, has received all that was owed. -/
theorem Orderly.owed_eq (horderly : topics.Orderly)
    (hheld : topics.subscriptions.get? id = some (.holding room false topics.capacity []))
    {acts : List (Act α)} {events : List α}
    (hreceived : received id topics acts = events.map .event) {subscription : Subscription α}
    (hkept : (topics.follow acts).subscriptions.get? id = some subscription)
    (hnothing : subscription.pending = 0) : owed room acts = events := by
  obtain ⟨rest, haccount, hlast, hgone⟩ := horderly.account hheld acts
  have hstill : .unsubscribe id ∉ acts := fun hmem => nomatch (hgone hmem).symm.trans hkept
  obtain rfl := Option.some.inj (hkept.symm.trans (hlast hstill))
  have hrest : rest = [] := by
    rw [pending_holding] at hnothing
    split at hnothing
    · cases hnothing
    · exact List.length_eq_zero_iff.mp hnothing
  rw [hreceived, hrest] at haccount
  exact haccount.eq_append.trans (List.append_nil events)

/-! ## Who attends -/

/-- A subscription is to the topic that a room has now. -/
def Attends (topics : Topics α) (room : RoomId) (id : SubscriptionId) : Prop :=
  ∃ subscription, topics.subscriptions.get? id = some subscription ∧
    listens room subscription = true

theorem attends_of_get? {subscription : Subscription α}
    (hget : topics.subscriptions.get? id = some subscription) :
    topics.Attends room id ↔ subscription.room = room ∧ subscription.closed = false := by
  simp [Attends, hget, listens]

theorem not_attends_of_absent (habsent : topics.subscriptions.get? id = none) :
    ¬ topics.Attends room id := by
  simp [Attends, habsent]

/-- Who attends after an act attended before, and the act neither gave the subscription up nor
closed the topic, or the act made the subscription. -/
theorem Orderly.attends_take (horderly : topics.Orderly) (room : RoomId) (id : SubscriptionId)
    (act : Act α) :
    (act.take topics).Attends room id ↔
      (topics.Attends room id ∧ act ≠ .unsubscribe id ∧ act.closes room = false) ∨
      (act = .subscribe room ∧ topics.isOpen room = true ∧ id = topics.nextSubscription) := by
  cases hbefore : topics.subscriptions.get? id with
  | none =>
      have hout : ¬ topics.Attends room id := not_attends_of_absent hbefore
      rcases Act.take_absent hbefore act with ⟨other, rfl, hopen, rfl⟩ | ⟨hnone, -⟩
      · have hget := get?_subscribe topics other topics.nextSubscription
        rw [if_pos ⟨hopen, rfl⟩] at hget
        rw [Act.take, attends_of_get? hget]
        constructor
        · rintro ⟨rfl, -⟩
          exact .inr ⟨rfl, hopen, rfl⟩
        · rintro (⟨hin, -⟩ | ⟨heq, -⟩)
          · exact absurd hin hout
          · cases heq
            exact ⟨rfl, rfl⟩
      · refine iff_of_false (not_attends_of_absent hnone) ?_
        rintro (⟨hin, -⟩ | ⟨rfl, hopen, rfl⟩)
        · exact hout hin
        · rw [Act.take, get?_subscribe, if_pos ⟨hopen, rfl⟩] at hnone
          cases hnone
  | some held =>
      obtain ⟨hold, -, unread, hholding⟩ := horderly id held hbefore
      have hnotnew : id ≠ topics.nextSubscription := Int.ne_of_lt hold
      by_cases hkept : act = .unsubscribe id
      · subst hkept
        have hgone : ((Act.unsubscribe id).take topics).subscriptions.get? id = none := by
          rw [Act.take, get?_unsubscribe, if_pos rfl]
        refine iff_of_false (not_attends_of_absent hgone) ?_
        rintro (⟨-, hkept, -⟩ | ⟨heq, -⟩)
        · exact hkept rfl
        · cases heq
      · rw [attends_of_get? hbefore]
        rw [hholding] at hbefore
        obtain ⟨rest, hget, -⟩ := Act.take_held horderly hbefore hkept
        rw [attends_of_get? hget, room_holding, closed_holding, Bool.or_eq_false_iff]
        constructor
        · rintro ⟨rfl, hopen, hcloses⟩
          exact .inl ⟨⟨rfl, hopen⟩, hkept, hcloses⟩
        · rintro (⟨⟨rfl, hopen⟩, -, hcloses⟩ | ⟨-, -, hnew⟩)
          · exact ⟨rfl, hopen, hcloses⟩
          · exact absurd hnew hnotnew

theorem mem_attendance {ids : List SubscriptionId} (room : RoomId) (topics : Topics α)
    (id : SubscriptionId) (act : Act α) :
    id ∈ act.attendance room topics ids ↔
      (id ∈ ids ∧ act ≠ .unsubscribe id ∧ act.closes room = false) ∨
      (act = .subscribe room ∧ topics.isOpen room = true ∧ id = topics.nextSubscription) := by
  cases act with
  | closeTopic other => by_cases hroom : other = room <;> simp [Act.attendance, Act.closes, hroom]
  | subscribe other =>
      by_cases hroom : other = room
      · by_cases hopen : topics.isOpen room = true <;>
          simp [Act.attendance, Act.closes, Topics.subscribe, hroom, hopen]
      · simp [Act.attendance, Act.closes, hroom]
  | unsubscribe other => simp [Act.attendance, Act.closes, @eq_comm _ other id]
  | _ => simp [Act.attendance, Act.closes]

theorem nodup_attendance {ids : List SubscriptionId} (hnodup : ids.Nodup)
    (hnew : topics.nextSubscription ∉ ids) (room : RoomId) (act : Act α) :
    (act.attendance room topics ids).Nodup := by
  cases act with
  | closeTopic other =>
      rw [Act.attendance]
      split
      · exact List.nodup_nil
      · exact hnodup
  | subscribe other =>
      rw [Act.attendance]
      split
      · cases hopen : topics.isOpen room with
        | true =>
            simp only [Topics.subscribe, hopen, if_true, Option.toList_some]
            refine List.nodup_append.mpr ⟨hnodup, List.pairwise_singleton _ _, ?_⟩
            intro id hid other hother heq
            rw [List.mem_singleton.mp hother] at heq
            exact hnew (heq ▸ hid)
        | false => simpa [Topics.subscribe, hopen] using hnodup
      · exact hnodup
  | unsubscribe other => exact hnodup.sublist List.filter_sublist
  | _ => exact hnodup

/-- The audience are those that attend. -/
theorem Orderly.audience_spec (horderly : topics.Orderly) {ids : List SubscriptionId}
    (hnodup : ids.Nodup) (hids : ∀ id, id ∈ ids ↔ topics.Attends room id) (acts : List (Act α)) :
    (audience room topics ids acts).Nodup ∧
      ∀ id, id ∈ audience room topics ids acts ↔ (topics.follow acts).Attends room id := by
  induction acts generalizing topics ids with
  | nil => exact ⟨hnodup, hids⟩
  | cons act rest ih =>
      apply ih (horderly.take act)
      · apply nodup_attendance hnodup
        intro hnext
        obtain ⟨subscription, hget, -⟩ := (hids _).mp hnext
        exact absurd (horderly _ _ hget).1 (Int.lt_irrefl _)
      · intro id
        rw [mem_attendance, horderly.attends_take, hids]

/-- Publishing counts the audience. -/
theorem publish_fst (wanted : Nat) (acts : List (Act α)) (room : RoomId) (value : α) :
    (((ofCapacity wanted).follow acts).publish room value).1 =
      (audience room (ofCapacity wanted) [] acts).length := by
  have horderly := (Orderly.ofCapacity (α := α) wanted).follow acts
  have hnobody : ∀ id, id ∈ ([] : List SubscriptionId) ↔
      (ofCapacity wanted : Topics α).Attends room id :=
    fun id => iff_of_false List.not_mem_nil (not_attends_of_absent rfl)
  obtain ⟨hnodup, hmem⟩ :=
    (Orderly.ofCapacity (α := α) wanted).audience_spec List.nodup_nil hnobody acts
  rw [publish]
  split
  · rename_i hopen
    rw [subscriberCount, if_pos hopen]
    exact IdMap.countP_values hnodup hmem
  · rename_i hclosed
    have hempty : audience room (ofCapacity wanted) [] acts = [] := by
      refine List.eq_nil_iff_forall_not_mem.mpr fun id hid => hclosed ?_
      obtain ⟨subscription, hget, hlistens⟩ := (hmem id).mp hid
      obtain ⟨hroom, hopen⟩ := (attends_of_get? hget).mp ⟨subscription, hget, hlistens⟩
      exact hroom ▸ (horderly id subscription hget).2.1 hopen
    rw [hempty]
    rfl

/-! ## Conservation -/

/-- What holds of a subscription to a room's topic after some acts, however these publish and
receive, open and close. What remains are the events published to the room until its topic was
closed, without those received and those told as missed. -/
structure Conserves (subscribed : Topics α) (id : SubscriptionId) (room : RoomId)
    (acts : List (Act α)) (remains : List α) : Prop where
  /-- What was received stands for the first of the events, in order, and the others remain. -/
  account : Account (received id subscribed acts) (owed room acts) remains
  /-- Every count is of at least one event. -/
  counted : ∀ count, .lagged count ∈ received id subscribed acts → 1 ≤ count
  /-- No event is lost or brought twice. -/
  total : ((received id subscribed acts).filterMap value?).length +
    ((received id subscribed acts).map Delivery.missed).sum + remains.length =
      (owed room acts).length
  /-- Receiving once tells of missed events exactly if more remain than the capacity. -/
  once : .unsubscribe id ∉ acts →
    ((subscribed.follow acts).receive id (some 1)).1 = some
      (if subscribed.capacity < remains.length then
        { deliveries := [.lagged (remains.length - subscribed.capacity)], ended := none }
      else
        { deliveries := (remains.take 1).map .event
          ended := if remains = [] then some (acts.any (Act.closes room)) else none })
  /-- Then the newest events remain, as many as the capacity. -/
  newest : .unsubscribe id ∉ acts → subscribed.capacity < remains.length →
    let after := remaining id room subscribed (acts ++ [.receive id (some 1)])
    after <:+ remains ∧ after.length = subscribed.capacity
  /-- Receiving on brings all that remains, and then the end if the topic was closed. -/
  drained : .unsubscribe id ∉ acts →
    ∃ deliveries, ((subscribed.follow acts).receive id none).1 =
        some { deliveries, ended := some (acts.any (Act.closes room)) } ∧
      Account deliveries remains []

theorem capacity_follow (topics : Topics α) (acts : List (Act α)) :
    (topics.follow acts).capacity = topics.capacity := by
  induction acts generalizing topics with
  | nil => rfl
  | cons act rest ih => exact (ih (act.take topics)).trans (Act.capacity_take topics act)

/-- A subscription that was just made conserves what happens from then on. -/
theorem Orderly.conserves (horderly : topics.Orderly)
    (hheld : topics.subscriptions.get? id = some (.holding room false topics.capacity []))
    (acts : List (Act α)) :
    topics.Conserves id room acts (remaining id room topics acts) := by
  obtain ⟨rest, haccount, hlast, -⟩ := horderly.account hheld acts
  rw [List.nil_append, if_neg Bool.false_ne_true] at haccount
  simp only [Bool.false_or, ← capacity_follow topics acts] at hlast
  have hremains : remaining id room topics acts = rest := haccount.drop_eq
  rw [hremains]
  have hbehind : .unsubscribe id ∉ acts → topics.capacity < rest.length →
      ((topics.follow acts).receive id (some 1)).1 =
        some { deliveries := [.lagged (rest.length - topics.capacity)], ended := none } := by
    intro hkept hmany
    have honce := receive_one_of_behind (hlast hkept) (by rwa [capacity_follow])
    rwa [capacity_follow] at honce
  exact
    { account := haccount
      counted := fun count hmem => haccount.missed_pos hmem
      total := haccount.length_eq
      once := by
        intro hkept
        split
        · rename_i hmany
          exact hbehind hkept hmany
        · rename_i hfew
          exact receive_one_of_fits (hlast hkept) (by rwa [capacity_follow, ← Nat.not_lt])
      newest := by
        intro hkept hmany
        have hafter : remaining id room topics (acts ++ [.receive id (some 1)]) =
            rest.drop (rest.length - topics.capacity) := by
          have htold : received id topics (acts ++ [.receive id (some 1)]) =
              received id topics acts ++ [.lagged (rest.length - topics.capacity)] := by
            simp [received_append, received, Act.delivered, hbehind hkept hmany]
          have hskipped : Account [.lagged (rest.length - topics.capacity)] rest
              (rest.drop (rest.length - topics.capacity)) :=
            Account.skip (Nat.sub_pos_of_lt hmany) (Nat.sub_le _ _) (.done _)
          simp only [remaining, htold, owed_receive]
          exact (haccount.append hskipped).drop_eq
        rw [hafter]
        refine ⟨List.drop_suffix _ _, ?_⟩
        rw [List.length_drop]
        omega
      drained := by
        intro hkept
        obtain ⟨deliveries, last, ended, hreceive, hall, hnone⟩ :=
          receive_holding (hlast hkept) none
        obtain ⟨rfl, rfl⟩ := hnone rfl
        exact ⟨deliveries, by rw [hreceive], hall⟩ }

/-- Broadcasting conserves events, whatever was done before and is done after. The capacity is the
least power of two that will do, opening an open topic changes nothing, publishing counts those who
attend, and a subscription that is made conserves what is published from then on. -/
theorem conservation (wanted : Nat) (acts : List (Act α)) (room : RoomId) :
    let topics := (ofCapacity wanted).follow acts
    ((∃ exponent, topics.capacity = Nat.pow 2 exponent) ∧ max wanted 1 ≤ topics.capacity ∧
      ∀ exponent, max wanted 1 ≤ Nat.pow 2 exponent → topics.capacity ≤ Nat.pow 2 exponent) ∧
    (topics.isOpen room = true → topics.openTopic room = topics) ∧
    (∀ value, (topics.publish room value).1 =
        (audience room (ofCapacity wanted) [] acts).length ∧
      (topics.isOpen room = false → topics.publish room value = (0, topics))) ∧
    ∀ id, (topics.subscribe room).1 = some id → ∀ after,
      (topics.subscribe room).2.Conserves id room after
        (remaining id room (topics.subscribe room).2 after) := by
  intro topics
  have horderly : topics.Orderly := (Orderly.ofCapacity wanted).follow acts
  have hcapacity : topics.capacity = roundCapacity wanted := capacity_follow _ _
  refine ⟨?_, openTopic_eq_self, fun value => ⟨publish_fst wanted acts room value, ?_⟩,
    fun id hid after => ?_⟩
  · rw [hcapacity]
    obtain ⟨hpower, hleast⟩ := roundCapacity_spec wanted
    exact ⟨hpower, hleast, fun exponent => roundCapacity_le⟩
  · intro hclosed
    rw [publish, hclosed]
    rfl
  · have hopen : topics.isOpen room = true := by
      rw [subscribe] at hid
      split at hid
      · assumption
      · cases hid
    have hnew : id = topics.nextSubscription := by
      rw [subscribe, if_pos hopen] at hid
      exact (Option.some.inj hid).symm
    apply (horderly.take (.subscribe room)).conserves
    rw [Act.take, get?_subscribe, if_pos ⟨hopen, hnew⟩]
    rw [subscribe, if_pos hopen]

/-- A topic that holds two events, a subscription that misses the first of three, and a topic that
is closed and opened again. -/
theorem conservation_behind :
    let topics : Topics Nat := (ofCapacity 2).follow [.openTopic 7, .openTopic 8]
    let after : List (Act Nat) := [.publish 7 10, .publish 7 11, .publish 8 80, .publish 7 12,
      .receive 0 (some 1), .closeTopic 7, .openTopic 7, .publish 7 13]
    (topics.isOpen 7 = true ∧ topics.openTopic 7 = topics) ∧
    (topics.subscribe 7).1 = some 0 ∧
    received 0 (topics.subscribe 7).2 after = [.lagged 1] ∧
    (topics.subscribe 7).2.Conserves 0 7 after [11, 12] := by
  intro topics after
  have hconserves := conservation 2 ([.openTopic 7, .openTopic 8] : List (Act Nat)) 7
  refine ⟨⟨by decide, hconserves.2.1 (by decide)⟩, by decide, by decide, ?_⟩
  exact hconserves.2.2.2 0 (by decide) after

end WatchParty.Topics
