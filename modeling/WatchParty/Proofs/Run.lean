/-
# Runs

Everything that can happen to a venue, one step after another: calls on rooms, changes of the rows
and of the time that come from outside, subscriptions, connections and what is done over them, and
starting over. Connections are used through handles, and a step may use any handle at all, also one
that was never given out. What happens in a lobby that has been replaced is not followed further.

A run lasts as long as the shared counter has numbers left. A venue is reachable if a run from an
empty one leads there, and every reachable venue is sound.
-/

import WatchParty.Proofs.Handle
import WatchParty.Proofs.Restore

namespace WatchParty

open Operation

/-- A change that comes from outside. -/
inductive Circumstance where
  | addUser (username displayName : String)
  | addContent (title : String) (duration : Option Binary64)
  | addSession (user : UserId) (token : String) (expiresAt : Instant)
  | setFailing (failing : Bool)
  | setTime (now : Instant)
deriving DecidableEq, Repr

/-- The venue after a change from outside. -/
def Circumstance.change (venue : Venue) : Circumstance → Venue
  | .addUser username displayName =>
    { venue with database := (venue.database.seed (Store.addUser username displayName)).2 }
  | .addContent title duration =>
    { venue with database := (venue.database.seed (Store.addContent title duration)).2 }
  | .addSession user token expiresAt =>
    { venue with database := (venue.database.callStore (Store.addSession user token expiresAt)).2 }
  | .setFailing failing => venue.withStore (venue.store.setFailing failing)
  | .setTime now => { venue with now }

/-- Something that happens to a venue. -/
inductive Step where
  /-- A call is made. -/
  | ask (call : Call)
  /-- Something changes from outside. -/
  | alter (circumstance : Circumstance)
  | subscribe (room : RoomId)
  | unsubscribe (subscription : SubscriptionId)
  | receive (subscription : SubscriptionId) (limit : Option Nat)
  | connect (room : RoomId) (user : User)
  /-- A command is given over a connection. -/
  | order (handle : ConnectionHandle) (command : RoomCommand)
  /-- A text arrives over a connection. -/
  | say (handle : ConnectionHandle) (text : String)
  | close (handle : ConnectionHandle)
  /-- A connection is lost while nothing can run any more. -/
  | abandon (handle : ConnectionHandle)
  /-- Rooms are restored in the running system. -/
  | restore
  /-- A new system takes over the rows, perhaps by other rules. -/
  | restart (rules : Rules)
deriving DecidableEq, Repr

/-- The venue after a step. -/
def Step.take (venue : Venue) : Step → Venue
  | .ask call => (venue.run call.operation).2
  | .alter circumstance => circumstance.change venue
  | .subscribe room => (venue.run (Venue.subscribe room)).2
  | .unsubscribe subscription => (venue.run (Venue.unsubscribe subscription)).2
  | .receive subscription limit => (venue.run (Venue.receive subscription limit)).2
  | .connect room user => (venue.run (Venue.connect room user)).2
  | .order handle command => (venue.run (handle.handle command)).2
  | .say handle text => (venue.run (handle.handleText text)).2
  | .close handle => (venue.run handle.close).2
  | .abandon handle => (venue.run handle.abandon).2
  | .restore => (venue.run Venue.restore).2
  | .restart rules => (venue.run (do Venue.reopen rules; Venue.restore)).2

/-- A step starts over, or it does not. -/
theorem Step.eq_restart_or_ne (step : Step) :
    (∃ rules, step = .restart rules) ∨ ∀ rules, step ≠ .restart rules := by
  cases step with
  | restart rules => exact .inl ⟨rules, rfl⟩
  | _ => exact .inr fun _ heq => nomatch heq

namespace Venue

/-- The venue after some steps. -/
def follow (venue : Venue) (steps : List Step) : Venue := steps.foldl Step.take venue

/-- There are numbers left, before the steps and after each of them. -/
def Lasts (venue : Venue) : List Step → Prop
  | [] => venue.store.lastId < maxIdentifier
  | step :: rest => venue.store.lastId < maxIdentifier ∧ (step.take venue).Lasts rest

/-- A venue that can come about from one without rows, while there are numbers left. -/
def Reachable (venue : Venue) : Prop :=
  ∃ rules now steps, (opening rules now .empty).Lasts steps ∧
    (opening rules now .empty).follow steps = venue

variable {venue : Venue}

theorem Lasts.lastId_lt {steps : List Step} (hlasts : venue.Lasts steps) :
    venue.store.lastId < maxIdentifier := by
  cases steps with
  | nil => exact hlasts
  | cons step rest => exact hlasts.1

theorem Lasts.follow {steps : List Step} (hlasts : venue.Lasts steps) :
    (venue.follow steps).store.lastId < maxIdentifier := by
  induction steps generalizing venue with
  | nil => exact hlasts
  | cons step rest ih => exact ih hlasts.2

/-- A run goes on where another one has ended. -/
theorem lasts_append {steps more : List Step} :
    venue.Lasts (steps ++ more) ↔ venue.Lasts steps ∧ (venue.follow steps).Lasts more := by
  induction steps generalizing venue with
  | nil => exact ⟨fun h => ⟨h.lastId_lt, h⟩, fun h => h.2⟩
  | cons step rest ih =>
      simp only [List.cons_append, Lasts, ih, follow, List.foldl_cons]
      exact and_assoc.symm

theorem Reachable.follow (hreach : venue.Reachable) {steps : List Step}
    (hlasts : venue.Lasts steps) : (venue.follow steps).Reachable := by
  obtain ⟨rules, now, earlier, hearlier, rfl⟩ := hreach
  refine ⟨rules, now, earlier ++ steps, lasts_append.mpr ⟨hearlier, hlasts⟩, ?_⟩
  exact List.foldl_append

theorem Reachable.lastId_lt (hreach : venue.Reachable) :
    venue.store.lastId < maxIdentifier := by
  obtain ⟨rules, now, steps, hlasts, rfl⟩ := hreach
  exact hlasts.follow

theorem Reachable.take (hreach : venue.Reachable) (step : Step)
    (hleft : (step.take venue).store.lastId < maxIdentifier) : (step.take venue).Reachable := by
  have hlasts : venue.Lasts [step] := ⟨hreach.lastId_lt, hleft⟩
  exact hreach.follow hlasts

instance decidableLasts : (venue : Venue) → (steps : List Step) → Decidable (venue.Lasts steps)
  | venue, [] => inferInstanceAs (Decidable (venue.store.lastId < maxIdentifier))
  | venue, step :: rest =>
    have := decidableLasts (step.take venue) rest
    inferInstanceAs (Decidable (_ ∧ _))

/-- Two users meet in a room: the first creates it, and the second joins. -/
def meeting : Venue :=
  (opening {} 0 .empty).follow
    [.alter (.addUser "ada" "Ada"), .alter (.addUser "bob" "Bob"),
      .alter (.addContent "A Film" none), .ask (.createRoom 1 3 none), .ask (.join 4 2)]

theorem meeting_reachable : meeting.Reachable := ⟨{}, 0, _, by decide, rfl⟩

end Venue

namespace Operation

variable {α β : Type}

/-- An operation leaves every sound venue sound. -/
def Keeps (operation : Operation α) : Prop :=
  ∀ venue : Venue, venue.Sound → (venue.run operation).2.Sound

end Operation

namespace Venue

variable {α β : Type} {venue next : Venue} {operation : Operation α} {rest : α → Operation β}
  {answer : Except RoomError α}

theorem Leads.sound (hleads : venue.Leads operation answer next) (hnext : next.Sound) :
    (venue.run operation).2.Sound := by
  obtain ⟨journal, hrun⟩ := hleads.run_eq
  rw [hrun]
  exact hnext.of_eq rfl rfl

theorem sound_bind (hfirst : (venue.run operation).2.Sound) (hrest : ∀ value, Keeps (rest value)) :
    (venue.run (operation >>= rest)).2.Sound := by
  cases hrun : venue.run operation with
  | mk answer middle =>
      rw [hrun] at hfirst
      cases answer with
      | ok value =>
          rw [run_bind hrun]
          exact hrest value middle hfirst
      | error error =>
          rw [run_bind_error hrun]
          exact hfirst

end Venue

namespace Operation.Keeps

variable {α β : Type} {operation : Operation α} {rest : α → Operation β}

theorem pure (value : α) : Keeps (pure value) := fun _ hsound => hsound

theorem throw (error : RoomError) : Keeps (throw error : Operation α) := fun _ hsound => hsound

theorem get : Keeps get := fun _ hsound => hsound

theorem note (level : Level) (text : String) (origin : Origin) :
    Keeps (note level text origin) :=
  fun _ hsound => hsound.of_eq rfl rfl

theorem bind (hfirst : Keeps operation) (hrest : ∀ value, Keeps (rest value)) :
    Keeps (operation >>= rest) :=
  fun venue hsound => Venue.sound_bind (hfirst venue hsound) hrest

theorem modifyGet {change : Venue → α × Venue}
    (hchange : ∀ venue, venue.Sound → (change venue).2.Sound) : Keeps (modifyGet change) := hchange

theorem changeLobby {change : Lobby → Lobby}
    (hchange : ∀ venue : Venue, venue.Sound → (venue.withLobby (change venue.lobby)).Sound) :
    Keeps (changeLobby change) := hchange

end Operation.Keeps

namespace Venue

theorem keeps_findRoom (number : RoomId) : Keeps (findRoom number) := by
  apply Keeps.get.bind
  intro venue
  cases venue.lobby.liveRoom? number with
  | some room => exact .pure room
  | none => exact .throw _

theorem keeps_subscribe (number : RoomId) : Keeps (subscribe number) := by
  apply (keeps_findRoom number).bind
  intro room
  apply Keeps.bind
  · apply Keeps.modifyGet
    intro venue hsound
    exact hsound.of_rooms rfl fun other => Topics.isOpen_subscribe _ _ _
  · intro subscription
    cases subscription with
    | some subscription => exact .pure subscription
    | none => exact .throw _

theorem keeps_unsubscribe (subscription : SubscriptionId) : Keeps (unsubscribe subscription) :=
  .changeLobby fun _ hsound => hsound.of_rooms rfl fun _ => rfl

theorem keeps_receive (subscription : SubscriptionId) (limit : Option Nat) :
    Keeps (receive subscription limit) :=
  .modifyGet fun _ hsound => hsound.of_rooms rfl fun _ => Topics.isOpen_receive _ _ _ _

theorem keeps_connect (number : RoomId) (user : User) : Keeps (connect number user) := by
  apply (keeps_subscribe number).bind
  intro subscription
  apply Keeps.bind
  · exact .modifyGet fun _ hsound => hsound.of_rooms rfl fun _ => rfl
  · intro id
    exact (Keeps.note _ _ _).bind fun _ => .pure _

theorem keeps_restore : Keeps restore :=
  fun _ hsound => hsound.leads_restore.sound
    (hsound.withLobby (hsound.lobby.hostAll _) hsound.states_restore)

theorem keeps_restart (rules : Rules) : Keeps (do reopen rules; restore) :=
  fun _ hsound => (hsound.leads_restart rules).sound (hsound.restart rules _)

end Venue

/-- New rows under new numbers fit the rooms. -/
theorem Circumstance.sound {venue : Venue} (hsound : venue.Sound)
    (hleft : venue.store.lastId < maxIdentifier) (circumstance : Circumstance) :
    (circumstance.change venue).Sound := by
  cases circumstance with
  | addUser username displayName =>
      have hfresh : venue.store.users.get? venue.store.nextId = none :=
        hsound.numbered.get?_nextId hleft fun id user huser =>
          (hsound.numbered.users id user huser).2
      refine ⟨hsound.calm, hsound.numbered.addUser hleft username displayName, ?_, hsound.lobby⟩
      refine hsound.describes.of_tables rfl rfl rfl ?_ ?_
      · exact fun _ _ huser => IdMap.get?_insert_of_fresh hfresh huser
      · exact fun _ _ hcontent => hcontent
  | addContent title duration =>
      have hfresh : venue.store.contents.get? venue.store.nextId = none :=
        hsound.numbered.get?_nextId hleft fun id content hcontent =>
          (hsound.numbered.contents id content hcontent).2
      refine ⟨hsound.calm, hsound.numbered.addContent hleft title duration, ?_, hsound.lobby⟩
      refine hsound.describes.of_tables rfl rfl rfl ?_ ?_
      · exact fun _ _ huser => huser
      · exact fun _ _ hcontent => IdMap.get?_insert_of_fresh hfresh hcontent
  | addSession user token expiresAt =>
      have hlast := Int.le_of_lt (hsound.numbered.lt_nextId hleft)
      show Venue.Sound
        { venue with database := (venue.database.callStore (Store.addSession _ _ _)).2 }
      rw [Database.callStore, Database.seed]
      rcases venue.store.addSession_cases user token expiresAt with ⟨_, hcall⟩ | ⟨session, hcall⟩
      · rw [hcall]
        exact hsound
      · rw [hcall]
        exact ⟨hsound.calm,
          hsound.numbered.of_tables hlast (fun _ _ => .inl) (fun _ _ => .inl) (fun _ => .inl),
          hsound.describes.of_tables rfl rfl rfl (fun _ _ h => h) fun _ _ h => h, hsound.lobby⟩
  | setFailing failing =>
      exact ⟨hsound.calm, hsound.numbered.of_tables (Int.le_refl _) (fun _ _ => .inl)
          (fun _ _ => .inl) (fun _ => .inl),
        hsound.describes.of_tables rfl rfl rfl (fun _ _ h => h) fun _ _ h => h, hsound.lobby⟩
  | setTime now => exact hsound.of_eq rfl rfl

namespace Venue

variable {venue : Venue}

theorem sound_close (hsound : venue.Sound) (handle : ConnectionHandle) :
    (venue.run handle.close).2.Sound := by
  apply (hsound.leads_close handle).sound
  apply Sound.withConnections
  split
  · exact (hsound.leaveVerdict handle.room handle.user.id).enact hsound
  · exact hsound

variable (hsound : venue.Sound) (hleft : venue.store.lastId < maxIdentifier)

include hsound hleft

theorem sound_enact (call : Call) : ((call.verdict venue).enact venue).2.Sound :=
  (call.grants_sound hsound hleft).enact hsound

theorem sound_handleText (handle : ConnectionHandle) (text : String) :
    (venue.run (handle.handleText text)).2.Sound := by
  cases hread : RoomCommand.read? text with
  | none =>
      obtain ⟨_, hleads⟩ := leads_handleText_none venue handle hread
      exact hleads.sound hsound
  | some command =>
      exact (hsound.leads_handleText hleft hread).sound (sound_enact hsound hleft _)

/-- Every step leaves a sound venue. -/
theorem Sound.take (step : Step) : (step.take venue).Sound := by
  cases step with
  | ask call => exact (hsound.leads_call hleft call).sound (sound_enact hsound hleft call)
  | alter circumstance => exact circumstance.sound hsound hleft
  | subscribe room => exact keeps_subscribe room venue hsound
  | unsubscribe subscription => exact keeps_unsubscribe subscription venue hsound
  | receive subscription limit => exact keeps_receive subscription limit venue hsound
  | connect room user => exact keeps_connect room user venue hsound
  | order handle command =>
      exact (hsound.leads_handle hleft handle command).sound (sound_enact hsound hleft _)
  | say handle text => exact sound_handleText hsound hleft handle text
  | close handle => exact sound_close hsound handle
  | abandon handle => exact (leads_abandon venue handle).sound (hsound.withConnections _)
  | restore => exact keeps_restore venue hsound
  | restart rules => exact keeps_restart rules venue hsound

omit hleft

/-- A run that lasts leads to a sound venue. -/
theorem Sound.follow {steps : List Step} (hlasts : venue.Lasts steps) :
    (venue.follow steps).Sound := by
  induction steps generalizing venue with
  | nil => exact hsound
  | cons step rest ih => exact ih (hsound.take hlasts.1 step) hlasts.2

omit hsound

/-- An empty venue is sound. -/
theorem Sound.opening (rules : Rules) (now : Instant) : (opening rules now .empty).Sound where
  calm := rfl
  numbered := by
    refine ⟨Int.le_refl _, ?_, ?_, ?_⟩
    · exact fun _ _ huser => nomatch huser
    · exact fun _ _ hcontent => nomatch hcontent
    · exact fun _ hroom => nomatch hroom
  describes := by
    refine ⟨rfl, rfl, ?_, ?_⟩
    · exact fun _ hmessage => nomatch hmessage
    · exact fun _ _ hstate => nomatch hstate
  lobby := .opening rules 0

theorem Reachable.sound (hreach : venue.Reachable) : venue.Sound := by
  obtain ⟨rules, now, steps, hlasts, rfl⟩ := hreach
  exact (Sound.opening rules now).follow hlasts

end Venue

end WatchParty
