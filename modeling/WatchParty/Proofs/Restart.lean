/-
# A restart loses nothing

Two venues are twins if they have the same time, the same rows, the same rules, and rooms in the
same states. Twins need not have the same serial numbers, departed rooms, topics or connections, and
a system that has taken over the rows of another one has none of these in common with it. Sound
twins cannot be told apart by what is asked of rooms, now or later, because verdicts are read off
from what twins share.
-/

import WatchParty.Proofs.Run
import WatchParty.Venue.Listing

namespace WatchParty

open Operation

variable {α : Type} {first second : Venue}

namespace Venue

/-- Two venues agree in all that verdicts are read off from. -/
structure Twin (first second : Venue) : Prop where
  now : first.now = second.now
  database : first.database = second.database
  rules : first.lobby.rules = second.lobby.rules
  states : first.lobby.states = second.lobby.states

namespace Twin

variable (htwin : first.Twin second)

include htwin

theorem store : first.store = second.store := congrArg Database.store htwin.database

theorem change {store : Store} {lobby other : Lobby} (hrules : lobby.rules = other.rules)
    (hstates : lobby.states = other.states) :
    ((first.withStore store).withLobby lobby).Twin ((second.withStore store).withLobby other) where
  now := htwin.now
  database := by
    show { first.database with store } = { second.database with store }
    rw [htwin.database]
  rules := hrules
  states := hstates

variable {room other : Room} (hroom : room.state = other.state) (state : RoomState)
  (event : RoomEvent)

include hroom

theorem settle : (first.settle room state event).Twin (second.settle other state event) := by
  rw [Venue.settle, Venue.settle, htwin.store]
  apply htwin.change
  · exact htwin.rules
  · simp only [Lobby.states_announce, Lobby.states_renew, htwin.states, Room.id, hroom]

theorem dissolve : (first.dissolve room state event).Twin (second.dissolve other state event) := by
  have hid : room.id = other.id := congrArg (·.data.id) hroom
  rw [Venue.dissolve, Venue.dissolve, htwin.store, hid]
  apply htwin.change
  · exact htwin.rules
  · simp only [Lobby.states_remove, Lobby.states_announce, Lobby.states_renew, htwin.states, hid]

omit hroom

theorem announce : (first.withLobby (first.lobby.announce event)).Twin
    (second.withLobby (second.lobby.announce event)) :=
  ⟨htwin.now, htwin.database, htwin.rules, htwin.states⟩

theorem establish : (first.establish state).Twin (second.establish state) := by
  rw [Venue.establish, Venue.establish, htwin.store]
  apply htwin.change
  · exact htwin.rules
  · rw [Lobby.states_host, Lobby.states_host, htwin.states]

theorem converse (message : Message) : (first.converse message).Twin (second.converse message) := by
  rw [Venue.converse, Venue.converse, htwin.store]
  exact htwin.change htwin.rules htwin.states

/-- Twins stay twins when something changes from outside. -/
theorem alter (circumstance : Circumstance) :
    (circumstance.change first).Twin (circumstance.change second) := by
  constructor
  · cases circumstance with
    | setTime now => rfl
    | _ => exact htwin.now
  · cases circumstance <;>
      simp only [Circumstance.change, Venue.withStore, Venue.store, htwin.database]
  · cases circumstance <;> exact htwin.rules
  · cases circumstance <;> exact htwin.states

theorem withJournal (journal journal' : Journal) :
    { first with journal }.Twin { second with journal := journal' } :=
  ⟨htwin.now, htwin.database, htwin.rules, htwin.states⟩

theorem withNow (now : Instant) : { first with now }.Twin { second with now } :=
  ⟨rfl, htwin.database, htwin.rules, htwin.states⟩

/-- Rooms of twins come in pairs with the same state. -/
theorem rooms (number : RoomId) :
    (first.lobby.rooms.get? number).map (·.state) =
      (second.lobby.rooms.get? number).map (·.state) := by
  have hstates := congrArg (·.get? number) htwin.states
  simpa only [Lobby.states, IdMap.get?_mapValues] using hstates

end Twin

end Venue

namespace Verdict

/-- Two verdicts refuse for the same reason, or grant the same answer and lead to twins. -/
inductive Twins : Verdict α → Verdict α → Prop where
  | refused (error : RoomError) : Twins (.refused error) (.refused error)
  | granted (stores : Bool) (value : α) {next other : Venue} (htwin : next.Twin other) :
    Twins (.granted stores value next) (.granted stores value other)

variable {verdict other : Verdict α}

theorem Twins.map {β : Type} (htwins : verdict.Twins other) (f : α → β) :
    (verdict.map f).Twins (other.map f) := by
  cases htwins with
  | refused error => exact .refused error
  | granted stores value htwin => exact .granted stores (f value) htwin

theorem Twins.enact (htwins : verdict.Twins other) (htwin : first.Twin second) :
    (verdict.enact first).1 = (other.enact second).1 ∧
      (verdict.enact first).2.Twin (other.enact second).2 := by
  cases htwins with
  | refused error => exact ⟨rfl, htwin⟩
  | granted stores value hnext =>
      rw [Verdict.enact, Verdict.enact, htwin.store]
      split
      · exact ⟨rfl, htwin⟩
      · exact ⟨rfl, hnext⟩

theorem twins_ite {condition : Prop} [Decidable condition] {verdict' other' : Verdict α}
    (hthen : verdict.Twins other) (helse : verdict'.Twins other') :
    (if condition then verdict else verdict').Twins (if condition then other else other') := by
  split
  · exact hthen
  · exact helse

theorem twins_withRoom {number : RoomId} {verdict other : Room → Verdict α}
    (htwin : first.Twin second)
    (htwins : ∀ room room', room.state = room'.state → (verdict room).Twins (other room')) :
    (first.withRoom number verdict).Twins (second.withRoom number other) := by
  have hrooms := htwin.rooms number
  unfold Venue.withRoom
  cases hfirst : first.lobby.rooms.get? number with
  | none =>
      rw [hfirst] at hrooms
      rw [Option.map_eq_none_iff.mp hrooms.symm]
      exact .refused _
  | some room =>
      rw [hfirst] at hrooms
      obtain ⟨room', hsecond, hstate⟩ := Option.map_eq_some_iff.mp hrooms.symm
      rw [hsecond]
      exact htwins room room' hstate.symm

theorem twins_withUser {user : UserId} {verdict other : User → Verdict α}
    (htwin : first.Twin second) (htwins : ∀ account, (verdict account).Twins (other account)) :
    (first.withUser user verdict).Twins (second.withUser user other) := by
  unfold Venue.withUser
  rw [htwin.store]
  cases second.store.users.get? user with
  | none => exact .refused _
  | some account => exact htwins account

theorem twins_withMember {room room' : Room} {user : UserId} (hroom : room.state = room'.state)
    (htwins : verdict.Twins other) :
    (Venue.withMember room user verdict).Twins (Venue.withMember room' user other) := by
  rw [Venue.withMember, Venue.withMember, hroom]
  exact twins_ite htwins (.refused _)

end Verdict

namespace Venue.Twin

open Verdict

variable (htwin : first.Twin second) (number : RoomId) (user : UserId)

include htwin

theorem createVerdict (content : ContentId) (title : Option String) :
    (first.createVerdict user content title).Twins (second.createVerdict user content title) := by
  apply twins_withUser htwin
  intro owner
  rw [htwin.store]
  cases second.store.contents.get? content with
  | none => exact .refused _
  | some content =>
      simp only [newRow, htwin.now, htwin.store]
      exact .granted _ _ (htwin.establish _)

theorem joinVerdict : (first.joinVerdict number user).Twins (second.joinVerdict number user) := by
  apply twins_withRoom htwin
  intro room room' hroom
  apply twins_withUser htwin
  intro account
  simp only [hroom, htwin.now]
  exact twins_ite (.granted _ _ htwin) (.granted _ _ (htwin.settle hroom _ _))

theorem leaveVerdict :
    (first.leaveVerdict number user).Twins (second.leaveVerdict number user) := by
  apply twins_withRoom htwin
  intro room room' hroom
  simp only [hroom, htwin.now]
  apply twins_ite
  · apply Verdict.Twins.granted
    split
    · exact htwin.dissolve hroom _ _
    · exact htwin.settle hroom _ _
  · exact .granted _ _ htwin

theorem controlVerdict (command : Command) :
    (first.controlVerdict number user command).Twins
      (second.controlVerdict number user command) := by
  apply twins_withRoom htwin
  intro room room' hroom
  apply twins_withUser htwin
  intro account
  apply twins_withMember hroom
  simp only [steerVerdict, Room.id, hroom, htwin.now, htwin.rules]
  apply twins_ite _ (.refused _)
  exact twins_ite (.granted _ _ (htwin.announce _)) (.granted _ _ (htwin.settle hroom _ _))

theorem chatVerdict (content : String) :
    (first.chatVerdict number user content).Twins (second.chatVerdict number user content) := by
  apply twins_withRoom htwin
  intro room room' hroom
  rw [htwin.rules]
  cases Room.checkMessage second.lobby.rules content with
  | error error => exact .refused error
  | ok text =>
      apply twins_withMember hroom
      apply twins_withUser htwin
      intro sender
      simp only [newMessage, hroom, htwin.now, htwin.store]
      exact .granted _ _ (htwin.converse _)

theorem messagesVerdict :
    (first.messagesVerdict number user).Twins (second.messagesVerdict number user) := by
  apply twins_withRoom htwin
  intro room room' hroom
  apply twins_withMember hroom
  rw [htwin.store]
  exact .granted _ _ htwin

theorem verdict (call : Call) : (call.verdict first).Twins (call.verdict second) := by
  cases call with
  | createRoom user content title => exact (htwin.createVerdict user content title).map _
  | join room user => exact (htwin.joinVerdict room user).map _
  | leave room user => exact (htwin.leaveVerdict room user).map _
  | control room user command => exact (htwin.controlVerdict room user command).map _
  | chat room user content => exact (htwin.chatVerdict room user content).map _
  | messages room user => exact (htwin.messagesVerdict room user).map _

/-- What obeys twin verdicts gives the same answer and leads to twins. -/
theorem run {operation operation' : Operation α} {verdict verdict' : Verdict α}
    (hfirst : first.Obeys operation verdict) (hsecond : second.Obeys operation' verdict')
    (htwins : verdict.Twins verdict') :
    (first.run operation).1 = (second.run operation').1 ∧
      (first.run operation).2.Twin (second.run operation').2 := by
  obtain ⟨hanswer, hnext⟩ := htwins.enact htwin
  obtain ⟨journal, hrun⟩ := hfirst.run_eq
  obtain ⟨journal', hrun'⟩ := hsecond.run_eq
  rw [hrun, hrun']
  exact ⟨hanswer, hnext.withJournal journal journal'⟩

end Venue.Twin

namespace Venue

/-- Two venues show the same rooms, at every time and under every query, and the same messages. -/
structure LooksLike (first second : Venue) : Prop where
  live : ∀ number,
    (first.lobby.liveRoom? number).isSome = (second.lobby.liveRoom? number).isSome
  snapshot : ∀ number now, ({ first with now }.run (snapshot number)).1 =
    ({ second with now }.run (snapshot number)).1
  listing : ∀ now query, Listing.all first.lobby now query = Listing.all second.lobby now query
  messages : ∀ number user,
    (first.run (messages number user)).1 = (second.run (messages number user)).1

/-- Two venues look alike and answer alike, now and after whatever is asked of them and whatever
changes from outside, while numbers are left. -/
def ActsLike (first second : Venue) : Prop :=
  ∀ requests : List (Call ⊕ Circumstance),
    let steps := requests.map (Sum.elim Step.ask Step.alter)
    first.Lasts steps →
      (first.follow steps).LooksLike (second.follow steps) ∧
      ∀ call : Call, ((first.follow steps).run call.operation).1 =
        ((second.follow steps).run call.operation).1

namespace Sound

variable {venue : Venue} (hsound : venue.Sound)

include hsound

theorem obeys_snapshot (number : RoomId) :
    venue.Obeys (Venue.snapshot number) (venue.withRoom number fun room =>
      .granted false (room.state.snapshot venue.now) venue) := by
  apply hsound.obeys_findRoom
  intro room hroom
  rw [RoomState.snapshot, ← hsound.view_eq hroom]
  exact leads_snapshot venue (hsound.isDeleted_eq hroom)

/-- What is listed is read off from the states of the rooms. -/
theorem liveSnapshots_eq (now : Instant) :
    Listing.liveSnapshots venue.lobby now = venue.lobby.states.values.map (·.snapshot now) := by
  have hall : ∀ room ∈ venue.lobby.rooms.values, room.isDeleted = false ∧
      room.view = room.state.view := by
    intro room hroom
    obtain ⟨number, hget⟩ := IdMap.mem_values.mp hroom
    exact ⟨hsound.isDeleted_eq hget, hsound.view_eq hget⟩
  rw [Listing.liveSnapshots, List.filter_eq_self.mpr, Lobby.states, IdMap.values_mapValues,
    List.map_map]
  · apply List.map_congr_left
    intro room hroom
    rw [(hall room hroom).2]
    rfl
  · intro room hroom
    simp [(hall room hroom).1]

end Sound

namespace Twin

variable (htwin : first.Twin second) (hfirst : first.Sound) (hsecond : second.Sound)

include htwin hfirst hsecond

/-- Sound twins look alike. -/
theorem looksLike : first.LooksLike second where
  live := by
    intro number
    rw [hfirst.liveRoom?_eq, hsecond.liveRoom?_eq]
    have hrooms := congrArg Option.isSome (htwin.rooms number)
    simpa only [Option.isSome_map] using hrooms
  snapshot := by
    intro number now
    have hfirst' : { first with now }.Sound := hfirst.of_eq rfl rfl
    have hsecond' : { second with now }.Sound := hsecond.of_eq rfl rfl
    refine ((htwin.withNow now).run (hfirst'.obeys_snapshot number)
      (hsecond'.obeys_snapshot number) ?_).1
    apply Verdict.twins_withRoom (htwin.withNow now)
    intro room room' hroom
    rw [hroom]
    exact .granted _ _ (htwin.withNow now)
  listing := by
    intro now query
    rw [Listing.all, Listing.all, hfirst.liveSnapshots_eq, hsecond.liveSnapshots_eq, htwin.states]
  messages := by
    intro number user
    exact (htwin.run (hfirst.obeys_roomMessages number user)
      (hsecond.obeys_roomMessages number user) (htwin.messagesVerdict number user)).1

variable (hleft : first.store.lastId < maxIdentifier)

include hleft

/-- Sound twins answer every call alike, and stay twins. -/
theorem run_call (call : Call) :
    (first.run call.operation).1 = (second.run call.operation).1 ∧
      (first.run call.operation).2.Twin (second.run call.operation).2 := by
  have hleft' : second.store.lastId < maxIdentifier := by
    rw [← htwin.store]
    exact hleft
  exact htwin.run (call.obeys hfirst hleft) (call.obeys hsecond hleft') (htwin.verdict call)

theorem take_request (request : Call ⊕ Circumstance) :
    (Step.take first (request.elim .ask .alter)).Twin
      (Step.take second (request.elim .ask .alter)) := by
  cases request with
  | inl call => exact (htwin.run_call hfirst hsecond hleft call).2
  | inr circumstance => exact htwin.alter circumstance

omit hleft

/-- Sound twins stay sound twins, whatever is asked of them. -/
theorem follow_requests (requests : List (Call ⊕ Circumstance))
    (hlasts : first.Lasts (requests.map (Sum.elim .ask .alter))) :
    let steps := requests.map (Sum.elim Step.ask Step.alter)
    (first.follow steps).Twin (second.follow steps) ∧ (second.follow steps).Sound := by
  induction requests generalizing first second with
  | nil => exact ⟨htwin, hsecond⟩
  | cons request rest ih =>
      have hleft' : second.store.lastId < maxIdentifier := by
        rw [← htwin.store]
        exact hlasts.1
      have hnext := htwin.take_request hfirst hsecond hlasts.1 request
      exact ih hnext (hfirst.take hlasts.1 _) (hsecond.take hleft' _) hlasts.2

/-- Sound twins cannot be told apart later on. -/
theorem actsLike : first.ActsLike second := by
  intro requests steps hlasts
  obtain ⟨hlater, hsecond'⟩ := htwin.follow_requests hfirst hsecond requests hlasts
  have hfirst' := hfirst.follow hlasts
  constructor
  · exact hlater.looksLike hfirst' hsecond'
  · intro call
    exact (hlater.run_call hfirst' hsecond' hlasts.follow call).1

end Twin

theorem Sound.size_live {venue : Venue} (hsound : venue.Sound) :
    (venue.lobby.rooms.values.filter (!·.isDeleted)).length = venue.lobby.rooms.size := by
  rw [List.filter_eq_self.mpr, IdMap.values, List.length_map, IdMap.size]
  intro room hroom
  obtain ⟨number, hget⟩ := IdMap.mem_values.mp hroom
  simp [hsound.isDeleted_eq hget]

/-- A new system that takes over the rows of a reachable one by the same rules restores all of its
live rooms, writes nothing, and cannot be told from it by anything that is asked of rooms, now or
later. Restoring the rooms of a running system changes nothing that can be observed either, and
leaves its topics alone. -/
theorem Reachable.restart_loses_nothing {venue : Venue} (hreach : venue.Reachable) :
    let live := (venue.lobby.rooms.values.filter (!·.isDeleted)).length
    let restarted := venue.run (do reopen venue.lobby.rules; restore)
    let restored := venue.run restore
    (restarted.1 = .ok live ∧ restarted.2.database = venue.database ∧
      restarted.2.now = venue.now ∧ venue.ActsLike restarted.2) ∧
    (restored.1 = .ok live ∧ restored.2.database = venue.database ∧
      restored.2.now = venue.now ∧ venue.ActsLike restored.2 ∧
      restored.2.lobby.topics = venue.lobby.topics) := by
  intro live restarted restored
  have hsound := hreach.sound
  have hlive : live = venue.lobby.rooms.size := hsound.size_live
  obtain ⟨journal, hrestart⟩ := (hsound.leads_restart venue.lobby.rules).run_eq
  obtain ⟨journal', hrestore⟩ := hsound.leads_restore.run_eq
  have hrestarted : restarted.2.Sound := keeps_restart venue.lobby.rules venue hsound
  have hrestored : restored.2.Sound := keeps_restore venue hsound
  have htwin : venue.Twin restarted.2 := by
    show venue.Twin (venue.run _).2
    rw [hrestart]
    exact ⟨rfl, rfl,
      (Lobby.rules_hostAll (.opening venue.lobby.rules venue.lobby.nextConnection) _).symm,
      (hsound.states_restart _ _).symm⟩
  have htwin' : venue.Twin restored.2 := by
    show venue.Twin (venue.run _).2
    rw [hrestore]
    exact ⟨rfl, rfl, (Lobby.rules_hostAll _ _).symm, hsound.states_restore.symm⟩
  refine ⟨⟨?_, htwin.database.symm, htwin.now.symm, htwin.actsLike hsound hrestarted⟩,
    ?_, htwin'.database.symm, htwin'.now.symm, htwin'.actsLike hsound hrestored, ?_⟩
  · show (venue.run _).1 = _
    rw [hrestart, hlive]
  · show (venue.run _).1 = _
    rw [hrestore, hlive]
  · show (venue.run _).2.lobby.topics = _
    rw [hrestore]
    exact hsound.topics_restore

theorem meeting_restart_loses_nothing :
    let restarted := meeting.run (do reopen meeting.lobby.rules; restore)
    restarted.1 = .ok 1 ∧ restarted.2.database = meeting.database ∧
      meeting.ActsLike restarted.2 := by
  intro restarted
  obtain ⟨⟨hanswer, hdatabase, -, hacts⟩, -⟩ := meeting_reachable.restart_loses_nothing
  exact ⟨hanswer, hdatabase, hacts⟩

end Venue

end WatchParty
