/-
# Stores as ledgers

What can be relied upon in the tables of a store after any calls, with whatever arguments they were
made: rows are found under their own keys and nowhere else, participants and messages belong to
rooms that exist, and the lists that a store gives out hold every row once and in order. The numbers
that calls hand out count up from one, as long as the counter has not run out.

What a call can do to the tables is said once, as the *effect* that it has, together with the number
that it hands out. What calls keep, beyond the coherence of rooms, participants and messages, is
read off from their effects.
-/

import Mathlib.Data.List.Induction
import WatchParty.Proofs.Presence.History
import WatchParty.Proofs.Store.Integrity

namespace WatchParty

/-- What a call on a store answers. -/
inductive StoreAnswer where
  | done
  | user (user : User)
  | content (content : Content)
  | session (session : Session)
  | room (data : RoomRecord)
  | rooms (rows : List RoomRecord)
  | participants (roster : Roster)
  | message (message : Message)
  | messages (history : List Message)
deriving DecidableEq, Repr

namespace StoreRequest

/-- A call whose answer is put in another way. -/
def answering {α : Type} (put : α → StoreAnswer) (call : StoreCall α) : StoreCall StoreAnswer :=
  fun store => ((call store).1.map put, (call store).2)

/-- The call that is asked for. -/
def call : StoreRequest → StoreCall StoreAnswer
  | .addUser username displayName => fun store =>
    let (user, next) := store.addUser username displayName
    (.ok (.user user), next)
  | .addContent title duration => fun store =>
    let (content, next) := store.addContent title duration
    (.ok (.content content), next)
  | .addSession user token expiresAt => answering .session (Store.addSession user token expiresAt)
  | .setFailing failing => fun store => (.ok .done, store.setFailing failing)
  | .userById id => answering .user (Store.userById id)
  | .sessionByToken token => answering .session (Store.sessionByToken token)
  | .contentById id => answering .content (Store.contentById id)
  | .roomById id => answering .room (Store.roomById id)
  | .listRooms => answering .rooms Store.listRooms
  | .participantsByRoom room => answering .participants (Store.participantsByRoom room)
  | .messagesByRoom room => answering .messages (Store.messagesByRoom room)
  | .createRoom new => answering .room (Store.createRoom new)
  | .saveRoom data => answering (fun _ => .done) (Store.saveRoom data)
  | .deleteRoom room => answering (fun _ => .done) (Store.deleteRoom room)
  | .saveParticipant room participant =>
    answering (fun _ => .done) (Store.saveParticipant room participant)
  | .deleteParticipant room user => answering (fun _ => .done) (Store.deleteParticipant room user)
  | .createMessage room sender content createdAt =>
    answering .message (Store.createMessage room sender content createdAt)

/-- The number of the row that a call has added, read off from its answer. -/
def rowNumber? : StoreRequest → StoreAnswer → Option Int
  | .addUser _ _, .user user => some user.id
  | .addContent _ _, .content content => some content.id
  | .addSession _ _ _, .session session => some session.id
  | .createRoom _, .room data => some data.id
  | .createMessage _ _ _ _, .message message => some message.id
  | _, _ => none

/-- The number that a call hands out, if it adds a row. -/
def number? (store : Store) (request : StoreRequest) : Option Int :=
  match (request.call store).1 with
  | .ok answer => request.rowNumber? answer
  | .error _ => none

variable {store next : Store} {request : StoreRequest}

theorem of_answering {α : Type} {put : α → StoreAnswer} {call : StoreCall α} {answer : StoreAnswer}
    (hcall : answering put call store = (.ok answer, next)) :
    ∃ value, call store = (.ok value, next) ∧ put value = answer := by
  rw [answering] at hcall
  generalize call store = outcome at hcall ⊢
  obtain ⟨_ | value, after⟩ := outcome
  · cases hcall
  · cases hcall
    exact ⟨value, rfl, rfl⟩

/-- A request is served by making its call. -/
theorem serve_eq_after (request : StoreRequest) (store : Store) :
    request.serve store = store.after request.call := by
  cases request <;> rfl

theorem number?_of_error {failure : StoreError}
    (hcall : request.call store = (.error failure, next)) : request.number? store = none := by
  rw [number?, hcall]

end StoreRequest

namespace Store

/-- The numbers that calls hand out, one call after the other. -/
def numbers (store : Store) : List StoreRequest → List Int
  | [] => []
  | request :: rest => (request.number? store).toList ++ (request.serve store).numbers rest

/-! ## Effects -/

/-- What a call can do to the tables, and the number that it hands out. -/
inductive Effect (store : Store) : Option Int → Store → Prop where
  | keep : Effect store none store
  | setFailing (failing : Bool) : Effect store none (store.setFailing failing)
  | addUser (username displayName : String) :
      Effect store (some store.nextId) (store.addUser username displayName).2
  | addContent (title : String) (duration : Option Binary64) :
      Effect store (some store.nextId) (store.addContent title duration).2
  | addSession (session : Session) (hnew : ∀ other ∈ store.sessions, other.token ≠ session.token) :
      Effect store (some store.nextId)
        { store with sessions := store.sessions ++ [session], lastId := store.nextId }
  | createRoom (data : RoomRecord) (owner : Participant) (hid : data.id = store.nextId) :
      Effect store (some store.nextId)
        { store.setRoster data.id ((store.roster data.id).enrol owner) with
          rooms := store.rooms.insert data.id data
          lastId := store.nextId }
  | saveRoom (data : RoomRecord) (hroom : store.rooms.contains data.id = true) :
      Effect store none { store with rooms := store.rooms.insert data.id data }
  | setRoster (room : RoomId) (roster : Roster) : Effect store none (store.setRoster room roster)
  | forget (room : RoomId) : Effect store none (store.forget room)
  | post (message : Message) (hid : message.id = store.nextId) :
      Effect store (some store.nextId) (store.post message)

variable {store next : Store} {number : Option Int}

theorem of_require {α : Type} {resource : Resource} {found : Option α} {value : α}
    (hcall : require resource found store = (.ok value, next)) : next = store := by
  unfold require at hcall
  split at hcall
  · cases hcall
    rfl
  · cases hcall

theorem of_write {α : Type} {call : StoreCall α} {value : α}
    (hcall : write call store = (.ok value, next)) :
    store.failing = false ∧ call store = (.ok value, next) := by
  rw [write] at hcall
  split at hcall
  · cases hcall
  · rename_i hwritable
    exact ⟨Bool.eq_false_iff.mpr hwritable, hcall⟩

theorem of_writeRoom {α : Type} {room : RoomId} {call : StoreCall α} {value : α}
    (hcall : writeRoom room call store = (.ok value, next)) :
    store.failing = false ∧ store.rooms.contains room = true ∧
      call store = (.ok value, next) := by
  obtain ⟨hwritable, hcall⟩ := of_write hcall
  split at hcall
  · rename_i hroom
    exact ⟨hwritable, hroom, hcall⟩
  · cases hcall

/-- A session is added under a token that no session has. -/
theorem of_addSession {user : UserId} {token : String} {expiresAt : Instant} {session : Session}
    (hcall : addSession user token expiresAt store = (.ok session, next)) :
    session.id = store.nextId ∧ (∀ other ∈ store.sessions, other.token ≠ session.token) ∧
      next = { store with sessions := store.sessions ++ [session], lastId := store.nextId } := by
  unfold addSession at hcall
  split at hcall
  · cases hcall
  · split at hcall
    · cases hcall
    · rename_i hnew
      cases hcall
      exact ⟨rfl, by simpa using hnew, rfl⟩

/-- A message is posted to a room that exists. -/
theorem of_createMessage {room : RoomId} {sender : UserId} {content : String}
    {createdAt : Instant} {message : Message}
    (hcall : createMessage room sender content createdAt store = (.ok message, next)) :
    message.id = store.nextId ∧ next = store.post message := by
  obtain ⟨-, -, hcall⟩ := of_writeRoom hcall
  split at hcall
  · cases hcall
  · cases hcall
    exact ⟨rfl, rfl⟩

/-- Every call that succeeds has one of the effects. -/
theorem effect_of_call {request : StoreRequest} {answer : StoreAnswer}
    (hcall : request.call store = (.ok answer, next)) :
    store.Effect (request.rowNumber? answer) next := by
  cases request with
  | setFailing failing =>
      cases hcall
      exact .setFailing failing
  | addUser username displayName =>
      cases hcall
      exact .addUser username displayName
  | addContent title duration =>
      cases hcall
      exact .addContent title duration
  | addSession user token expiresAt =>
      obtain ⟨session, hrows, rfl⟩ := StoreRequest.of_answering hcall
      obtain ⟨hid, hnew, rfl⟩ := of_addSession hrows
      rw [StoreRequest.rowNumber?, hid]
      exact .addSession session hnew
  | userById _ | sessionByToken _ | contentById _ | roomById _ =>
      obtain ⟨_, hrows, rfl⟩ := StoreRequest.of_answering hcall
      obtain rfl := of_require hrows
      exact .keep
  | listRooms | participantsByRoom _ | messagesByRoom _ =>
      cases hcall
      exact .keep
  | createRoom new =>
      obtain ⟨data, hrows, rfl⟩ := StoreRequest.of_answering hcall
      obtain ⟨-, hrows⟩ := of_write hrows
      cases hrows
      exact .createRoom _ ⟨new.owner, new.createdAt⟩ rfl
  | saveRoom data =>
      obtain ⟨_, hrows, rfl⟩ := StoreRequest.of_answering hcall
      obtain ⟨-, hroom, hrows⟩ := of_writeRoom hrows
      cases hrows
      exact .saveRoom data hroom
  | deleteRoom room =>
      obtain ⟨_, hrows, rfl⟩ := StoreRequest.of_answering hcall
      obtain ⟨-, -, hrows⟩ := of_writeRoom hrows
      cases hrows
      exact .forget room
  | saveParticipant room participant =>
      obtain ⟨_, hrows, rfl⟩ := StoreRequest.of_answering hcall
      obtain ⟨-, -, hrows⟩ := of_writeRoom hrows
      cases hrows
      exact .setRoster room _
  | deleteParticipant room user =>
      obtain ⟨_, hrows, rfl⟩ := StoreRequest.of_answering hcall
      obtain ⟨-, hrows⟩ := of_write hrows
      cases hrows
      exact .setRoster room _
  | createMessage room sender content createdAt =>
      obtain ⟨message, hrows, rfl⟩ := StoreRequest.of_answering hcall
      obtain ⟨hid, rfl⟩ := of_createMessage hrows
      rw [StoreRequest.rowNumber?, hid]
      exact .post message hid

/-- A call is atomic at a store if it changes nothing there when it fails. -/
def Atomic {α : Type} (store : Store) (call : StoreCall α) : Prop :=
  ∀ failure, (call store).1 = .error failure → (call store).2 = store

namespace Atomic

variable {α : Type} {call : StoreCall α}

/-- What does not fail is atomic. -/
theorem of_ok {value : α} (hok : (call store).1 = .ok value) : store.Atomic call :=
  fun _ hfails => nomatch hok.symm.trans hfails

/-- What changes nothing is atomic. -/
theorem of_same (hsame : (call store).2 = store) : store.Atomic call := fun _ _ => hsame

theorem write (hcall : store.Atomic call) : store.Atomic (write call) := by
  unfold Atomic Store.write
  split
  · exact fun _ _ => rfl
  · exact hcall

theorem writeRoom {room : RoomId} (hcall : store.Atomic call) :
    store.Atomic (writeRoom room call) := by
  apply write
  unfold Atomic
  dsimp only
  split
  · exact hcall
  · exact fun _ _ => rfl

theorem answering (hcall : store.Atomic call) (put : α → StoreAnswer) :
    store.Atomic (StoreRequest.answering put call) := by
  intro failure hfails
  cases hresult : (call store).1 with
  | ok value =>
      rw [StoreRequest.answering, hresult] at hfails
      cases hfails
  | error error => exact hcall error hresult

end Atomic

theorem atomic_require {α : Type} (store : Store) (resource : Resource) (found : Option α) :
    store.Atomic (require resource found) := by
  cases found <;> exact .of_same rfl

theorem atomic_addSession (store : Store) (user : UserId) (token : String) (expiresAt : Instant) :
    store.Atomic (addSession user token expiresAt) := by
  rcases store.addSession_cases user token expiresAt with ⟨_, hcall⟩ | ⟨session, hcall⟩
  · exact .of_same (congrArg Prod.snd hcall)
  · exact .of_ok (congrArg Prod.fst hcall)

theorem atomic_createMessage (store : Store) (room : RoomId) (sender : UserId) (content : String)
    (createdAt : Instant) : store.Atomic (createMessage room sender content createdAt) := by
  apply Atomic.writeRoom
  unfold Atomic
  dsimp only
  split
  · exact fun _ _ => rfl
  · exact fun _ hfails => nomatch hfails

/-- Whatever is asked for, a call that fails changes nothing. -/
theorem atomic_call (store : Store) (request : StoreRequest) : store.Atomic request.call := by
  cases request with
  | addUser | addContent | setFailing | listRooms | participantsByRoom | messagesByRoom =>
      exact .of_ok rfl
  | addSession user token expiresAt =>
      exact (store.atomic_addSession user token expiresAt).answering _
  | userById | sessionByToken | contentById | roomById =>
      exact Atomic.answering (store.atomic_require _ _) _
  | createRoom | deleteParticipant => exact (Atomic.write (.of_ok rfl)).answering _
  | saveRoom | deleteRoom | saveParticipant => exact (Atomic.writeRoom (.of_ok rfl)).answering _
  | createMessage room sender content createdAt =>
      exact (store.atomic_createMessage room sender content createdAt).answering _

/-- Whatever is asked for, serving it has one of the effects. -/
theorem effect_of_request (store : Store) (request : StoreRequest) :
    store.Effect (request.number? store) (request.serve store) := by
  cases hcall : request.call store with
  | mk result next =>
      rw [StoreRequest.serve_eq_after, after, hcall]
      cases result with
      | error failure =>
          have hsame := store.atomic_call request failure (congrArg Prod.fst hcall)
          rw [hcall] at hsame
          rw [StoreRequest.number?_of_error hcall, hsame]
          exact .keep
      | ok answer =>
          rw [StoreRequest.number?, hcall]
          exact effect_of_call hcall

/-- Sessions are added under new tokens, and never change. -/
theorem Effect.tokens (heffect : store.Effect number next)
    (htokens : store.sessions.Pairwise fun first second => first.token ≠ second.token) :
    next.sessions.Pairwise fun first second => first.token ≠ second.token := by
  cases heffect with
  | addSession session hnew =>
      refine List.pairwise_append.mpr ⟨htokens, List.pairwise_singleton _ _, ?_⟩
      intro other hother last hlast
      rw [List.mem_singleton.mp hlast]
      exact hnew other hother
  | _ => exact htokens

/-- However a store came about, no two of its sessions have one token. -/
theorem Produced.tokens (hproduced : store.Produced) :
    store.sessions.Pairwise fun first second => first.token ≠ second.token := by
  obtain ⟨requests, rfl⟩ := hproduced
  induction requests using List.reverseRecOn with
  | nil => exact .nil
  | append_singleton requests request ih =>
      rw [List.foldl_append]
      exact (effect_of_request _ request).tokens ih

/-- A call hands out nothing, or the next number. -/
theorem Effect.lastId (heffect : store.Effect number next) :
    (number = none ∧ next.lastId = store.lastId) ∨
      (number = some store.nextId ∧ next.lastId = store.nextId) := by
  cases heffect with
  | addUser | addContent | addSession | createRoom => exact .inr ⟨rfl, rfl⟩
  | post message hid => exact .inr ⟨rfl, hid⟩
  | _ => exact .inl ⟨rfl, rfl⟩

theorem Effect.numbered (heffect : store.Effect number next) (hnumbered : store.Numbered)
    (hleft : store.lastId < maxIdentifier) : next.Numbered := by
  have hnext := Int.le_of_lt (hnumbered.lt_nextId hleft)
  have hsame := Int.le_refl store.lastId
  cases heffect with
  | keep => exact hnumbered
  | setFailing => exact hnumbered.of_tables hsame (fun _ _ => .inl) (fun _ _ => .inl) fun _ => .inl
  | addUser username displayName => exact hnumbered.addUser hleft username displayName
  | addContent title duration => exact hnumbered.addContent hleft title duration
  | addSession => exact hnumbered.of_tables hnext (fun _ _ => .inl) (fun _ _ => .inl) fun _ => .inl
  | createRoom data owner hid =>
      refine hnumbered.of_tables hnext (fun _ _ => .inl) (fun _ _ => .inl) fun room hroom => ?_
      rcases IdMap.of_contains_insert hroom with rfl | hold
      · exact .inr (Int.le_of_eq hid)
      · exact .inl hold
  | saveRoom data hstored =>
      refine hnumbered.of_tables hsame (fun _ _ => .inl) (fun _ _ => .inl) fun room hroom => ?_
      rcases IdMap.of_contains_insert hroom with rfl | hold
      · exact .inl hstored
      · exact .inl hold
  | setRoster => exact hnumbered.of_tables hsame (fun _ _ => .inl) (fun _ _ => .inl) fun _ => .inl
  | forget room =>
      refine hnumbered.of_tables hsame (fun _ _ => .inl) (fun _ _ => .inl) fun other hother => ?_
      rw [Store.forget, IdMap.contains_erase, Bool.and_eq_true] at hother
      exact .inl hother.2
  | post message hid =>
      have hlast : store.lastId ≤ message.id := hid ▸ hnext
      exact hnumbered.of_tables hlast (fun _ _ => .inl) (fun _ _ => .inl) fun _ => .inl

/-- Messages are added after all others, or they go with their room. -/
theorem Effect.messages (heffect : store.Effect number next) :
    next.messages.Sublist store.messages ∨
      ∃ message, message.id = store.nextId ∧ next = store.post message := by
  cases heffect with
  | forget room => exact .inl List.filter_sublist
  | post message hid => exact .inr ⟨message, hid, rfl⟩
  | _ => exact .inl (List.Sublist.refl _)

/-- Numbers in use have been handed out, and messages are numbered in order. -/
structure Counted (store : Store) : Prop where
  numbered : store.Numbered
  ordered : store.messages.Pairwise fun earlier later => earlier.id < later.id
  posted : ∀ message ∈ store.messages, message.id ≤ store.lastId

theorem Counted.empty : Store.empty.Counted where
  numbered :=
    { nonneg := Int.le_refl 0
      users := fun _ _ huser => nomatch huser
      contents := fun _ _ hcontent => nomatch hcontent
      rooms := fun _ hroom => nomatch hroom }
  ordered := .nil
  posted := fun _ hmessage => nomatch hmessage

theorem Effect.counted (heffect : store.Effect number next) (hcounted : store.Counted)
    (hleft : store.lastId < maxIdentifier) : next.Counted := by
  have hlast := hcounted.numbered.lt_nextId hleft
  have hnumbered := heffect.numbered hcounted.numbered hleft
  rcases heffect.messages with hmessages | ⟨message, hid, rfl⟩
  · refine ⟨hnumbered, hcounted.ordered.sublist hmessages, fun message hmem => ?_⟩
    have hposted := hcounted.posted message (hmessages.subset hmem)
    rcases heffect.lastId with ⟨-, hsame⟩ | ⟨-, hnext⟩
    · exact Int.le_trans hposted (Int.le_of_eq hsame.symm)
    · exact Int.le_trans hposted (hnext ▸ Int.le_of_lt hlast)
  · -- The new message has the next number, and the others have numbers up to the last one.
    rw [← hid] at hlast
    refine ⟨hnumbered, List.pairwise_append.mpr ⟨hcounted.ordered, .cons nofun .nil, ?_⟩, ?_⟩
    · intro earlier hearlier later hlater
      rw [List.mem_singleton.mp hlater]
      exact Int.lt_of_le_of_lt (hcounted.posted earlier hearlier) hlast
    · intro other hother
      rcases List.mem_append.mp hother with hold | hnew
      · exact Int.le_trans (hcounted.posted other hold) (Int.le_of_lt hlast)
      · exact Int.le_of_eq (congrArg Message.id (List.mem_singleton.mp hnew))

/-- As long as the counter does not run out, calls hand out one number after the other. -/
theorem Counted.serve_all {requests : List StoreRequest} (hcounted : store.Counted)
    (hleft : store.lastId + (store.numbers requests).length < maxIdentifier) :
    (requests.foldl StoreRequest.serve store).Counted ∧
      store.numbers requests = issued (store.lastId + 1) (store.numbers requests).length := by
  induction requests generalizing store with
  | nil => exact ⟨hcounted, rfl⟩
  | cons request rest ih =>
      have heffect := store.effect_of_request request
      have hlast : store.lastId < maxIdentifier := by omega
      have hnext := heffect.counted hcounted hlast
      rw [List.foldl_cons]
      rcases heffect.lastId with ⟨hnone, hsame⟩ | ⟨hsome, hid⟩
      · simp only [numbers, hnone, Option.toList_none, List.nil_append] at hleft ⊢
        rw [← hsame] at hleft ⊢
        exact ih hnext hleft
      · rw [hcounted.numbered.nextId_eq hlast] at hsome hid
        simp only [numbers, hsome, Option.toList_some, List.singleton_append, List.length_cons]
          at hleft ⊢
        obtain ⟨hend, hrest⟩ := ih hnext (by omega)
        refine ⟨hend, ?_⟩
        rw [issued, ← hid, ← hrest]

theorem le_of_mem_issued {first number : Int} {count : Nat} (hmem : number ∈ issued first count) :
    first ≤ number := by
  induction count generalizing first with
  | zero => cases hmem
  | succ count ih =>
      rcases List.mem_cons.mp hmem with rfl | hmem
      · exact Int.le_refl _
      · exact Int.le_trans (Int.le_add_of_nonneg_right (by decide)) (ih hmem)

theorem issued_increasing (first : Int) (count : Nat) :
    (issued first count).Pairwise (· < ·) := by
  induction count generalizing first with
  | zero => exact .nil
  | succ count ih =>
      exact .cons (fun number hmem => Int.lt_of_add_one_le (le_of_mem_issued hmem)) (ih _)

/-! ## What can be relied upon -/

/-- The row of a participant, known by the room and the user. -/
def participant? (store : Store) (room : RoomId) (user : UserId) : Option Participant :=
  (store.roster room).find? user

/-- Rows are kept under their own keys, one to a key, and belong to rooms that exist. -/
structure Upright (store : Store) : Prop where
  users : ∀ id user, store.users.get? id = some user → user.id = id
  contents : ∀ id content, store.contents.get? id = some content → content.id = id
  rooms : ∀ id data, store.rooms.get? id = some data → data.id = id
  sessions : store.sessions.Pairwise fun first second => first.token ≠ second.token
  participants : ∀ room, (store.roster room).Pairwise fun first second => first.user ≠ second.user
  /-- Participants are found under their own users. -/
  keyed : ∀ room user participant, store.participant? room user = some participant →
    participant.user = user
  /-- Participants are kept for rooms that exist. -/
  housed : ∀ room, ∀ participant ∈ store.roster room, store.rooms.contains room = true
  /-- Messages are kept for rooms that exist. -/
  messages : ∀ message ∈ store.messages, store.rooms.contains message.room = true

/-- The tables after a room was deleted. The row of the room, its participants and its messages are
gone, and all else is as it was. -/
structure Loses (store : Store) (room : RoomId) (next : Store) : Prop where
  users : next.users = store.users
  sessions : next.sessions = store.sessions
  contents : next.contents = store.contents
  rooms : ∀ other, next.rooms.get? other = if other = room then none else store.rooms.get? other
  participants : ∀ other user, next.participant? other user =
    if other = room then none else store.participant? other user
  messages : next.messages = store.messages.filter fun message => message.room ≠ room
  lastId : next.lastId = store.lastId
  failing : next.failing = store.failing

/-- The lists that a store gives out hold every row that is asked for, once and in order. -/
structure ListsAll (store : Store) : Prop where
  /-- Rooms are listed by number. -/
  rooms : ∃ rows, listRooms store = (.ok rows, store) ∧
    rows.Pairwise (fun earlier later => earlier.id < later.id) ∧
    ∀ data, data ∈ rows ↔ store.rooms.get? data.id = some data
  /-- The participants of a room are listed by the instant of joining, and by user. -/
  participants : ∀ room, ∃ rows, participantsByRoom room store = (.ok rows, store) ∧
    rows.Pairwise Participant.Senior ∧
    ∀ participant, participant ∈ rows ↔
      store.participant? room participant.user = some participant
  /-- The messages of a room are listed by number. -/
  messages : ∀ room, ∃ rows, messagesByRoom room store = (.ok rows, store) ∧
    rows.Pairwise (fun earlier later => earlier.id < later.id) ∧
    ∀ message, message ∈ rows ↔ message ∈ store.messages ∧ message.room = room

theorem Coherent.upright (hcoherent : store.Coherent) (hnumbered : store.Numbered)
    (htokens : store.sessions.Pairwise fun first second => first.token ≠ second.token) :
    store.Upright where
  users := fun id user huser => (hnumbered.users id user huser).1
  contents := fun id content hcontent => (hnumbered.contents id content hcontent).1
  rooms := hcoherent.numbered
  sessions := htokens
  participants := fun room => (hcoherent.roster_sound room).distinct
  keyed := fun _ _ _ hfind => Roster.user_of_find? hfind
  housed := fun room _ hmem => hcoherent.housed room (List.ne_nil_of_mem hmem)
  messages := hcoherent.messages

theorem loses_forget (store : Store) (room : RoomId) : store.Loses room (store.forget room) where
  users := rfl
  sessions := rfl
  contents := rfl
  rooms := fun _ => IdMap.get?_erase _ _ _
  participants := fun other user => by
    rw [participant?, roster_forget]
    split <;> rfl
  messages := rfl
  lastId := rfl
  failing := rfl

/-- Deleting a room succeeds if the store can be written to and the room exists, and then does what
it should. -/
theorem deleteRoom_spec (store : Store) (room : RoomId) :
    ((∃ next, deleteRoom room store = (.ok (), next)) ↔
      store.failing = false ∧ store.rooms.contains room = true) ∧
    ∀ next, deleteRoom room store = (.ok (), next) → store.Loses room next := by
  refine ⟨⟨?_, ?_⟩, ?_⟩
  · rintro ⟨next, hcall⟩
    obtain ⟨hwritable, hroom, -⟩ := of_writeRoom hcall
    exact ⟨hwritable, hroom⟩
  · rintro ⟨hwritable, hroom⟩
    exact ⟨_, deleteRoom_eq hwritable hroom⟩
  · intro next hcall
    obtain ⟨hwritable, hroom, -⟩ := of_writeRoom hcall
    cases hcall.symm.trans (deleteRoom_eq hwritable hroom)
    exact store.loses_forget room

theorem values_ordered {rows : IdMap RoomRecord}
    (hkeyed : ∀ id data, rows.get? id = some data → data.id = id) :
    rows.values.Pairwise fun earlier later => earlier.id < later.id := by
  have hkeys : (rows.values.map (·.id)).Pairwise (· < ·) := by
    rw [IdMap.map_values hkeyed]
    exact List.pairwise_map.mpr rows.ordered
  exact List.pairwise_map.mp hkeys

theorem mem_values_iff {rows : IdMap RoomRecord}
    (hkeyed : ∀ id data, rows.get? id = some data → data.id = id) {data : RoomRecord} :
    data ∈ rows.values ↔ rows.get? data.id = some data := by
  rw [IdMap.mem_values]
  constructor
  · rintro ⟨id, hdata⟩
    rwa [hkeyed id data hdata]
  · exact fun hdata => ⟨_, hdata⟩

theorem Coherent.listsAll (hcoherent : store.Coherent) (hcounted : store.Counted) :
    store.ListsAll where
  rooms := ⟨_, rfl, values_ordered hcoherent.numbered, fun _ => mem_values_iff hcoherent.numbered⟩
  participants := fun room =>
    have hsound := hcoherent.roster_sound room
    ⟨_, rfl, hsound.ordered, fun _ => by
      rw [participant?, Roster.find?_eq_some_iff hsound.nodup_users, and_iff_left rfl]⟩
  messages := fun room =>
    ⟨_, rfl, hcounted.ordered.filter _,
      fun _ => by rw [history, List.mem_filter, decide_eq_true_eq]⟩

/-- Whatever calls are made on a store, and with whatever arguments: as long as fewer than
`2 ^ 31 - 1` numbers are handed out, each number is greater than those before it, the tables stay in
order, and they can be listed. Deleting a room takes away what belongs to it and nothing else, and
what fails changes nothing. -/
theorem integrity_of_calls (requests : List StoreRequest)
    (hfew : ((Store.empty.numbers requests).length : Int) < maxIdentifier) :
    let store := requests.foldl StoreRequest.serve .empty
    (Store.empty.numbers requests).Pairwise (· < ·) ∧ store.Upright ∧ store.ListsAll ∧
    (∀ room,
      ((∃ next, deleteRoom room store = (.ok (), next)) ↔
        store.failing = false ∧ store.rooms.contains room = true) ∧
      ∀ next, deleteRoom room store = (.ok (), next) → store.Loses room next) ∧
    ∀ (request : StoreRequest) (failure : StoreError) (next : Store),
      request.call store = (.error failure, next) →
        request.number? store = none ∧ next = store ∧ request.serve store = store := by
  intro store
  have hproduced : store.Produced := ⟨requests, rfl⟩
  have hcoherent := hproduced.coherent
  have hleft : Store.empty.lastId + (Store.empty.numbers requests).length < maxIdentifier :=
    (Int.zero_add _).symm ▸ hfew
  obtain ⟨hcounted, hnumbers⟩ := Counted.empty.serve_all hleft
  refine ⟨?_, hcoherent.upright hcounted.numbered hproduced.tokens, hcoherent.listsAll hcounted,
    store.deleteRoom_spec, ?_⟩
  · rw [hnumbers]
    exact issued_increasing _ _
  · intro request failure next hcall
    have hsame := store.atomic_call request failure (congrArg Prod.fst hcall)
    refine ⟨StoreRequest.number?_of_error hcall, ?_, ?_⟩
    · rwa [hcall] at hsame
    · rwa [StoreRequest.serve_eq_after]

/-- Calls of which some fail: no account has the number 9, a token is used twice, the store is set
to fail for a while, and a message comes too late for its room. -/
def bustle : List StoreRequest :=
  let new : NewRoom := ⟨3, "A Film", 1, 10, (Clock.start 10).save⟩
  [.addUser "ada" "Ada", .addUser "bob" "Bob", .addContent "A Film" none,
    .addSession 9 "lost" 100, .addSession 1 "secret" 100, .addSession 2 "secret" 100,
    .createRoom new, .setFailing true, .createRoom new, .setFailing false, .createRoom new,
    .saveParticipant 5 ⟨2, 11⟩, .saveParticipant 5 ⟨2, 9⟩, .createMessage 6 1 "Hello" 12,
    .createMessage 5 2 "Hi" 12, .deleteRoom 6, .createMessage 6 1 "Anybody?" 13, .listRooms]

theorem bustle_integrity :
    let store := bustle.foldl StoreRequest.serve .empty
    Store.empty.numbers bustle = [1, 2, 3, 4, 5, 6, 7, 8] ∧ store.Upright ∧ store.ListsAll ∧
      store.rooms.keys = [5] ∧ store.roster 5 = [⟨2, 9⟩, ⟨1, 10⟩] ∧
      store.messages.map (·.id) = [8] := by
  have hnumbers : Store.empty.numbers bustle = [1, 2, 3, 4, 5, 6, 7, 8] := by decide +kernel
  have hfew : ((Store.empty.numbers bustle).length : Int) < maxIdentifier := by
    rw [hnumbers]
    decide
  obtain ⟨-, hupright, hlists, -⟩ := integrity_of_calls bustle hfew
  refine ⟨hnumbers, hupright, hlists, ?_⟩
  decide +kernel

end Store

end WatchParty
