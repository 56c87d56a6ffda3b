/-
# Mending rows

What becomes of coherent rows when rooms are mended one after the other. To mend a room is to drop
those of its participants that have no account, to delete the room if nobody is left then, and
otherwise to give it to its most senior participant unless its owner is still there.

Mending a room touches nothing that belongs to another one, so rooms may be mended while the list of
them is gone through. Mended rows need no mending, which is why a second round changes nothing.
-/

import WatchParty.Proofs.Presence.History
import WatchParty.Proofs.Presence.Succession
import WatchParty.Proofs.Store.Integrity

namespace WatchParty

attribute [ext] Store

namespace RoomRecord

/-- The row of a room, given to the most senior of those who are there unless its owner is. -/
def heldBy (data : RoomRecord) (roster : Roster) : RoomRecord :=
  { data with owner := (Presence.restore roster data.owner).owner.getD data.owner }

variable {data : RoomRecord} {roster : Roster}

/-- Nothing but the owner of the row is replaced. -/
theorem heldBy_eq_self (howner : (data.heldBy roster).owner = data.owner) :
    data.heldBy roster = data :=
  congrArg (fun owner => { data with owner }) howner

/-- An owner who is there stays the owner. -/
theorem heldBy_of_has (hsound : roster.Sound) (hpresent : roster.has data.owner = true) :
    data.heldBy roster = data := by
  rw [heldBy, Presence.restore, hsound.ofList_eq_self, if_pos hpresent]
  rfl

/-- An owner who is not there is followed by the most senior of those who are. -/
theorem exists_heir (hsound : roster.Sound) (hothers : roster ≠ [])
    (habsent : roster.has data.owner = false) :
    ∃ heir ∈ roster, (data.heldBy roster).owner = heir.user ∧
      ∀ other ∈ roster, other ≠ heir → heir.Senior other := by
  obtain ⟨heir, rest, hroster⟩ := List.exists_cons_of_ne_nil hothers
  have hhead : roster.head? = some heir := by rw [hroster, List.head?_cons]
  obtain ⟨hmem, hsenior⟩ := hsound.senior_of_head? hhead
  refine ⟨heir, hmem, ?_, hsenior⟩
  rw [heldBy, Presence.restore, hsound.ofList_eq_self, if_neg (Bool.eq_false_iff.mp habsent),
    Roster.successor, hhead]
  rfl

/-- Whoever holds a room is there. -/
theorem has_heldBy (hsound : roster.Sound) (hothers : roster ≠ []) :
    roster.has (data.heldBy roster).owner = true := by
  by_cases hpresent : roster.has data.owner = true
  · rwa [heldBy_of_has hsound hpresent]
  · obtain ⟨heir, hmem, hheir, -⟩ := exists_heir hsound hothers (Bool.eq_false_iff.mpr hpresent)
    rw [hheir]
    exact Roster.has_of_mem hmem

/-- Presence that is restored from those who are there agrees with the row on the owner. -/
theorem restore_eq (hsound : roster.Sound) (hothers : roster ≠ []) :
    Presence.restore roster data.owner =
      { roster, owner := some (data.heldBy roster).owner } := by
  have hroster : (Presence.restore roster data.owner).roster = roster := hsound.ofList_eq_self
  have howner : (Presence.restore roster data.owner).owner =
      some (data.heldBy roster).owner := by
    cases hvacant : (Presence.restore roster data.owner).owner with
    | none =>
        have hempty := (Presence.Sound.restore roster data.owner).vacant hvacant
        exact absurd (hroster.symm.trans hempty) hothers
    | some owner => rw [heldBy, hvacant, Option.getD_some]
  exact congrArg₂ Presence.mk hroster howner

end RoomRecord

namespace Store

variable {store next : Store} {room : RoomId} {data : RoomRecord} {todo : List RoomId}

/-- Those of some participants that have an account, together with it. -/
def accounted (store : Store) (roster : Roster) : List (Participant × User) :=
  roster.filterMap fun participant =>
    (store.users.get? participant.user).map fun user => (participant, user)

/-- The users of those participants that have no account. -/
def lost (store : Store) (roster : Roster) : List UserId :=
  (roster.filter fun participant => !store.users.contains participant.user).map (·.user)

/-- The participants of a room that have an account. -/
def survivors (store : Store) (room : RoomId) : Roster :=
  (store.roster room).filter fun participant => store.users.contains participant.user

section Cons

variable {head : Participant} {rest : Roster} {account : User}

theorem accounted_cons_of_some (haccount : store.users.get? head.user = some account) :
    store.accounted (head :: rest) = (head, account) :: store.accounted rest :=
  List.filterMap_cons_some (by rw [haccount]; rfl)

theorem accounted_cons_of_none (haccount : store.users.get? head.user = none) :
    store.accounted (head :: rest) = store.accounted rest :=
  List.filterMap_cons_none (by rw [haccount]; rfl)

theorem lost_cons_of_some (haccount : store.users.get? head.user = some account) :
    store.lost (head :: rest) = store.lost rest := by
  rw [lost, List.filter_cons_of_neg, lost]
  simp [IdMap.contains_eq_isSome, haccount]

theorem lost_cons_of_none (haccount : store.users.get? head.user = none) :
    store.lost (head :: rest) = head.user :: store.lost rest := by
  rw [lost, List.filter_cons_of_pos, List.map_cons, lost]
  simp [IdMap.contains_eq_isSome, haccount]

end Cons

theorem accounted_fst (store : Store) (roster : Roster) :
    (store.accounted roster).map (·.1) =
      roster.filter fun participant => store.users.contains participant.user := by
  induction roster with
  | nil => rfl
  | cons head rest ih =>
      cases haccount : store.users.get? head.user with
      | none =>
          rw [accounted_cons_of_none haccount, ih, List.filter_cons_of_neg]
          simp [IdMap.contains_eq_isSome, haccount]
      | some account =>
          rw [accounted_cons_of_some haccount, List.map_cons, ih, List.filter_cons_of_pos]
          simp [IdMap.contains_eq_isSome, haccount]

/-- Dropping those who have no account leaves those who have one. -/
theorem without_lost (store : Store) (room : RoomId) :
    (store.roster room).without (store.lost (store.roster room)) = store.survivors room := by
  rw [Roster.without, survivors]
  apply List.filter_congr
  intro participant hmem
  by_cases haccount : store.users.contains participant.user = true
  · have hkept : participant.user ∉ store.lost (store.roster room) := by
      intro hlost
      obtain ⟨other, hother, huser⟩ := List.mem_map.mp hlost
      have hnone := (List.mem_filter.mp hother).2
      simp [huser, haccount] at hnone
    simp [hkept, haccount]
  · have hlost : participant.user ∈ store.lost (store.roster room) :=
      List.mem_map_of_mem (List.mem_filter.mpr ⟨hmem, by simpa using haccount⟩)
    simp [hlost, haccount]

/-- Of how many rooms a participant has an account. -/
def survivorCount (store : Store) : Nat :=
  store.rooms.values.countP fun data =>
    (store.roster data.id).any fun participant => store.users.contains participant.user

theorem survivors_ne_nil_iff : store.survivors room ≠ [] ↔
    ∃ participant ∈ store.roster room, store.users.contains participant.user = true := by
  simp [survivors]

theorem Coherent.survivors_sound (hcoherent : store.Coherent) (room : RoomId) :
    (store.survivors room).Sound :=
  ⟨(hcoherent.roster_sound room).ordered.filter _, (hcoherent.roster_sound room).distinct.filter _⟩

/-- Nobody is in a room that does not exist. -/
theorem Coherent.roster_eq_nil (hcoherent : store.Coherent)
    (habsent : store.rooms.get? room = none) : store.roster room = [] := by
  by_contra hothers
  have hstored := hcoherent.housed room hothers
  rw [IdMap.contains_eq_isSome, habsent] at hstored
  cases hstored

theorem Coherent.survivors_eq_nil (hcoherent : store.Coherent)
    (habsent : store.rooms.get? room = none) : store.survivors room = [] := by
  rw [survivors, hcoherent.roster_eq_nil habsent]
  rfl

/-- The rows after the room of a row was mended. -/
def mend (store : Store) (data : RoomRecord) : Store :=
  if store.survivors data.id = [] then store.forget data.id
  else
    { store.setRoster data.id (store.survivors data.id) with
      rooms := store.rooms.insert data.id (data.heldBy (store.survivors data.id)) }

/-- The row of a room that has been mended. -/
def mendedRow (store : Store) (room : RoomId) : Option RoomRecord :=
  if store.survivors room = [] then none
  else (store.rooms.get? room).map fun data => data.heldBy (store.survivors room)

/-- The rows in which all rooms have been mended except those that are still to do. -/
structure Mended (store : Store) (todo : List RoomId) (next : Store) : Prop where
  users : next.users = store.users
  sessions : next.sessions = store.sessions
  contents : next.contents = store.contents
  lastId : next.lastId = store.lastId
  failing : next.failing = store.failing
  rooms : ∀ room, next.rooms.get? room =
    if room ∈ todo then store.rooms.get? room else store.mendedRow room
  participants : ∀ room, next.participants.get? room =
    if room ∈ todo then store.participants.get? room else entry (store.survivors room)
  messages : next.messages = store.messages.filter fun message =>
    message.room ∈ todo ∨ store.survivors message.room ≠ []

/-- At first all rooms are to do. -/
theorem Coherent.mended_keys (hcoherent : store.Coherent) :
    store.Mended store.rooms.keys store where
  users := rfl
  sessions := rfl
  contents := rfl
  lastId := rfl
  failing := rfl
  rooms := fun room => by
    split
    · rfl
    · rename_i hother
      rw [IdMap.mem_keys, IdMap.contains_eq_isSome, Option.not_isSome_iff_eq_none] at hother
      rw [mendedRow, hother, Option.map_none, ite_self]
  participants := fun room => by
    split
    · rfl
    · rename_i hother
      rw [IdMap.mem_keys, IdMap.contains_eq_isSome, Option.not_isSome_iff_eq_none] at hother
      rw [hcoherent.filled, hcoherent.roster_eq_nil hother, hcoherent.survivors_eq_nil hother]
  messages := by
    refine (List.filter_eq_self.mpr fun message hmem => ?_).symm
    simp [IdMap.mem_keys, hcoherent.messages message hmem]

namespace Mended

variable (hmended : store.Mended (room :: todo) next)

include hmended

theorem roster_next : next.roster room = store.roster room := by
  rw [roster, hmended.participants, if_pos List.mem_cons_self, roster]

theorem get?_next : next.rooms.get? room = store.rooms.get? room := by
  rw [hmended.rooms, if_pos List.mem_cons_self]

theorem filled_next (hcoherent : store.Coherent) :
    next.participants.get? room = entry (next.roster room) := by
  rw [hmended.participants, if_pos List.mem_cons_self, hcoherent.filled, hmended.roster_next]

/-- Whom a room has lost does not depend on whether other rooms have been mended. -/
theorem survivors_next : next.survivors room = store.survivors room := by
  rw [survivors, hmended.roster_next, hmended.users, survivors]

/-- The next room is deleted if nobody is left in it. -/
theorem forget (honce : room ∉ todo) (hempty : store.survivors room = []) :
    store.Mended todo (next.forget room) := by
  refine ⟨hmended.users, hmended.sessions, hmended.contents, hmended.lastId, hmended.failing,
    fun other => ?rooms, fun other => ?participants, ?messages⟩
  case rooms =>
    rw [Store.forget, IdMap.get?_erase, hmended.rooms]
    by_cases hsame : other = room
    · simp [hsame, honce, mendedRow, hempty]
    · simp [hsame]
  case participants =>
    rw [Store.forget, IdMap.get?_erase, hmended.participants]
    by_cases hsame : other = room
    · simp [hsame, honce, hempty, entry]
    · simp [hsame]
  case messages =>
    rw [Store.forget, hmended.messages, List.filter_filter]
    apply List.filter_congr
    intro message _
    by_cases hsame : message.room = room
    · simp [hsame, honce, hempty]
    · simp [hsame]

/-- The next room is given to somebody who is left in it. -/
theorem hold (honce : room ∉ todo) (hrow : store.rooms.get? room = some data)
    (hothers : store.survivors room ≠ []) :
    store.Mended todo { next.setRoster room (store.survivors room) with
      rooms := next.rooms.insert room (data.heldBy (store.survivors room)) } := by
  refine ⟨hmended.users, hmended.sessions, hmended.contents, hmended.lastId, hmended.failing,
    fun other => ?rooms, fun other => ?participants, ?messages⟩
  case rooms =>
    rw [IdMap.get?_insert, hmended.rooms]
    by_cases hsame : other = room
    · simp [hsame, honce, mendedRow, hothers, hrow]
    · simp [hsame]
  case participants =>
    show (next.setRoster room (store.survivors room)).participants.get? other = _
    rw [get?_setRoster, hmended.participants]
    by_cases hsame : other = room
    · simp [hsame, honce]
    · simp [hsame]
  case messages =>
    show next.messages = _
    rw [hmended.messages]
    apply List.filter_congr
    intro message _
    by_cases hsame : message.room = room
    · simp [hsame, hothers]
    · simp [hsame]

/-- The next room is mended. -/
theorem mend (honce : room ∉ todo) (hrow : store.rooms.get? room = some data)
    (hnumber : data.id = room) : store.Mended todo (next.mend data) := by
  subst hnumber
  rw [Store.mend, hmended.survivors_next]
  split
  · rename_i hempty
    exact hmended.forget honce hempty
  · rename_i hothers
    exact hmended.hold honce hrow hothers

end Mended

namespace Mended

variable (hcoherent : store.Coherent) (hmended : store.Mended [] next)

include hmended

theorem rooms_get? (room : RoomId) : next.rooms.get? room = store.mendedRow room := by
  rw [hmended.rooms, if_neg List.not_mem_nil]

theorem roster_eq (room : RoomId) : next.roster room = store.survivors room := by
  rw [roster, hmended.participants, if_neg List.not_mem_nil, getD_entry]

theorem survivors_eq (room : RoomId) : next.survivors room = store.survivors room := by
  rw [survivors, hmended.roster_eq, hmended.users, survivors, List.filter_filter]
  simp only [Bool.and_self]

/-- A row that is left is a former one, given to somebody who is there. -/
theorem of_rooms_get? (hdata : next.rooms.get? room = some data) :
    store.survivors room ≠ [] ∧ ∃ former, store.rooms.get? room = some former ∧
      data = former.heldBy (store.survivors room) := by
  rw [hmended.rooms_get?, mendedRow] at hdata
  split at hdata
  · cases hdata
  · rename_i hothers
    obtain ⟨former, hformer, rfl⟩ := Option.map_eq_some_iff.mp hdata
    exact ⟨hothers, former, hformer, rfl⟩

theorem messages_eq : next.messages =
    store.messages.filter fun message => store.survivors message.room ≠ [] := by
  rw [hmended.messages]
  simp

/-- What rows are left when all rooms are mended is settled by the rows that there were. -/
theorem unique {other : Store} (hother : store.Mended [] other) : next = other := by
  apply Store.ext
  · exact hmended.users.trans hother.users.symm
  · exact hmended.sessions.trans hother.sessions.symm
  · exact hmended.contents.trans hother.contents.symm
  · exact IdMap.eq_of_get?_eq fun room => (hmended.rooms room).trans (hother.rooms room).symm
  · exact IdMap.eq_of_get?_eq fun room =>
      (hmended.participants room).trans (hother.participants room).symm
  · exact hmended.messages.trans hother.messages.symm
  · exact hmended.lastId.trans hother.lastId.symm
  · exact hmended.failing.trans hother.failing.symm

include hcoherent

/-- A room is left exactly if somebody is left in it. -/
theorem contains_rooms (room : RoomId) :
    next.rooms.contains room = true ↔ store.survivors room ≠ [] := by
  rw [IdMap.contains_eq_isSome, hmended.rooms_get?, mendedRow]
  split
  · rename_i hempty
    simp [hempty]
  · rename_i hothers
    cases hrow : store.rooms.get? room with
    | none => exact absurd (hcoherent.survivors_eq_nil hrow) hothers
    | some data => simp [hothers]

/-- As many rooms are left as had a participant with an account. -/
theorem size_rooms : next.rooms.size = store.survivorCount := by
  have hkeys : ∀ room, room ∈ next.rooms.keys ↔
      ∃ data, store.rooms.get? room = some data ∧
        ((store.roster data.id).any fun participant =>
          store.users.contains participant.user) = true := by
    intro room
    rw [IdMap.mem_keys, hmended.contains_rooms hcoherent, survivors_ne_nil_iff]
    constructor
    · rintro ⟨participant, hmem, haccount⟩
      have hstored := hcoherent.housed room (List.ne_nil_of_mem hmem)
      obtain ⟨data, hdata⟩ := Option.isSome_iff_exists.mp hstored
      refine ⟨data, hdata, List.any_eq_true.mpr ⟨participant, ?_, haccount⟩⟩
      rwa [hcoherent.numbered room data hdata]
    · rintro ⟨data, hdata, hany⟩
      rw [hcoherent.numbered room data hdata] at hany
      exact List.any_eq_true.mp hany
  rw [survivorCount, IdMap.countP_values (IdMap.nodup_keys _) hkeys]
  exact List.length_map _ |>.symm

/-- Mended rows are coherent. -/
theorem coherent : next.Coherent where
  numbered := fun room data hdata => by
    obtain ⟨-, former, hformer, rfl⟩ := hmended.of_rooms_get? hdata
    exact hcoherent.numbered room former hformer
  ordered := fun room roster hroster => by
    rw [hmended.participants, if_neg List.not_mem_nil, entry] at hroster
    split at hroster
    · cases hroster
    · exact Option.some.inj hroster ▸ hcoherent.survivors_sound room
  filled := fun room => by
    rw [hmended.participants, if_neg List.not_mem_nil, hmended.roster_eq]
  housed := fun room hroster => by
    rw [hmended.roster_eq] at hroster
    exact (hmended.contains_rooms hcoherent room).mpr hroster
  messages := fun message hmem => by
    rw [hmended.messages_eq] at hmem
    have hothers := (List.mem_filter.mp hmem).2
    exact (hmended.contains_rooms hcoherent message.room).mpr (by simpa using hothers)

/-- Rows that have been mended do not change when they are mended again. -/
theorem mended_again : next.Mended [] next where
  users := rfl
  sessions := rfl
  contents := rfl
  lastId := rfl
  failing := rfl
  rooms := fun room => by
    rw [if_neg List.not_mem_nil, mendedRow, hmended.survivors_eq]
    cases hrow : next.rooms.get? room with
    | none => rw [Option.map_none, ite_self]
    | some data =>
        obtain ⟨hothers, former, hformer, rfl⟩ := hmended.of_rooms_get? hrow
        have hsound := hcoherent.survivors_sound room
        rw [if_neg hothers, Option.map_some,
          RoomRecord.heldBy_of_has hsound (RoomRecord.has_heldBy hsound hothers)]
  participants := fun room => by
    rw [if_neg List.not_mem_nil, hmended.participants, if_neg List.not_mem_nil,
      hmended.survivors_eq]
  messages := by
    refine (List.filter_eq_self.mpr fun message hmem => ?_).symm
    have hothers := (hmended.contains_rooms hcoherent message.room).mp
      ((hmended.coherent hcoherent).messages message hmem)
    simp [hmended.survivors_eq, hothers]

end Mended

end Store

end WatchParty
