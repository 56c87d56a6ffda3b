/-
# Paging by written cursors

A client of the service passes on the text of a cursor, which names the instant of creation to the
millisecond only. The listing itself goes by microseconds. So a page that ends among rooms of one
millisecond is followed by one that passes over the rest of them, and a listing is shown as a whole
exactly if none of its pages ends so. In any case the client comes to an end, is never refused, and
is shown rooms in order and none of them twice.

This is about listings that do not change in between. The instants of creation have to be among
those that a cursor can name.
-/

import Mathlib.Data.Int.Interval
import WatchParty.Proofs.Cursor
import WatchParty.Proofs.Invariant
import WatchParty.Proofs.Paging

namespace WatchParty

open Http

namespace Cursor

/-- Rounding down moves an instant back, if at all. -/
theorem createdAt_truncate_le (cursor : Cursor) : cursor.truncate.createdAt ≤ cursor.createdAt := by
  rw [createdAt_truncate]
  exact Int.ediv_mul_le _ (by decide)

/-- A rounded position comes no earlier. -/
theorem onward_truncate (sort : RoomSort) : Listing.Onward sort truncate := by
  intro cursor other hbefore
  have hle := cursor.createdAt_truncate_le
  rcases hbefore with hrank | ⟨hrank, hlt | ⟨heq, hid⟩⟩
  · exact .inl hrank
  · exact .inr ⟨hrank, .inl (Int.lt_of_lt_of_le hlt hle)⟩
  · rcases Int.lt_or_eq_of_le hle with hlt | hsame
    · exact .inr ⟨hrank, .inl (heq ▸ hlt)⟩
    · exact .inr ⟨hrank, .inr ⟨hsame.symm.trans heq, hid⟩⟩

end Cursor

/-- An instant that a cursor can name. -/
def Nameable (instant : Instant) : Prop :=
  firstMillisecond ≤ instant.milliseconds ∧ instant.milliseconds ≤ lastMillisecond

instance (instant : Instant) : Decidable (Nameable instant) :=
  inferInstanceAs (Decidable (_ ∧ _))

namespace Venue

variable {venue : Venue} {query : ListQuery}

/-- What a client is answered who asks for rooms again and again, as many times as given, each time
with the text of the cursor that came with the page before. -/
def walk (venue : Venue) (query : ListQuery) : Nat → Option String → List (Except Refusal RoomPage)
  | 0, _ => []
  | calls + 1, text =>
    match { query with cursor := text }.toRoomQuery with
    | .error refusal => [.error refusal]
    | .ok asked =>
      let page := Listing.page venue.lobby venue.now asked
      .ok page :: match page.nextCursor with
        | some cursor => walk venue query calls (some (encodeCursor cursor))
        | none => []

/-- No more different numbers are in use than there are. -/
theorem length_le_of_nodup {ids : List Int} (hnodup : ids.Nodup)
    (hids : ∀ id ∈ ids, 0 < id ∧ id ≤ maxIdentifier) : ids.length ≤ maxIdentifier.toNat := by
  have hsubset : ids.toFinset ⊆ Finset.Ioc 0 maxIdentifier := by
    intro id hid
    exact Finset.mem_Ioc.mpr (hids id (List.mem_toFinset.mp hid))
  calc ids.length
    _ = ids.toFinset.card := (List.toFinset_card_of_nodup hnodup).symm
    _ ≤ (Finset.Ioc 0 maxIdentifier).card := Finset.card_le_card hsubset
    _ = maxIdentifier.toNat := by rw [Int.card_Ioc, Int.sub_zero]

/-- A room has fewer members than there are numbers. -/
theorem Reachable.members_length_le (hreach : venue.Reachable) {number : RoomId}
    {state : RoomState} (hstate : venue.lobby.states.get? number = some state) :
    state.members.length ≤ maxIdentifier.toNat := by
  have hvenue := hreach.sound
  have hbacked := hvenue.describes.backed number state hstate
  have hids : ∀ id ∈ state.members.map (·.user.id), 0 < id ∧ id ≤ maxIdentifier := by
    rw [hbacked.sound.member_ids]
    intro id hid
    have hpresent : state.presence.contains id = true := Roster.has_iff.mpr (List.mem_map.mp hid)
    obtain ⟨account, haccount, -⟩ := hbacked.sound.exists_account hpresent
    have hstored := hbacked.accounts id account haccount
    refine ⟨hreach.user_pos (IdMap.contains_of_get? hstored), ?_⟩
    exact Int.le_trans (hvenue.numbered.users id account hstored).2 (Int.le_of_lt hreach.lastId_lt)
  rw [← List.length_map (·.user.id)]
  exact length_le_of_nodup hbacked.sound.member_ids_nodup hids

/-- The position of a listed room can be read back. -/
theorem Reachable.readable (hreach : venue.Reachable) {asked : RoomQuery} {room : Snapshot}
    (hroom : room ∈ Listing.all venue.lobby venue.now asked) (htime : Nameable room.createdAt) :
    (Cursor.ofSnapshot room).Readable := by
  have hvenue := hreach.sound
  obtain ⟨state, hstate, hsnapshot, -⟩ := hvenue.mem_all.mp hroom
  have hlast := hvenue.numbered.rooms room.id (hvenue.describes.contains_room hstate)
  refine ⟨?_, htime, ?_, ?_⟩
  · have hcount : room.headCount = state.members.length := by
      rw [hsnapshot]
      rfl
    show room.headCount ≤ maxCount
    rw [hcount]
    exact Nat.le_trans (hreach.members_length_le hstate) (by decide)
  · exact Int.le_trans (by decide) (Int.le_of_lt (hreach.room_pos hstate))
  · exact Int.lt_of_le_of_lt (Int.le_trans hlast (Int.le_of_lt hreach.lastId_lt)) (by decide)

end Venue

namespace Http.ListQuery

/-- The size of a page that is asked for. -/
def pageSize (query : ListQuery) : Nat := query.size.getD defaultPageSize

/-- The rooms that are asked for, without regard to pages. -/
def subject (query : ListQuery) : RoomQuery :=
  { search := query.search, sort := query.sort.getD .createdAt }

variable {query : ListQuery} (hsize : 1 ≤ query.pageSize ∧ query.pageSize ≤ maxPageSize)

include hsize

theorem toRoomQuery_first :
    { query with cursor := none }.toRoomQuery =
      .ok { query.subject with limit := some query.pageSize, cursor := none } := by
  have hfits : ¬(query.pageSize < 1 ∨ maxPageSize < query.pageSize) := by omega
  exact if_neg hfits

/-- The text of a cursor is taken for the cursor, rounded down. -/
theorem toRoomQuery_next {cursor : Cursor} (hreadable : cursor.Readable) :
    { query with cursor := some (encodeCursor cursor) }.toRoomQuery =
      .ok { query.subject with limit := some query.pageSize, cursor := some cursor.truncate } := by
  have hfits : ¬(query.pageSize < 1 ∨ maxPageSize < query.pageSize) := by omega
  have hread := decodeCursor?_encodeCursor hreadable
  have hfilled : (encodeCursor cursor).isEmpty = false := by
    cases hempty : (encodeCursor cursor).isEmpty with
    | false => rfl
    | true =>
        rw [String.isEmpty_iff.mp hempty] at hread
        cases hread
  refine (if_neg hfits).trans ?_
  simp only [Option.filter_some, hfilled, Bool.not_false, if_true, hread]
  rfl

end Http.ListQuery

namespace Venue

variable {venue : Venue} {query : ListQuery}

/-- The client leafs through the listing, with cursors that are rounded down. -/
theorem walk_eq (hsize : 1 ≤ query.pageSize ∧ query.pageSize ≤ maxPageSize)
    (hreadable : ∀ room ∈ Listing.all venue.lobby venue.now query.subject,
      (Cursor.ofSnapshot room).Readable) (calls : Nat) {text : Option String}
    {cursor : Option Cursor}
    (hasks : { query with cursor := text }.toRoomQuery =
      .ok { query.subject with limit := some query.pageSize, cursor }) :
    venue.walk query calls text =
      (Listing.leaf Cursor.truncate query.subject query.pageSize
        (Listing.all venue.lobby venue.now query.subject) calls cursor).map .ok := by
  induction calls generalizing text cursor with
  | zero => rfl
  | succ calls ih =>
      obtain ⟨page, hpage⟩ : ∃ page, page =
          Listing.cut { query.subject with limit := some query.pageSize, cursor }
            (Listing.all venue.lobby venue.now query.subject) := ⟨_, rfl⟩
      have hlisted : Listing.page venue.lobby venue.now
          { query.subject with limit := some query.pageSize, cursor } = page := hpage.symm
      obtain ⟨-, later, hrest, hcases⟩ := Listing.cut_cases hsize.1 hpage
      rw [walk, hasks, Listing.leaf]
      simp only [hlisted, ← hpage, List.map_cons]
      rcases hcases with ⟨-, hnone, -⟩ | ⟨-, -, -, front, last, hrooms, hsome⟩
      · simp only [hnone, List.map_nil]
      · have hlast : last ∈ Listing.all venue.lobby venue.now query.subject := by
          apply (Listing.following_sublist query.subject.sort cursor _).subset
          rw [hrest, hrooms]
          simp
        simp only [hsome]
        rw [ih (ListQuery.toRoomQuery_next hsize (hreadable last hlast))]

/-- A client who passes on the text of the next cursor is never refused, comes to an end, and is
shown rooms in order, none of them twice. That is all of the rooms, on as few pages as can be,
exactly if no full page ends before a room that the rounded position passes over: one of the same
millisecond, and in the order of members of the same number of them. -/
theorem Reachable.walk_by_text (hreach : venue.Reachable) (query : ListQuery) (calls : Nat)
    (hsize : 1 ≤ query.pageSize ∧ query.pageSize ≤ maxPageSize) :
    let matching := Listing.all venue.lobby venue.now query.subject
    (∀ room ∈ matching, Nameable room.createdAt) →
    Listing.pageCount query.pageSize matching.length ≤ calls →
    ∃ pages, venue.walk query calls none = pages.map .ok ∧
      Listing.Skimmed query.pageSize matching matching pages ∧
      (Listing.Complete query.pageSize matching matching pages ↔
        Listing.Kept Cursor.truncate query.subject.sort query.pageSize matching) := by
  intro matching htimes hcalls
  have hordered := hreach.sound.ordered_all venue.now query.subject
  have honward := Cursor.onward_truncate query.subject.sort
  have hleafed : Listing.Leafed Cursor.truncate query.subject.sort query.pageSize matching none
      (Listing.leaf Cursor.truncate query.subject query.pageSize matching calls none) :=
    Listing.leafed_leaf hordered honward hsize.1 rfl hcalls
  refine ⟨_, walk_eq hsize (fun room hroom => hreach.readable hroom (htimes room hroom)) calls
      (ListQuery.toRoomQuery_first hsize),
    hleafed.skimmed hordered honward hsize.1, hleafed.complete_iff hordered honward hsize.1⟩

/-- Somebody opens a room at one time, and another room at another time. -/
def twoRooms (first second : Instant) : Venue :=
  (opening {} first .empty).follow
    [.alter (.addUser "ada" "Ada"), .alter (.addContent "A Film" none),
      .ask (.createRoom 1 2 none), .alter (.setTime second), .ask (.createRoom 1 2 none)]

/-- Rooms of different milliseconds are all shown. -/
theorem twoRooms_walk_by_text :
    let venue := twoRooms 100 1100
    let matching := Listing.all venue.lobby venue.now {}
    venue.Reachable ∧ matching.map (·.id) = [4, 3] ∧
      ∃ pages, venue.walk { size := some 1 } 2 none = pages.map .ok ∧
        Listing.Complete 1 matching matching pages := by
  intro venue matching
  have hreach : venue.Reachable := ⟨{}, 100, _, by decide, rfl⟩
  obtain ⟨pages, hwalk, -, hcomplete⟩ :=
    hreach.walk_by_text { size := some 1 } 2 (by decide) (by decide +kernel) (by decide +kernel)
  refine ⟨hreach, by decide +kernel, pages, hwalk, hcomplete.mpr ?_⟩
  obtain ⟨first, second, hmatching, hbefore⟩ : ∃ first second, matching = [first, second] ∧
      (Cursor.ofSnapshot first).truncate.Before .createdAt (.ofSnapshot second) :=
    ⟨_, _, rfl, by decide +kernel⟩
  intro before room next later hboundary _
  cases before with
  | nil =>
      obtain ⟨rfl, hrest⟩ := List.cons.inj (hmatching.symm.trans hboundary)
      obtain ⟨rfl, -⟩ := List.cons.inj hrest
      exact hbefore
  | cons head before =>
      have hlength := congrArg List.length (hmatching.symm.trans hboundary)
      simp at hlength
      omega

/-- Of two rooms of one millisecond, the second one is passed over. -/
theorem twoRooms_passed_over :
    let venue := twoRooms 100 500
    let matching := Listing.all venue.lobby venue.now {}
    venue.Reachable ∧ matching.map (·.id) = [4, 3] ∧
      (venue.walk { size := some 1 } 2 none).map
          (fun answer => answer.toOption.map fun page => (page.rooms.map (·.id), page.hasNext)) =
        [some ([4], true), some ([], false)] ∧
      ¬ ∃ pages, venue.walk { size := some 1 } 2 none = pages.map .ok ∧
        Listing.Complete 1 matching matching pages := by
  intro venue matching
  have hids : matching.map (·.id) = [4, 3] := by decide +kernel
  have hwalk : (venue.walk { size := some 1 } 2 none).map
      (fun answer => answer.toOption.map fun page => (page.rooms.map (·.id), page.hasNext)) =
        [some ([4], true), some ([], false)] := by decide +kernel
  refine ⟨⟨{}, 100, _, by decide, rfl⟩, hids, hwalk, ?_⟩
  rintro ⟨pages, hpages, hcomplete⟩
  have hshown : (pages.map fun page => page.rooms.map (·.id)) = [[4], []] := by
    rw [hpages, List.map_map] at hwalk
    have hfst := congrArg (List.map fun shown => (shown.map Prod.fst).getD []) hwalk
    rwa [List.map_map] at hfst
  have hall : (pages.flatMap (·.rooms)).map (·.id) = [4] := by
    rw [List.map_flatMap, List.flatMap_def, hshown]
    rfl
  rw [hcomplete.rooms, hids] at hall
  cases hall

end Venue

end WatchParty
