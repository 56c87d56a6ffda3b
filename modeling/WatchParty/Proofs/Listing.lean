/-
# Listings and their pages

A listing of rooms with different numbers is in the order of its sort, strictly, so that no two of
its rooms have the same position. A page is a segment of the listing that starts right after a
cursor. These facts are about one listing and one page of it.
-/

import WatchParty.Proofs.IdMap
import WatchParty.Venue.Listing

namespace WatchParty

namespace Cursor

variable {sort : RoomSort} {first second third : Cursor}

theorem Before.irrefl (sort : RoomSort) (cursor : Cursor) : ¬ cursor.Before sort cursor := by
  rintro (h | ⟨-, h | ⟨-, h⟩⟩)
  · exact Nat.lt_irrefl _ h
  · exact Int.lt_irrefl _ h
  · exact Int.lt_irrefl _ h

theorem Before.trans (hfirst : first.Before sort second) (hsecond : second.Before sort third) :
    first.Before sort third := by
  rcases hfirst with h | ⟨h, hfirst⟩ <;> rcases hsecond with h' | ⟨h', hsecond⟩
  · exact .inl (Nat.lt_trans h' h)
  · exact .inl (h' ▸ h)
  · exact .inl (h ▸ h')
  · refine .inr ⟨h.trans h', ?_⟩
    rcases hfirst with h | ⟨h, hid⟩ <;> rcases hsecond with h' | ⟨h', hid'⟩
    · exact .inl (Int.lt_trans h' h)
    · exact .inl (h' ▸ h)
    · exact .inl (h ▸ h')
    · exact .inr ⟨h.trans h', Int.lt_trans hid' hid⟩

/-- Of two positions with different numbers one comes first. -/
theorem Before.total (hid : first.id ≠ second.id) :
    first.Before sort second ∨ second.Before sort first := by
  rcases Nat.lt_trichotomy (first.rank sort) (second.rank sort) with h | h | h
  · exact .inr (.inl h)
  · rcases Int.lt_trichotomy first.createdAt second.createdAt with h' | h' | h'
    · exact .inr (.inr ⟨h.symm, .inl h'⟩)
    · rcases Int.lt_or_gt_of_ne hid with hlt | hgt
      · exact .inr (.inr ⟨h.symm, .inr ⟨h'.symm, hlt⟩⟩)
      · exact .inl (.inr ⟨h, .inr ⟨h', hgt⟩⟩)
    · exact .inl (.inr ⟨h, .inl h'⟩)
  · exact .inl (.inl h)

/-- By the instant of creation, a position is that instant and the number. -/
theorem before_createdAt_congr (hcreated : first.createdAt = second.createdAt)
    (hid : first.id = second.id) (other : Cursor) :
    other.Before .createdAt first ↔ other.Before .createdAt second := by
  simp only [Before, rank, hcreated, hid]

end Cursor

namespace Listing

variable {sort : RoomSort} {room : Snapshot} {rooms : List Snapshot}

/-- The rooms are in order, strictly. -/
def Ordered (sort : RoomSort) (rooms : List Snapshot) : Prop :=
  rooms.Pairwise fun first second =>
    (Cursor.ofSnapshot first).Before sort (Cursor.ofSnapshot second)

theorem place_perm (sort : RoomSort) (room : Snapshot) (rooms : List Snapshot) :
    (place sort room rooms).Perm (room :: rooms) := by
  induction rooms with
  | nil => exact .refl _
  | cons head rest ih =>
      rw [place]
      split
      · exact (ih.cons head).trans (.swap room head rest)
      · exact .refl _

theorem arrange_perm (sort : RoomSort) (rooms : List Snapshot) :
    (arrange sort rooms).Perm rooms := by
  induction rooms with
  | nil => exact .refl _
  | cons room rest ih => exact (place_perm sort room _).trans (ih.cons room)

theorem Ordered.place (hordered : Ordered sort rooms) (hnew : room.id ∉ rooms.map (·.id)) :
    Ordered sort (place sort room rooms) := by
  induction rooms with
  | nil => exact List.pairwise_singleton _ _
  | cons head rest ih =>
      obtain ⟨hhead, hrest⟩ := List.pairwise_cons.mp hordered
      rw [List.map_cons, List.mem_cons, not_or] at hnew
      rw [Listing.place]
      split
      · rename_i hbefore
        refine List.pairwise_cons.mpr ⟨fun other hother => ?_, ih hrest hnew.2⟩
        rcases List.mem_cons.mp ((place_perm sort room rest).mem_iff.mp hother) with rfl | hmem
        · exact hbefore
        · exact hhead other hmem
      · rename_i hnot
        have hbefore : (Cursor.ofSnapshot room).Before sort (.ofSnapshot head) :=
          (Cursor.Before.total hnew.1).resolve_right hnot
        refine List.pairwise_cons.mpr ⟨fun other hother => ?_, hordered⟩
        rcases List.mem_cons.mp hother with rfl | hmem
        · exact hbefore
        · exact hbefore.trans (hhead other hmem)

/-- Rooms with different numbers are put into strict order. -/
theorem ordered_arrange (sort : RoomSort) (hnodup : (rooms.map (·.id)).Nodup) :
    Ordered sort (arrange sort rooms) := by
  induction rooms with
  | nil => exact List.Pairwise.nil
  | cons room rest ih =>
      obtain ⟨hnew, hrest⟩ := List.nodup_cons.mp hnodup
      apply (ih hrest).place
      rwa [((arrange_perm sort rest).map _).mem_iff]

/-- What comes after the last room comes after all of them. -/
theorem Ordered.before_of_last {front : List Snapshot} {last : Snapshot} {position : Cursor}
    (hordered : Ordered sort (front ++ [last])) (hmem : room ∈ front ++ [last])
    (hbefore : (Cursor.ofSnapshot last).Before sort position) :
    (Cursor.ofSnapshot room).Before sort position := by
  obtain ⟨-, -, hfront⟩ := List.pairwise_append.mp hordered
  rcases List.mem_append.mp hmem with hmem | hmem
  · exact (hfront room hmem last List.mem_cons_self).trans hbefore
  · rwa [List.mem_singleton.mp hmem]

/-- The rooms of a listing that come after a position, if one is given. -/
def following (sort : RoomSort) (cursor : Option Cursor) (rooms : List Snapshot) : List Snapshot :=
  match cursor with
  | none => rooms
  | some cursor => rooms.filter fun room => cursor.Before sort (.ofSnapshot room)

theorem following_sublist (sort : RoomSort) (cursor : Option Cursor) (rooms : List Snapshot) :
    (following sort cursor rooms).Sublist rooms := by
  cases cursor with
  | none => exact .refl _
  | some cursor => exact List.filter_sublist

theorem mem_following {cursor : Option Cursor} :
    room ∈ following sort cursor rooms ↔
      room ∈ rooms ∧
        ∀ position, cursor = some position → position.Before sort (.ofSnapshot room) := by
  cases cursor with
  | none => simp [following]
  | some cursor => simp [following]

theorem cut_eq (query : RoomQuery) (limit : Nat) (cursor : Option Cursor)
    (matching : List Snapshot) :
    let rest := following query.sort cursor matching
    cut { query with limit := some limit, cursor } matching =
      { rooms := rest.take limit
        nextCursor :=
          if decide (limit < rest.length) then (rest.take limit).getLast?.map .ofSnapshot else none
        hasNext := decide (limit < rest.length)
        total := matching.length } := by
  cases cursor <;> rfl

theorem page_sublist (query : RoomQuery) (limit : Nat) (cursor : Option Cursor)
    (matching : List Snapshot) :
    (cut { query with limit := some limit, cursor } matching).rooms.Sublist matching := by
  rw [cut_eq]
  exact (List.take_sublist _ _).trans (following_sublist _ _ _)

/-- With a limit or without, a page holds rooms of the listing. -/
theorem cut_sublist (query : RoomQuery) (matching : List Snapshot) :
    (cut query matching).rooms.Sublist matching := by
  obtain ⟨search, sort, limit, cursor⟩ := query
  cases limit with
  | some limit => exact page_sublist ⟨search, sort, some limit, cursor⟩ limit cursor matching
  | none =>
      cases cursor with
      | none => exact .refl _
      | some cursor => exact List.filter_sublist

/-- A page holds the first rooms that follow the cursor. It is the last one and holds all of them,
or it is full and the next cursor is the position of its last room. -/
theorem cut_cases {query : RoomQuery} {limit : Nat} (hlimit : 0 < limit) {cursor : Option Cursor}
    {matching : List Snapshot} {page : RoomPage}
    (hpage : page = cut { query with limit := some limit, cursor } matching) :
    page.total = matching.length ∧
      ∃ later, following query.sort cursor matching = page.rooms ++ later ∧
        ((page.hasNext = false ∧ page.nextCursor = none ∧ later = [] ∧
            page.rooms.length ≤ limit) ∨
          (page.hasNext = true ∧ later ≠ [] ∧ page.rooms.length = limit ∧
            ∃ front last, page.rooms = front ++ [last] ∧
              page.nextCursor = some (.ofSnapshot last))) := by
  obtain ⟨rest, hrest⟩ : ∃ rest, rest = following query.sort cursor matching := ⟨_, rfl⟩
  rw [cut_eq, ← hrest] at hpage
  rw [← hrest, hpage]
  refine ⟨rfl, rest.drop limit, (List.take_append_drop limit rest).symm, ?_⟩
  by_cases hmore : limit < rest.length
  · have hlength : (rest.take limit).length = limit := by
      rw [List.length_take]
      omega
    have hfull : rest.take limit ≠ [] := List.length_pos_iff.mp (by omega)
    refine .inr ⟨decide_eq_true hmore, ?_, hlength, (rest.take limit).dropLast,
      (rest.take limit).getLast hfull, (List.dropLast_concat_getLast hfull).symm, ?_⟩
    · apply List.length_pos_iff.mp
      rw [List.length_drop]
      omega
    · simp [hmore, List.getLast?_eq_some_getLast hfull]
  · refine .inl ⟨decide_eq_false hmore, by simp [hmore], ?_, ?_⟩
    · exact List.drop_eq_nil_of_le (by omega)
    · exact List.length_take_le limit rest

end Listing

end WatchParty
