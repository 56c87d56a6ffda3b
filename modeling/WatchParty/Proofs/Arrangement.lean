/-
# Listings as arrangements of rooms

Rooms with different numbers are totally ordered by their positions. So a listing is determined by
which rooms there are and what is searched for. It does not matter in which order the register is
walked through, or in which order its rooms have been opened. A page is what stands in the listing
right after the cursor, whether or not a room has that position.
-/

import Mathlib.Data.List.TakeWhile
import Mathlib.Order.RelClasses
import WatchParty.Proofs.Search

namespace WatchParty

open Text

namespace RoomQuery

variable {query : RoomQuery} {room : Snapshot}

/-- A room is searched for unless a text that is not blank is, trimmed and in lower case, no part of
the lower case of any of its titles. -/
def Matches (query : RoomQuery) (room : Snapshot) : Prop :=
  ∀ text, query.search = some text → (∃ c ∈ text.toList, isBlank c = false) →
    ∃ title ∈ room.titles,
      lowercaseChars (trimChars text.toList) <:+: lowercaseChars title.toList

theorem matches_of_no_search (hsearch : query.search = none) (room : Snapshot) :
    query.Matches room := by
  intro text htext
  cases hsearch.symm.trans htext

theorem matches_of_blank {text : String} (hsearch : query.search = some text)
    (hblank : ∀ c ∈ text.toList, isBlank c = true) (room : Snapshot) : query.Matches room := by
  rintro _ htext ⟨c, hmem, hc⟩
  cases hsearch.symm.trans htext
  rw [hblank c hmem] at hc
  cases hc

theorem accepts_iff_matches : query.accepts room = true ↔ query.Matches room := by
  cases hsearch : query.search with
  | none =>
      have hall : query.accepts room = true := by
        rw [accepts, needle?, hsearch]
        rfl
      exact iff_of_true hall (matches_of_no_search hsearch room)
  | some text =>
      rw [accepts_iff hsearch]
      by_cases hblank : ∀ c ∈ text.toList, isBlank c = true
      · -- Nothing is left of the text, and nothing is a part of every title.
        have hnone : trimChars text.toList = [] := by
          rw [trimChars, List.dropWhile_eq_nil_iff.mpr hblank, trimEnd]
        refine iff_of_true ?_ (matches_of_blank hsearch hblank room)
        rw [hnone]
        exact ⟨room.title, List.mem_cons_self, List.nil_infix⟩
      · obtain ⟨c, hmem, hc⟩ : ∃ c ∈ text.toList, isBlank c = false := by
          simpa using hblank
        constructor
        · rintro hpart _ htext -
          cases hsearch.symm.trans htext
          exact hpart
        · intro hmatches
          exact hmatches text hsearch ⟨c, hmem, hc⟩

end RoomQuery

namespace Listing

variable {sort : RoomSort} {query : RoomQuery} {live listed : List Snapshot} {room : Snapshot}

/-- Whether a room comes before another in a listing. -/
def Earlier (sort : RoomSort) (first second : Snapshot) : Prop :=
  (Cursor.ofSnapshot first).Before sort (.ofSnapshot second)

/-- Rooms with different numbers are totally ordered. -/
theorem strictTotalOrder_earlier (sort : RoomSort) (hdistinct : (live.map (·.id)).Nodup) :
    IsStrictTotalOrder {room // room ∈ live} fun first second =>
      Earlier sort first.val second.val where
  irrefl room := Cursor.Before.irrefl sort _
  trans _ _ _ := Cursor.Before.trans
  trichotomous first second hfirst hsecond := by
    have hid : first.val.id = second.val.id := by
      by_contra hne
      exact (Cursor.Before.total hne).elim hfirst hsecond
    exact Subtype.ext (List.inj_on_of_nodup_map hdistinct first.property second.property hid)

/-- A list holds the rooms that are there and searched for, each once, in strict order. -/
structure Arranges (live : List Snapshot) (query : RoomQuery) (listed : List Snapshot) : Prop where
  mem_iff : ∀ room, room ∈ listed ↔ room ∈ live ∧ query.Matches room
  once : ∀ room ∈ listed, listed.count room = 1
  ordered : listed.Pairwise (Earlier query.sort)

theorem Ordered.nodup (hordered : Ordered sort listed) : listed.Nodup := by
  apply hordered.imp
  rintro room _ hbefore rfl
  exact Cursor.Before.irrefl sort _ hbefore

/-- Rooms with different numbers are arranged, in whatever order they come. -/
theorem arranges_arrange (query : RoomQuery) (hdistinct : (live.map (·.id)).Nodup) :
    Arranges live query (arrange query.sort (live.filter query.accepts)) := by
  have hordered : Ordered query.sort (arrange query.sort (live.filter query.accepts)) :=
    ordered_arrange query.sort (hdistinct.sublist (List.filter_sublist.map _))
  refine ⟨fun room => ?_, fun room => List.count_eq_one_of_mem hordered.nodup, hordered⟩
  rw [(arrange_perm _ _).mem_iff, List.mem_filter, RoomQuery.accepts_iff_matches]

/-- There is only one way to arrange rooms. -/
theorem Arranges.unique {other : List Snapshot} (hlisted : Arranges live query listed)
    (hother : Arranges live query other) : other = listed := by
  have hperm : other.Perm listed := by
    apply (List.perm_ext_iff_of_nodup (Ordered.nodup hother.ordered)
      (Ordered.nodup hlisted.ordered)).mpr
    intro room
    rw [hother.mem_iff, hlisted.mem_iff]
  apply hperm.eq_of_pairwise ?_ hother.ordered hlisted.ordered
  intro first second _ _ hbefore hafter
  exact absurd (Cursor.Before.trans hbefore hafter) (Cursor.Before.irrefl _ _)

/-- Only the set of rooms counts. -/
theorem Arranges.congr {others : List Snapshot} (hlisted : Arranges live query listed)
    (hsame : ∀ room, room ∈ others ↔ room ∈ live) : Arranges others query listed where
  mem_iff room := by rw [hlisted.mem_iff, hsame]
  once := hlisted.once
  ordered := hlisted.ordered

/-- A page holds the first rooms after the cursor, tells how many rooms there are at all, and tells
where to go on exactly if there are more. -/
structure CutsOut (sort : RoomSort) (listed : List Snapshot) (limit : Nat) (cursor : Option Cursor)
    (page : RoomPage) : Prop where
  rooms : page.rooms = (following sort cursor listed).take limit
  total : page.total = listed.length
  hasNext : page.hasNext = true ↔ limit < (following sort cursor listed).length
  nextCursor : page.nextCursor.isSome = page.hasNext
  position : ∀ position, page.nextCursor = some position →
    ∃ last, page.rooms.getLast? = some last ∧ position = .ofSnapshot last

theorem cutsOut_cut (query : RoomQuery) {limit : Nat} (hlimit : 0 < limit)
    (cursor : Option Cursor) (listed : List Snapshot) :
    CutsOut query.sort listed limit cursor
      (cut { query with limit := some limit, cursor } listed) := by
  rw [cut_eq]
  obtain ⟨rest, hrest⟩ : ∃ rest, following query.sort cursor listed = rest := ⟨_, rfl⟩
  by_cases hmore : limit < rest.length
  · obtain ⟨last, hlast⟩ : ∃ last, (rest.take limit).getLast? = some last := by
      have hfull : rest.take limit ≠ [] := by
        rw [← List.length_pos_iff, List.length_take]
        omega
      exact ⟨_, List.getLast?_eq_some_getLast hfull⟩
    constructor <;> simp [hrest, hmore, hlast]
  · constructor <;> simp [hrest, hmore]

/-- The rooms that are listed are those that readers of the lobby see. -/
theorem mem_liveSnapshots {lobby : Lobby} {now : Instant} :
    room ∈ liveSnapshots lobby now ↔
      ∃ number live, lobby.liveRoom? number = some live ∧ room = live.view.snapshot now := by
  simp only [liveSnapshots, Lobby.liveRoom?, List.mem_map, List.mem_filter, IdMap.mem_values,
    Option.filter_eq_some_iff]
  constructor
  · rintro ⟨live, ⟨⟨number, hroom⟩, hlive⟩, rfl⟩
    exact ⟨number, live, ⟨hroom, hlive⟩, rfl⟩
  · rintro ⟨number, live, ⟨hroom, hlive⟩, rfl⟩
    exact ⟨live, ⟨⟨number, hroom⟩, hlive⟩, rfl⟩

/-- If the rooms have different numbers, they are totally ordered, and the listing holds those that
are searched for in this order. The listing is determined by this, so neither the order in which the
register is walked through nor the order in which the rooms have come to be there changes it. Each
page, from any position on, is cut out of it. -/
theorem listing_is_arrangement (lobby : Lobby) (now : Instant)
    (hdistinct : ((liveSnapshots lobby now).map (·.id)).Nodup) (query : RoomQuery) :
    let live := liveSnapshots lobby now
    let listed := all lobby now query
    (∀ room, room ∈ live ↔
      ∃ number there, lobby.liveRoom? number = some there ∧ room = there.view.snapshot now) ∧
    IsStrictTotalOrder {room // room ∈ live} (fun first second =>
      Earlier query.sort first.val second.val) ∧
    Arranges live query listed ∧
    (∀ other, Arranges live query other → other = listed) ∧
    (∀ walk : List Snapshot, walk.Perm live →
      arrange query.sort (walk.filter query.accepts) = listed) ∧
    (∀ other later, ((liveSnapshots other later).map (·.id)).Nodup →
      (∀ room, room ∈ liveSnapshots other later ↔ room ∈ live) →
        all other later query = listed) ∧
    ∀ limit cursor, 0 < limit →
      CutsOut query.sort listed limit cursor
        (page lobby now { query with limit := some limit, cursor }) := by
  intro live listed
  have hlisted : Arranges live query listed := arranges_arrange query hdistinct
  -- Whatever rooms are arranged, if they are the same ones the result is the same.
  have hsame : ∀ others : List Snapshot, (others.map (·.id)).Nodup →
      (∀ room, room ∈ others ↔ room ∈ live) →
        arrange query.sort (others.filter query.accepts) = listed := by
    intro others hothers hmem
    apply hlisted.unique
    exact (arranges_arrange query hothers).congr fun room => (hmem room).symm
  refine ⟨fun room => mem_liveSnapshots, strictTotalOrder_earlier query.sort hdistinct, hlisted,
    fun other => hlisted.unique, fun walk hwalk => ?_, fun other later => hsame _,
    fun limit cursor hlimit => cutsOut_cut query hlimit cursor listed⟩
  exact hsame walk ((hwalk.map _).nodup_iff.mpr hdistinct) fun room => hwalk.mem_iff

/-- Somebody opens a second room, and later a third one, which somebody else joins. -/
def matinee : Venue :=
  Venue.meeting.follow
    [.ask (.createRoom 2 3 none), .alter (.setTime 5), .ask (.createRoom 1 3 (some "Late show")),
      .ask (.join 6 2)]

theorem matinee_reachable : matinee.Reachable := Venue.meeting_reachable.follow (by decide +kernel)

/-- A blank text finds all three rooms. Of the rooms after a position that none of them has, the
first page shows one. -/
theorem matinee_listing_is_arrangement :
    let query : RoomQuery := { search := some " \t", sort := .headCount }
    let listed := all matinee.lobby 5 query
    let position : Cursor := { headCount := 2, createdAt := 3, id := 100 }
    let page := page matinee.lobby 5 { query with limit := some 1, cursor := some position }
    ((liveSnapshots matinee.lobby 5).map (·.id)).Nodup ∧
      Arranges (liveSnapshots matinee.lobby 5) query listed ∧
      CutsOut .headCount listed 1 (some position) page ∧
      listed.map (·.id) = [6, 4, 5] ∧ page.rooms.map (·.id) = [4] ∧ page.hasNext = true := by
  intro query listed position page
  have hdistinct := matinee_reachable.sound.distinct_ids 5
  obtain ⟨-, -, hlisted, -, -, -, hpages⟩ := listing_is_arrangement matinee.lobby 5 hdistinct query
  refine ⟨hdistinct, hlisted, hpages 1 (some position) (by decide), ?_, ?_, ?_⟩
  · decide +kernel
  · decide +kernel
  · decide +kernel

end Listing

end WatchParty
