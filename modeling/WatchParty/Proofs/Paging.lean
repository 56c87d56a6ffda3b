/-
# Paging while rooms change

Someone who turns the pages of a listing takes the next cursor of each page to the next call, and
between two calls anything may happen to the rooms. By the instant of creation a room keeps its
position for as long as it is there, and no number is given away twice. So the pages never step
back: no room is shown twice, and a room that is there all the time is not passed over. By the
number of members rooms change their positions, and then this holds only if nothing happens.
-/

import Mathlib.Data.List.Nodup
import WatchParty.Proofs.Lineage
import WatchParty.Proofs.Leafing
import WatchParty.Proofs.Restart

namespace WatchParty

namespace Venue.Sound

variable {venue : Venue} (hsound : venue.Sound)

include hsound

/-- A room is listed if it is there and is searched for. -/
theorem mem_all {query : RoomQuery} {now : Instant} {room : Snapshot} :
    room ∈ Listing.all venue.lobby now query ↔
      ∃ state, venue.lobby.states.get? room.id = some state ∧ room = state.snapshot now ∧
        query.accepts room = true := by
  rw [Listing.all, (Listing.arrange_perm _ _).mem_iff, List.mem_filter, hsound.liveSnapshots_eq,
    List.mem_map]
  constructor
  · rintro ⟨⟨state, hmem, rfl⟩, haccepts⟩
    obtain ⟨number, hstate⟩ := IdMap.mem_values.mp hmem
    have hid : state.data.id = number := hsound.states_numbered number state hstate
    rw [← hid] at hstate
    exact ⟨state, hstate, rfl, haccepts⟩
  · rintro ⟨state, hstate, rfl, haccepts⟩
    exact ⟨⟨state, IdMap.mem_values.mpr ⟨_, hstate⟩, rfl⟩, haccepts⟩

/-- Rooms have different numbers. -/
theorem distinct_ids (now : Instant) :
    ((Listing.liveSnapshots venue.lobby now).map (·.id)).Nodup := by
  have hids : (venue.lobby.states.values.map (·.snapshot now)).map (·.id) =
      venue.lobby.states.keys := by
    rw [List.map_map]
    exact IdMap.map_values hsound.states_numbered
  rw [hsound.liveSnapshots_eq, hids]
  exact IdMap.nodup_keys _

/-- Rooms are listed in strict order. -/
theorem ordered_all (now : Instant) (query : RoomQuery) :
    Listing.Ordered query.sort (Listing.all venue.lobby now query) :=
  Listing.ordered_arrange _ ((hsound.distinct_ids now).sublist (List.filter_sublist.map _))

end Venue.Sound

/-- A call for a page: the venue at which it was made, and the page. -/
structure Visit where
  venue : Venue
  page : RoomPage

namespace Venue

/-- The calls of someone who turns pages. Before each call some steps happen, and each call sets a
limit; the first one is made with the given cursor, and every other one with the next cursor of the
one before it. -/
def browse (query : RoomQuery) : Venue → Option Cursor → List (List Step × Nat) → List Visit
  | _, _, [] => []
  | venue, cursor, (steps, limit) :: schedule =>
    let venue := venue.follow steps
    let page := Listing.page venue.lobby venue.now { query with limit := some limit, cursor }
    { venue, page } :: match page.nextCursor with
      | some cursor => browse query venue (some cursor) schedule
      | none => []

variable {venue : Venue} {query : RoomQuery} {cursor : Option Cursor}
  {schedule : List (List Step × Nat)} {visit : Visit} {room : Snapshot} {number : RoomId}

/-- Every call is made at some later time, for a page of the listing of that time. -/
theorem of_mem_browse (hlasts : venue.Lasts (schedule.flatMap (·.1)))
    (hvisit : visit ∈ venue.browse query cursor schedule) :
    (∃ steps, venue.Lasts steps ∧ visit.venue = venue.follow steps) ∧
    ∀ room ∈ visit.page.rooms, room ∈ Listing.all visit.venue.lobby visit.venue.now query := by
  induction schedule generalizing venue cursor with
  | nil => cases hvisit
  | cons entry schedule ih =>
      obtain ⟨steps, limit⟩ := entry
      obtain ⟨hsteps, hlater⟩ := lasts_append.mp hlasts
      rw [browse] at hvisit
      rcases List.mem_cons.mp hvisit with rfl | hmem
      · refine ⟨⟨steps, hsteps, rfl⟩, fun room hroom => ?_⟩
        exact (Listing.page_sublist query limit cursor _).subset hroom
      · split at hmem
        · obtain ⟨⟨more, hmore, heq⟩, hrooms⟩ := ih hlater hmem
          refine ⟨⟨steps ++ more, lasts_append.mpr ⟨hsteps, hmore⟩, ?_⟩, hrooms⟩
          rw [heq, follow, follow, follow, List.foldl_append]
        · cases hmem

/-- The rooms shown by all pages. -/
def shown (visits : List Visit) : List Snapshot := visits.flatMap (·.page.rooms)

/-- A call shows the first rooms after the cursor, in order. It is the last call, and nothing is
left, or the walk goes on from the last room shown. -/
theorem Sound.browse_cons {steps : List Step} (hsound : (venue.follow steps).Sound) {limit : Nat}
    (hlimit : 0 < limit) (query : RoomQuery) (cursor : Option Cursor)
    (schedule : List (List Step × Nat)) :
    let here := venue.follow steps
    ∃ page later, Listing.Ordered query.sort (page.rooms ++ later) ∧
      (∀ room, room ∈ page.rooms ++ later ↔ room ∈ Listing.all here.lobby here.now query ∧
        ∀ position, cursor = some position → position.Before query.sort (.ofSnapshot room)) ∧
      ((page.hasNext = false ∧ later = [] ∧
          venue.browse query cursor ((steps, limit) :: schedule) = [⟨here, page⟩]) ∨
        (page.hasNext = true ∧ ∃ front last, page.rooms = front ++ [last] ∧
          venue.browse query cursor ((steps, limit) :: schedule) =
            ⟨here, page⟩ :: here.browse query (some (.ofSnapshot last)) schedule)) := by
  intro here
  obtain ⟨page, hpage⟩ : ∃ page, page =
    Listing.page here.lobby here.now { query with limit := some limit, cursor } := ⟨_, rfl⟩
  obtain ⟨-, later, hfollowing, hcases⟩ := Listing.cut_cases hlimit hpage
  refine ⟨page, later, ?_, fun room => ?_, ?_⟩
  · rw [← hfollowing]
    exact (hsound.ordered_all here.now query).sublist (Listing.following_sublist _ _ _)
  · rw [← hfollowing]
    exact Listing.mem_following
  · rw [browse]
    simp only [here] at hpage
    rw [← hpage]
    rcases hcases with ⟨hnext, hnone, hlater, -⟩ | ⟨hnext, -, -, front, last, hrooms, hsome⟩
    · exact .inl ⟨hnext, hlater, by rw [hnone]⟩
    · exact .inr ⟨hnext, front, last, hrooms, by rw [hsome]⟩

/-- The pages show rooms in strict order, and all of them after the first cursor. -/
theorem Sound.browse_ordered (hsound : venue.Sound) (hlimits : ∀ entry ∈ schedule, 0 < entry.2)
    (hlasts : venue.Lasts (schedule.flatMap (·.1))) :
    Listing.Ordered query.sort (shown (venue.browse query cursor schedule)) ∧
      ∀ room ∈ shown (venue.browse query cursor schedule), ∀ position, cursor = some position →
        position.Before query.sort (.ofSnapshot room) := by
  induction schedule generalizing venue cursor with
  | nil => exact ⟨.nil, fun _ hroom => nomatch hroom⟩
  | cons entry schedule ih =>
      obtain ⟨steps, limit⟩ := entry
      obtain ⟨hsteps, hlater⟩ := lasts_append.mp hlasts
      have hlimit : 0 < limit := hlimits _ List.mem_cons_self
      obtain ⟨page, later, hordered, hmem, hcases⟩ :=
        (hsound.follow hsteps).browse_cons hlimit query cursor schedule
      have hpage : ∀ room ∈ page.rooms, ∀ position, cursor = some position →
          position.Before query.sort (.ofSnapshot room) :=
        fun room hroom => ((hmem room).mp (List.mem_append_left _ hroom)).2
      have hrooms : Listing.Ordered query.sort page.rooms :=
        hordered.sublist (List.sublist_append_left _ _)
      rcases hcases with ⟨-, -, hbrowse⟩ | ⟨-, front, last, hlast, hbrowse⟩
      · rw [hbrowse, shown, List.flatMap_singleton]
        exact ⟨hrooms, hpage⟩
      · have hlimits' : ∀ entry ∈ schedule, 0 < entry.2 :=
          fun entry hentry => hlimits entry (List.mem_cons_of_mem _ hentry)
        rw [hlast] at hrooms hpage
        rw [hbrowse, shown, List.flatMap_cons, hlast, ← shown]
        obtain ⟨hrest, hafter⟩ := ih (hsound.follow hsteps) hlimits' hlater
        have hbeyond : ∀ room ∈ front ++ [last], ∀ other ∈ shown _,
            (Cursor.ofSnapshot room).Before query.sort (.ofSnapshot other) :=
          fun room hroom other hother => hrooms.before_of_last hroom (hafter other hother _ rfl)
        refine ⟨List.pairwise_append.mpr ⟨hrooms, hrest, hbeyond⟩, fun room hroom => ?_⟩
        rcases List.mem_append.mp hroom with hmem | hmem
        · exact hpage room hmem
        · intro position hposition
          have hfirst := hpage last (by simp) position hposition
          exact hfirst.trans (hafter room hmem _ rfl)

/-- A room has the same position in the listings of two times, if it is sorted by its creation. -/
theorem Sound.not_before (hsound : venue.Sound) {steps : List Step} (hlasts : venue.Lasts steps)
    {now later : Instant} {first second : Snapshot}
    (hfirst : first ∈ Listing.all venue.lobby now query)
    (hsecond : second ∈ Listing.all (venue.follow steps).lobby later query)
    (hid : first.id = second.id) :
    ¬ (Cursor.ofSnapshot first).Before .createdAt (.ofSnapshot second) := by
  obtain ⟨state, hstate, hfirst, -⟩ := hsound.mem_all.mp hfirst
  obtain ⟨state', hstate', hsecond, -⟩ := (hsound.follow hlasts).mem_all.mp hsecond
  rw [hid] at hstate
  have hakin := hsound.akin_follow hlasts hstate hstate'
  have hcreated : first.createdAt = second.createdAt := by
    rw [hfirst, hsecond]
    exact hakin.createdAt.symm
  rintro (hrank | ⟨-, hlt | ⟨-, hlt⟩⟩)
  · exact Nat.lt_irrefl 0 hrank
  · exact Int.ne_of_gt hlt hcreated
  · exact Int.ne_of_gt hlt hid

/-- No room is shown twice. -/
theorem Sound.nodup_browse (hsound : venue.Sound) (hsort : query.sort = .createdAt)
    (hlimits : ∀ entry ∈ schedule, 0 < entry.2) (hlasts : venue.Lasts (schedule.flatMap (·.1))) :
    ((shown (venue.browse query cursor schedule)).map (·.id)).Nodup := by
  apply List.pairwise_map.mpr
  have hordered : Listing.Ordered query.sort (shown (venue.browse query cursor schedule)) :=
    (hsound.browse_ordered hlimits hlasts).1
  induction schedule generalizing venue cursor with
  | nil => exact .nil
  | cons entry schedule ih =>
      obtain ⟨steps, limit⟩ := entry
      obtain ⟨hsteps, hlater⟩ := lasts_append.mp hlasts
      have hhere := hsound.follow hsteps
      obtain ⟨page, later, -, hmem, hcases⟩ :=
        hhere.browse_cons (hlimits _ List.mem_cons_self) query cursor schedule
      have hlisted : ∀ room ∈ page.rooms,
          room ∈ Listing.all (venue.follow steps).lobby (venue.follow steps).now query :=
        fun room hroom => ((hmem room).mp (List.mem_append_left _ hroom)).1
      have hpage : ∀ {first second}, first ∈ page.rooms → second ∈ page.rooms →
          (Cursor.ofSnapshot first).Before query.sort (.ofSnapshot second) →
          first.id ≠ second.id := by
        intro first second hfirst hsecond hbefore hid
        have hstays : (venue.follow steps).Lasts [] := hsteps.follow
        rw [hsort] at hbefore
        exact hhere.not_before hstays (hlisted first hfirst) (hlisted second hsecond) hid hbefore
      rcases hcases with ⟨-, -, hbrowse⟩ | ⟨-, front, last, -, hbrowse⟩
      · rw [hbrowse, shown, List.flatMap_singleton] at hordered ⊢
        exact hordered.imp_of_mem hpage
      · rw [hbrowse, shown, List.flatMap_cons, ← shown] at hordered ⊢
        obtain ⟨hrooms, hrest, hbeyond⟩ := List.pairwise_append.mp hordered
        refine List.pairwise_append.mpr ⟨hrooms.imp_of_mem hpage, ?_, ?_⟩
        · exact ih hhere (fun entry hentry => hlimits entry (List.mem_cons_of_mem _ hentry)) hlater
            hrest
        · intro first hfirst second hsecond hid
          obtain ⟨visit, hvisit, hsecond'⟩ := List.mem_flatMap.mp hsecond
          obtain ⟨⟨more, hmore, heq⟩, hlisted'⟩ := of_mem_browse hlater hvisit
          have hlisted'' := hlisted' second hsecond'
          rw [heq] at hlisted''
          have hbefore := hbeyond first hfirst second hsecond
          rw [hsort] at hbefore
          exact hhere.not_before hmore (hlisted first hfirst) hlisted'' hid hbefore

/-- A room that is there and searched for at every call, always at a position after the first
cursor, is shown. -/
theorem Sound.mem_shown (hsound : venue.Sound) (hlimits : ∀ entry ∈ schedule, 0 < entry.2)
    (hlasts : venue.Lasts (schedule.flatMap (·.1))) {position : Cursor}
    (hthere : ∀ visit ∈ venue.browse query cursor schedule,
      ∃ room ∈ Listing.all visit.venue.lobby visit.venue.now query,
        room.id = number ∧ ∀ other : Cursor,
          other.Before query.sort position ↔ other.Before query.sort (.ofSnapshot room))
    (hafter : ∀ start, cursor = some start → start.Before query.sort position)
    (hends : ∃ visit, (venue.browse query cursor schedule).getLast? = some visit ∧
      visit.page.hasNext = false) :
    number ∈ (shown (venue.browse query cursor schedule)).map (·.id) := by
  induction schedule generalizing venue cursor with
  | nil =>
      obtain ⟨visit, hlast, -⟩ := hends
      cases hlast
  | cons entry schedule ih =>
      obtain ⟨steps, limit⟩ := entry
      obtain ⟨hsteps, hlater⟩ := lasts_append.mp hlasts
      have hhere := hsound.follow hsteps
      obtain ⟨page, later, hordered, hmem, hcases⟩ :=
        hhere.browse_cons (hlimits _ List.mem_cons_self) query cursor schedule
      have hfirst : ⟨venue.follow steps, page⟩ ∈
          venue.browse query cursor ((steps, limit) :: schedule) := by
        rcases hcases with ⟨-, -, hbrowse⟩ | ⟨-, _, _, -, hbrowse⟩ <;>
          exact hbrowse ▸ List.mem_cons_self
      obtain ⟨room, hlisted, hid, hsame⟩ := hthere _ hfirst
      have hroom : room ∈ page.rooms ++ later :=
        (hmem room).mpr ⟨hlisted, fun start hstart => (hsame start).mp (hafter start hstart)⟩
      rcases hcases with ⟨-, rfl, hbrowse⟩ | ⟨hnext, front, last, hlast, hbrowse⟩
      · rw [hbrowse, shown, List.flatMap_singleton, ← hid]
        rw [List.append_nil] at hroom
        exact List.mem_map_of_mem hroom
      · rw [hbrowse] at hthere hends ⊢
        rw [shown, List.flatMap_cons, ← shown, List.map_append, List.mem_append]
        rcases List.mem_append.mp hroom with hnow | hyet
        · exact .inl (hid ▸ List.mem_map_of_mem hnow)
        · right
          obtain ⟨-, -, hbeyond⟩ := List.pairwise_append.mp hordered
          have hbefore := hbeyond last (by simp [hlast]) room hyet
          apply ih hhere (fun entry hentry => hlimits entry (List.mem_cons_of_mem _ hentry)) hlater
          · exact fun visit hvisit => hthere visit (List.mem_cons_of_mem _ hvisit)
          · intro start hstart
            cases hstart
            exact (hsame _).mpr hbefore
          · obtain ⟨visit, hvisit, hdone⟩ := hends
            generalize (venue.follow steps).browse query _ schedule = others at hvisit ⊢
            cases others with
            | nil =>
                cases hvisit
                cases hnext.symm.trans hdone
            | cons other rest => exact ⟨visit, List.getLast?_cons_cons ▸ hvisit, hdone⟩

/-- A room that is there at every call is the same room at all of them. -/
theorem Sound.akin_browse (hsound : venue.Sound) (hlimits : ∀ entry ∈ schedule, 0 < entry.2)
    (hlasts : venue.Lasts (schedule.flatMap (·.1)))
    (hlive : ∀ visit ∈ venue.browse query cursor schedule,
      ∃ state, visit.venue.lobby.states.get? number = some state)
    {other : Visit} (hvisit : visit ∈ venue.browse query cursor schedule)
    (hother : other ∈ venue.browse query cursor schedule) {state state' : RoomState}
    (hstate : visit.venue.lobby.states.get? number = some state)
    (hstate' : other.venue.lobby.states.get? number = some state') : state.Akin state' := by
  cases schedule with
  | nil => cases hvisit
  | cons entry schedule =>
      obtain ⟨steps, limit⟩ := entry
      obtain ⟨hsteps, hlater⟩ := lasts_append.mp hlasts
      have hhere := hsound.follow hsteps
      obtain ⟨page, later, -, -, hcases⟩ :=
        hhere.browse_cons (hlimits _ List.mem_cons_self) query cursor schedule
      -- All of them descend from the room at the first call.
      suffices hfirst : ∃ first : RoomState,
          ∀ visit ∈ venue.browse query cursor ((steps, limit) :: schedule), ∀ state,
            visit.venue.lobby.states.get? number = some state → first.Akin state by
        obtain ⟨first, hakin⟩ := hfirst
        exact (hakin visit hvisit state hstate).symm.trans (hakin other hother state' hstate')
      rcases hcases with ⟨-, -, hbrowse⟩ | ⟨-, front, last, -, hbrowse⟩
      · rw [hbrowse] at hlive ⊢
        obtain ⟨first, hfirst⟩ := hlive _ List.mem_cons_self
        refine ⟨first, fun visit hvisit state hstate => ?_⟩
        rw [List.mem_singleton.mp hvisit, hfirst] at hstate
        cases hstate
        exact .refl first
      · rw [hbrowse] at hlive ⊢
        obtain ⟨first, hfirst⟩ := hlive _ List.mem_cons_self
        refine ⟨first, fun visit hvisit state hstate => ?_⟩
        rcases List.mem_cons.mp hvisit with rfl | hmem
        · rw [hfirst] at hstate
          cases hstate
          exact .refl first
        · obtain ⟨⟨more, hmore, heq⟩, -⟩ := of_mem_browse hlater hmem
          rw [heq] at hstate
          exact hhere.akin_follow hmore hfirst hstate

/-- Whether a room is searched for depends on what it was created with. -/
theorem accepts_of_akin {first second : RoomState} (hakin : first.Akin second)
    (now later : Instant) :
    query.accepts (second.snapshot later) = query.accepts (first.snapshot now) := by
  have htitle : (second.snapshot later).title = (first.snapshot now).title := hakin.title
  have hcontent : (second.snapshot later).content = (first.snapshot now).content := hakin.content
  rw [RoomQuery.accepts, RoomQuery.accepts, htitle, hcontent]

/-- A room that is there at every call, and searched for at one of them, is shown. -/
theorem Sound.mem_browse (hsound : venue.Sound) (hsort : query.sort = .createdAt)
    (hlimits : ∀ entry ∈ schedule, 0 < entry.2) (hlasts : venue.Lasts (schedule.flatMap (·.1)))
    (hlive : ∀ visit ∈ venue.browse query none schedule,
      (visit.venue.lobby.liveRoom? number).isSome = true)
    (hmatches : ∃ visit ∈ venue.browse query none schedule,
      ∃ room ∈ Listing.all visit.venue.lobby visit.venue.now query, room.id = number)
    (hends : ∃ visit, (venue.browse query none schedule).getLast? = some visit ∧
      visit.page.hasNext = false) :
    number ∈ (shown (venue.browse query none schedule)).map (·.id) := by
  have hvisited : ∀ visit ∈ venue.browse query none schedule, visit.venue.Sound := by
    intro visit hvisit
    obtain ⟨⟨steps, hsteps, heq⟩, -⟩ := of_mem_browse hlasts hvisit
    exact heq ▸ hsound.follow hsteps
  have hstates : ∀ visit ∈ venue.browse query none schedule,
      ∃ state, visit.venue.lobby.states.get? number = some state := by
    intro visit hvisit
    obtain ⟨room, hroom⟩ := Option.isSome_iff_exists.mp (hlive visit hvisit)
    rw [(hvisited visit hvisit).liveRoom?_eq] at hroom
    exact ⟨room.state, Lobby.states_get? hroom⟩
  obtain ⟨match₀, hmatch, room, hroom, rfl⟩ := hmatches
  obtain ⟨state, hstate, hsnapshot, haccepts⟩ := (hvisited match₀ hmatch).mem_all.mp hroom
  have hthere : ∀ visit ∈ venue.browse query none schedule,
      ∃ other ∈ Listing.all visit.venue.lobby visit.venue.now query, other.id = room.id ∧
        ∀ position : Cursor, position.Before query.sort (.ofSnapshot room) ↔
          position.Before query.sort (.ofSnapshot other) := by
    intro visit hvisit
    obtain ⟨state', hstate'⟩ := hstates visit hvisit
    have hakin := hsound.akin_browse hlimits hlasts hstates hmatch hvisit hstate hstate'
    let other := state'.snapshot visit.venue.now
    have hid : other.id = room.id := by
      rw [hsnapshot]
      exact hakin.id
    have hcreated : room.createdAt = other.createdAt := by
      rw [hsnapshot]
      exact hakin.createdAt.symm
    refine ⟨other, (hvisited visit hvisit).mem_all.mpr ⟨state', hid ▸ hstate', rfl, ?_⟩, hid, ?_⟩
    · rw [hsnapshot] at haccepts
      rw [← haccepts]
      exact accepts_of_akin hakin _ _
    · rw [hsort]
      exact Cursor.before_createdAt_congr hcreated hid.symm
  exact hsound.mem_shown hlimits hlasts hthere (fun _ hnone => nomatch hnone) hends

/-- If nothing happens between the calls, one listing is leafed through. -/
theorem pages_browse (venue : Venue) (query : RoomQuery) (limit calls : Nat)
    (cursor : Option Cursor) :
    (venue.browse query cursor (List.replicate calls ([], limit))).map (·.page) =
      Listing.leaf id query limit (Listing.all venue.lobby venue.now query) calls cursor := by
  induction calls generalizing cursor with
  | zero => rfl
  | succ calls ih =>
      obtain ⟨page, hpage⟩ : ∃ page, Listing.page venue.lobby venue.now
        { query with limit := some limit, cursor } = page := ⟨_, rfl⟩
      have hcut : Listing.cut { query with limit := some limit, cursor }
        (Listing.all venue.lobby venue.now query) = page := hpage
      have hstays : venue.follow [] = venue := rfl
      simp only [List.replicate_succ, browse, Listing.leaf, hstays, hpage, hcut, List.map_cons]
      cases page.nextCursor with
      | none => rfl
      | some cursor => exact congrArg (page :: ·) (ih (some cursor))

/-- Whoever turns the pages of the rooms by their creation, whatever happens in between, is shown
rooms in strict order and none of them twice, and is shown every room that is there and searched for
all the time exactly once. If nothing happens in between this holds in every order, and the number
of pages is the least that will do. -/
theorem Reachable.paging_stable (hreach : venue.Reachable) (query : RoomQuery) :
    (query.sort = .createdAt → ∀ (start : Option Cursor) (schedule : List (List Step × Nat)),
      (∀ entry ∈ schedule, 0 < entry.2) → venue.Lasts (schedule.flatMap (·.1)) →
      let visits := venue.browse query start schedule
      Listing.Ordered .createdAt (shown visits) ∧ ((shown visits).map (·.id)).Nodup ∧
      (start = none → ∀ number,
        (∀ visit ∈ visits, (visit.venue.lobby.liveRoom? number).isSome) →
        (∃ visit ∈ visits, ∃ room ∈ Listing.all visit.venue.lobby visit.venue.now query,
          room.id = number) →
        (∃ visit, visits.getLast? = some visit ∧ visit.page.hasNext = false) →
        ((shown visits).map (·.id)).count number = 1)) ∧
    ∀ limit calls, 0 < limit →
      let matching := Listing.all venue.lobby venue.now query
      Listing.pageCount limit matching.length ≤ calls →
      Listing.Complete limit matching matching
        ((venue.browse query none (List.replicate calls ([], limit))).map (·.page)) := by
  have hsound := hreach.sound
  constructor
  · intro hsort start schedule hlimits hlasts visits
    have hnodup : ((shown visits).map (·.id)).Nodup := hsound.nodup_browse hsort hlimits hlasts
    refine ⟨hsort ▸ (hsound.browse_ordered hlimits hlasts).1, hnodup, ?_⟩
    rintro rfl number hlive hmatches hends
    apply List.count_eq_one_of_mem hnodup
    exact hsound.mem_browse hsort hlimits hlasts hlive hmatches hends
  · intro limit calls hlimit matching hcalls
    rw [pages_browse]
    exact Listing.complete_leaf_id hlimit (hsound.ordered_all venue.now query) hcalls

/-- The first page shows a room that is gone before the second call, which goes on after it. -/
theorem meeting_paging_stable :
    let schedule : List (List Step × Nat) :=
      [([.alter (.setTime 5), .ask (.createRoom 2 3 none)], 1), ([.ask (.leave 5 2)], 1)]
    let visits := meeting.browse {} none schedule
    (shown visits).map (·.id) = [5, 4] ∧ Listing.Ordered .createdAt (shown visits) ∧
      ((shown visits).map (·.id)).count 4 = 1 := by
  intro schedule visits
  obtain ⟨hordered, -, honce⟩ :=
    (meeting_reachable.paging_stable {}).1 rfl none schedule (by decide) (by decide)
  exact ⟨by decide, hordered, honce rfl 4 (by decide) (by decide) ⟨_, rfl, rfl⟩⟩

end Venue

end WatchParty
