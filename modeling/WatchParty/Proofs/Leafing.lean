/-
# Leafing through a listing

Whoever asks for one page after the other, each by the cursor of the one before it, leafs through
the listing, provided that it does not change in between. A cursor may be passed on in a different
form, as long as this puts it no earlier in the listing. Then leafing comes to an end all the same,
and shows rooms in order, but rooms may be passed over where one page ends and the next one begins.
-/

import WatchParty.Proofs.Listing

namespace WatchParty.Listing

variable {sort : RoomSort} {query : RoomQuery} {cursor : Cursor} {room : Snapshot}
  {front later matching : List Snapshot}

/-- What follows a room, or a position that counts as no earlier, is found among the rooms after
it. -/
theorem following_eq_filter (hordered : Ordered sort (front ++ room :: later))
    (hbehind : ∀ other : Cursor, cursor.Before sort other →
      (Cursor.ofSnapshot room).Before sort other) :
    following sort (some cursor) (front ++ room :: later) =
      later.filter fun other => cursor.Before sort (.ofSnapshot other) := by
  obtain ⟨-, hrest, hfront⟩ := List.pairwise_append.mp hordered
  have hpassed : ∀ other ∈ front ++ [room], ¬ cursor.Before sort (.ofSnapshot other) := by
    intro other hother hbefore
    have hafter := hbehind _ hbefore
    rcases List.mem_append.mp hother with hmem | hmem
    · exact Cursor.Before.irrefl sort _ (hafter.trans (hfront other hmem room List.mem_cons_self))
    · rw [List.mem_singleton.mp hmem] at hafter
      exact Cursor.Before.irrefl sort _ hafter
  have hnone : (front ++ [room]).filter
      (fun other => cursor.Before sort (.ofSnapshot other)) = [] := by
    apply List.filter_eq_nil_iff.mpr
    simpa using hpassed
  rw [following, List.append_cons, List.filter_append, hnone, List.nil_append]

/-- Nothing is passed over exactly if the next room comes after the position. -/
theorem following_eq_iff (hordered : Ordered sort (front ++ room :: later))
    (hbehind : ∀ other : Cursor, cursor.Before sort other →
      (Cursor.ofSnapshot room).Before sort other) :
    following sort (some cursor) (front ++ room :: later) = later ↔
      ∀ next, later.head? = some next → cursor.Before sort (.ofSnapshot next) := by
  rw [following_eq_filter hordered hbehind, List.filter_eq_self]
  constructor
  · intro hall next hnext
    exact of_decide_eq_true (hall next (List.mem_of_head? hnext))
  · intro hnext other hother
    apply decide_eq_true
    obtain ⟨-, hrest, -⟩ := List.pairwise_append.mp hordered
    obtain ⟨-, hlater⟩ := List.pairwise_cons.mp hrest
    cases later with
    | nil => cases hother
    | cons next rest =>
        have hfirst := hnext next rfl
        rcases List.mem_cons.mp hother with rfl | hmem
        · exact hfirst
        · exact hfirst.trans ((List.pairwise_cons.mp hlater).1 other hmem)

/-- The pages of a listing, as far as a number of calls brings them. Each call uses the next cursor
of the one before it, in the form in which it was passed on. -/
def leaf (pass : Cursor → Cursor) (query : RoomQuery) (limit : Nat) (matching : List Snapshot) :
    Nat → Option Cursor → List RoomPage
  | 0, _ => []
  | calls + 1, cursor =>
    let page := cut { query with limit := some limit, cursor } matching
    page :: match page.nextCursor with
      | some cursor => leaf pass query limit matching calls (some (pass cursor))
      | none => []

/-- The number of pages for a number of rooms. -/
def pageCount (limit rooms : Nat) : Nat := max 1 ((rooms + (limit - 1)) / limit)

theorem pageCount_of_le {limit rooms : Nat} (hlimit : 0 < limit) (hle : rooms ≤ limit) :
    pageCount limit rooms = 1 := by
  have hlt : (rooms + (limit - 1)) / limit < 2 := Nat.div_lt_of_lt_mul (by omega)
  unfold pageCount
  omega

theorem pageCount_add {limit rooms : Nat} (hlimit : 0 < limit) (hpos : 0 < rooms) :
    pageCount limit (limit + rooms) = pageCount limit rooms + 1 := by
  have hdiv : (limit + rooms + (limit - 1)) / limit = (rooms + (limit - 1)) / limit + 1 := by
    rw [Nat.add_assoc, Nat.add_comm, Nat.add_div_right _ hlimit]
  have hone : 1 ≤ (rooms + (limit - 1)) / limit := (Nat.le_div_iff_mul_le hlimit).mpr (by omega)
  unfold pageCount
  omega

theorem pageCount_mono {limit fewer rooms : Nat} (hle : fewer ≤ rooms) :
    pageCount limit fewer ≤ pageCount limit rooms := by
  have hdiv : (fewer + (limit - 1)) / limit ≤ (rooms + (limit - 1)) / limit :=
    Nat.div_le_div_right (by omega)
  unfold pageCount
  omega

/-- A full page with something after it counts for one. -/
theorem pageCount_of_full {limit : Nat} (hlimit : 0 < limit) {rooms : List Snapshot}
    (hfull : rooms.length = limit) (hmore : later ≠ []) :
    pageCount limit (rooms ++ later).length = pageCount limit later.length + 1 := by
  rw [List.length_append, hfull]
  exact pageCount_add hlimit (List.length_pos_iff.mpr hmore)

theorem dvd_length_append {limit : Nat} {shown rooms : List Snapshot}
    (hshown : limit ∣ shown.length) (hfull : rooms.length = limit) :
    limit ∣ (shown ++ rooms).length := by
  rw [List.length_append, hfull]
  exact (Nat.dvd_add_right hshown).mpr (Nat.dvd_refl limit)

/-- Every position is passed on as one that comes no earlier in the listing. -/
def Onward (sort : RoomSort) (pass : Cursor → Cursor) : Prop :=
  ∀ cursor other, (pass cursor).Before sort other → cursor.Before sort other

theorem Onward.id (sort : RoomSort) : Onward sort id := fun _ _ hbefore => hbefore

/-- The pages of a listing that follow a cursor. All but the last of them are full, and what comes
next follows the position of the last room, in the form in which it is passed on. -/
inductive Leafed (pass : Cursor → Cursor) (sort : RoomSort) (limit : Nat)
    (matching : List Snapshot) : Option Cursor → List RoomPage → Prop where
  | last {cursor : Option Cursor} {page : RoomPage}
      (hrest : following sort cursor matching = page.rooms) (hfits : page.rooms.length ≤ limit)
      (htotal : page.total = matching.length) (hnext : page.hasNext = false)
      (hnone : page.nextCursor = none) : Leafed pass sort limit matching cursor [page]
  | more {cursor : Option Cursor} {page : RoomPage} {pages : List RoomPage}
      {front later : List Snapshot} {last : Snapshot}
      (hrest : following sort cursor matching = page.rooms ++ later) (hmore : later ≠ [])
      (hfull : page.rooms.length = limit) (hrooms : page.rooms = front ++ [last])
      (htotal : page.total = matching.length) (hnext : page.hasNext = true)
      (hsome : page.nextCursor = some (.ofSnapshot last))
      (hpages : Leafed pass sort limit matching (some (pass (.ofSnapshot last))) pages) :
      Leafed pass sort limit matching cursor (page :: pages)

/-- What follows a cursor is the end of the listing. -/
theorem following_suffix (hordered : Ordered sort matching) (cursor : Option Cursor) :
    following sort cursor matching <:+ matching := by
  cases cursor with
  | none => exact List.suffix_rfl
  | some cursor =>
      induction matching with
      | nil => exact List.suffix_rfl
      | cons head rest ih =>
          obtain ⟨hhead, hrest⟩ := List.pairwise_cons.mp hordered
          by_cases hbefore : cursor.Before sort (.ofSnapshot head)
          · have hall : following sort (some cursor) (head :: rest) = head :: rest := by
              rw [following, List.filter_eq_self]
              intro room hroom
              rcases List.mem_cons.mp hroom with rfl | hmem
              · exact decide_eq_true hbefore
              · exact decide_eq_true (hbefore.trans (hhead room hmem))
            simp only [hall, List.suffix_rfl]
          · have htail : following sort (some cursor) (head :: rest) =
                following sort (some cursor) rest := by
              rw [following, List.filter_cons_of_neg (by simpa using hbefore)]
              rfl
            rw [htail]
            exact (ih hrest).trans (List.suffix_cons head rest)

/-- What it means to have seen the rest of a listing. -/
structure Complete (limit : Nat) (matching rest : List Snapshot) (pages : List RoomPage) :
    Prop where
  rooms : pages.flatMap (·.rooms) = rest
  length : pages.length = pageCount limit rest.length
  /-- There is a next page for every page but the last one. -/
  ends : ∃ front last, pages = front ++ [last] ∧ last.hasNext = false ∧
    ∀ page ∈ front, page.hasNext = true
  each : ∀ page ∈ pages, page.total = matching.length ∧ page.rooms.length ≤ limit ∧
    page.nextCursor.isSome = page.hasNext

/-- What it means to have leafed to the end of a listing, whether or not rooms were passed over. -/
structure Skimmed (limit : Nat) (matching rest : List Snapshot) (pages : List RoomPage) : Prop where
  /-- The rooms are shown in order, and none of them twice. -/
  rooms : (pages.flatMap (·.rooms)).Sublist rest
  length : pages.length ≤ pageCount limit rest.length
  /-- There is a next page for every page but the last one. -/
  ends : ∃ front last, pages = front ++ [last] ∧ last.hasNext = false ∧
    ∀ page ∈ front, page.hasNext = true
  each : ∀ page ∈ pages, page.total = matching.length ∧ page.rooms.length ≤ limit ∧
    page.nextCursor.isSome = page.hasNext

/-- At the end of a full page, the position that is passed on comes before the next room. -/
def Kept (pass : Cursor → Cursor) (sort : RoomSort) (limit : Nat) (matching : List Snapshot) :
    Prop :=
  ∀ before room next later, matching = before ++ room :: next :: later →
    limit ∣ before.length + 1 → (pass (.ofSnapshot room)).Before sort (.ofSnapshot next)

section Leafing

variable {pass : Cursor → Cursor} {limit : Nat} {shown : List Snapshot} {last : Snapshot}
  {start : Option Cursor} {pages : List RoomPage}
variable (hordered : Ordered sort matching) (honward : Onward sort pass)

include hordered honward

/-- After a full page nothing comes again, and rooms may be passed over. -/
theorem following_sublist_later
    (hrest : following sort start matching = (front ++ [last]) ++ later) :
    (following sort (some (pass (.ofSnapshot last))) matching).Sublist later := by
  obtain ⟨shown, hshown⟩ := following_suffix hordered start
  have hsplit : matching = (shown ++ front) ++ last :: later := by
    rw [← hshown, hrest]
    simp
  rw [hsplit] at hordered ⊢
  rw [following_eq_filter hordered fun other => honward _ other]
  exact List.filter_sublist

/-- After a full page nothing is passed over exactly if the next room comes after what is passed
on. -/
theorem following_later_iff (hsplit : matching = front ++ last :: later) :
    following sort (some (pass (.ofSnapshot last))) matching = later ↔
      ∀ next, later.head? = some next →
        (pass (.ofSnapshot last)).Before sort (.ofSnapshot next) := by
  rw [hsplit] at hordered ⊢
  exact following_eq_iff hordered fun other => honward _ other

/-- As many calls as there are pages at most bring all of them. -/
theorem leafed_leaf (hlimit : 0 < limit) (hsort : query.sort = sort) {calls : Nat}
    (hcalls : pageCount limit (following sort start matching).length ≤ calls) :
    Leafed pass sort limit matching start (leaf pass query limit matching calls start) := by
  induction calls generalizing start with
  | zero => exact absurd hcalls (by unfold pageCount; omega)
  | succ calls ih =>
      obtain ⟨page, hpage⟩ :
          ∃ page, page = cut { query with limit := some limit, cursor := start } matching :=
        ⟨_, rfl⟩
      obtain ⟨htotal, later, hrest, hcases⟩ := cut_cases hlimit hpage
      rw [hsort] at hrest
      rw [leaf, ← hpage]
      rcases hcases with
        ⟨hnext, hnone, rfl, hfits⟩ | ⟨hnext, hmore, hfull, front, last, hrooms, hsome⟩
      · rw [List.append_nil] at hrest
        simp only [hnone]
        exact .last hrest hfits htotal hnext hnone
      · simp only [hsome]
        refine .more hrest hmore hfull hrooms htotal hnext hsome (ih ?_)
        have hfewer := following_sublist_later hordered honward (hrooms ▸ hrest)
        rw [hrest, pageCount_of_full hlimit hfull hmore] at hcalls
        exact Nat.le_trans (pageCount_mono hfewer.length_le) (Nat.le_of_succ_le_succ hcalls)

/-- Leafing comes to an end, and shows rooms in order. -/
theorem Leafed.skimmed (hlimit : 0 < limit)
    (hleafed : Leafed pass sort limit matching start pages) :
    Skimmed limit matching (following sort start matching) pages := by
  induction hleafed with
  | @last start page hrest hfits htotal hnext hnone =>
      exact
        { rooms := by simp [hrest]
          length := by
            rw [hrest, pageCount_of_le hlimit hfits]
            exact Nat.le_refl 1
          ends := ⟨[], page, rfl, hnext, fun _ hmem => nomatch hmem⟩
          each := by
            intro other hother
            obtain rfl := List.mem_singleton.mp hother
            exact ⟨htotal, hfits, by rw [hnone, hnext]; rfl⟩ }
  | @more start page pages front later last hrest hmore hfull hrooms htotal hnext hsome hpages ih =>
      have hfewer := following_sublist_later hordered honward (hrooms ▸ hrest)
      obtain ⟨before, final, hends, hfinal, hbefore⟩ := ih.ends
      exact
        { rooms := by
            rw [List.flatMap_cons, hrest]
            exact (ih.rooms.trans hfewer).append_left _
          length := by
            rw [hrest, pageCount_of_full hlimit hfull hmore, List.length_cons]
            exact Nat.succ_le_succ (Nat.le_trans ih.length (pageCount_mono hfewer.length_le))
          ends := by
            refine ⟨page :: before, final, by rw [hends, List.cons_append], hfinal, ?_⟩
            intro other hother
            rcases List.mem_cons.mp hother with rfl | hmem
            · exact hnext
            · exact hbefore other hmem
          each := by
            intro other hother
            rcases List.mem_cons.mp hother with rfl | hmem
            · exact ⟨htotal, Nat.le_of_eq hfull, by rw [hsome, hnext]; rfl⟩
            · exact ih.each other hmem }

/-- Where no page ends in the wrong place, the pages show all rooms and are as few as can be. -/
theorem Leafed.shows_all (hlimit : 0 < limit) (hkept : Kept pass sort limit matching)
    (hleafed : Leafed pass sort limit matching start pages)
    (hmatching : matching = shown ++ following sort start matching)
    (hshown : limit ∣ shown.length) :
    pages.flatMap (·.rooms) = following sort start matching ∧
      pages.length = pageCount limit (following sort start matching).length := by
  induction hleafed generalizing shown with
  | last hrest hfits htotal hnext hnone =>
      rw [List.flatMap_singleton, hrest, pageCount_of_le hlimit hfits, List.length_singleton]
      exact ⟨rfl, rfl⟩
  | @more start page pages front later last hrest hmore hfull hrooms htotal hnext hsome hpages ih =>
      have hsplit : matching = (shown ++ front) ++ last :: later :=
        hmatching.trans (by rw [hrest, hrooms]; simp)
      have hdvd := dvd_length_append hshown hfull
      have hlater : following sort (some (pass (.ofSnapshot last))) matching = later := by
        apply (following_later_iff hordered honward hsplit).mpr
        intro next hnext
        obtain ⟨rest, rfl⟩ := List.head?_eq_some_iff.mp hnext
        apply hkept (shown ++ front) last next rest hsplit
        rwa [hrooms, ← List.append_assoc, List.length_append, List.length_singleton] at hdvd
      have hmatching' : matching = (shown ++ page.rooms) ++
          following sort (some (pass (.ofSnapshot last))) matching := by
        rw [hlater, List.append_assoc, ← hrest]
        exact hmatching
      obtain ⟨hrooms', hlength⟩ := ih hmatching' hdvd
      rw [List.flatMap_cons, List.length_cons, hrooms', hlength, hlater, hrest,
        pageCount_of_full hlimit hfull hmore]
      exact ⟨rfl, rfl⟩

/-- Where the pages show all rooms, no page ends in the wrong place. -/
theorem Leafed.kept (hlimit : 0 < limit)
    (hleafed : Leafed pass sort limit matching start pages)
    (hall : pages.flatMap (·.rooms) = following sort start matching)
    (hmatching : matching = shown ++ following sort start matching)
    (hshown : limit ∣ shown.length) {before after : List Snapshot} {room next : Snapshot}
    (hboundary : matching = before ++ room :: next :: after)
    (hlength : shown.length ≤ before.length) (hdvd : limit ∣ before.length + 1) :
    (pass (.ofSnapshot room)).Before sort (.ofSnapshot next) := by
  have hpage : shown.length + limit ≤ before.length + 1 := by
    have hle := Nat.le_of_dvd (by omega) (Nat.dvd_sub hdvd hshown)
    omega
  induction hleafed generalizing shown with
  | last hrest hfits htotal hnext hnone =>
      have hlengths := congrArg List.length (hmatching.symm.trans hboundary)
      rw [hrest] at hlengths
      simp only [List.length_append, List.length_cons] at hlengths
      omega
  | @more start page pages front later last hrest hmore hfull hrooms htotal hnext hsome hpages ih =>
      have hsplit : matching = (shown ++ front) ++ last :: later :=
        hmatching.trans (by rw [hrest, hrooms]; simp)
      have hpages' : pages.flatMap (·.rooms) = later := by
        rw [List.flatMap_cons, hrest] at hall
        exact List.append_cancel_left hall
      have hlater : following sort (some (pass (.ofSnapshot last))) matching = later := by
        apply (following_sublist_later hordered honward (hrooms ▸ hrest)).eq_of_length_le
        rw [← hpages']
        exact (hpages.skimmed hordered honward hlimit).rooms.length_le
      have hfull' : front.length + 1 = limit := by
        rw [← hfull, hrooms, List.length_append, List.length_singleton]
      by_cases hhere : before.length = (shown ++ front).length
      · -- The boundary is the end of this page.
        obtain ⟨-, hends⟩ := List.append_inj (hboundary.symm.trans hsplit) hhere
        obtain ⟨rfl, hnext⟩ := List.cons.inj hends
        exact (following_later_iff hordered honward hsplit).mp hlater next (hnext ▸ rfl)
      · -- The boundary is the end of a later page.
        have hmatching' : matching = (shown ++ page.rooms) ++
            following sort (some (pass (.ofSnapshot last))) matching := by
          rw [hlater, List.append_assoc, ← hrest]
          exact hmatching
        have hshown' := dvd_length_append hshown hfull
        have hlength' : (shown ++ page.rooms).length ≤ before.length := by
          rw [List.length_append] at hhere ⊢
          omega
        apply ih (hpages'.trans hlater.symm) hmatching' hshown' hlength'
        have hle := Nat.le_of_dvd (by omega) (Nat.dvd_sub hdvd hshown')
        omega

/-- Leafing from the beginning shows all of a listing exactly if no page ends in the wrong place. -/
theorem Leafed.complete_iff (hlimit : 0 < limit)
    (hleafed : Leafed pass sort limit matching none pages) :
    Complete limit matching matching pages ↔ Kept pass sort limit matching := by
  have hmatching : matching = [] ++ following sort none matching := rfl
  constructor
  · intro hcomplete before room next after hboundary hdvd
    exact hleafed.kept hordered honward hlimit hcomplete.rooms hmatching (Nat.dvd_zero limit)
      hboundary (Nat.zero_le _) hdvd
  · intro hkept
    obtain ⟨hrooms, hlength⟩ :=
      hleafed.shows_all hordered honward hlimit hkept hmatching (Nat.dvd_zero limit)
    have hskimmed := hleafed.skimmed hordered honward hlimit
    exact ⟨hrooms, hlength, hskimmed.ends, hskimmed.each⟩

end Leafing

/-- Passed on as they are, cursors show all of a listing. -/
theorem complete_leaf_id {limit : Nat} (hlimit : 0 < limit) (hordered : Ordered query.sort matching)
    {calls : Nat} (hcalls : pageCount limit matching.length ≤ calls) :
    Complete limit matching matching (leaf id query limit matching calls none) := by
  have honward := Onward.id query.sort
  apply ((leafed_leaf hordered honward hlimit rfl hcalls).complete_iff hordered honward hlimit).mpr
  rintro before room next after rfl -
  obtain ⟨-, hrest, -⟩ := List.pairwise_append.mp hordered
  exact (List.pairwise_cons.mp hrest).1 next List.mem_cons_self

end WatchParty.Listing
