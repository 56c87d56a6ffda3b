/-
# Succession

When several users leave one after the other, ownership may pass through hands that leave later on.
This module shows that such detours leave no trace: who owns the room in the end is settled by who
stays, and not by the order in which the others went. Either the owner stays, or the most senior of
those who stay has taken over. It is also counted how often somebody is told to have been the last.
-/

import WatchParty.Proofs.Presence

namespace WatchParty

namespace Roster

variable {roster : Roster} {user : UserId} {users order : List UserId}

/-- The roster without some users. -/
def without (roster : Roster) (users : List UserId) : Roster :=
  List.filter (fun participant => participant.user ∉ users) roster

@[simp]
theorem without_nil : roster.without [] = roster := by simp [without]

/-- Users can be taken out one by one. -/
theorem without_cons : roster.without (user :: users) = (roster.dismiss user).without users := by
  rw [without, without, dismiss, List.filter_filter]
  apply List.filter_congr
  intro participant _
  simp [Bool.and_comm]

theorem without_perm (hperm : order.Perm users) : roster.without order = roster.without users := by
  rw [without, without]
  simp only [hperm.mem_iff]

/-- Whoever comes first and stays comes first among those who stay. -/
theorem head?_without {participant : Participant} (hhead : roster.head? = some participant)
    (hstays : participant.user ∉ users) : (roster.without users).head? = some participant := by
  obtain ⟨rest, rfl⟩ := List.head?_eq_some_iff.mp hhead
  rw [without, List.filter_cons_of_pos (by simpa using hstays)]
  rfl

end Roster

namespace Presence

variable {presence : Presence} {user : UserId} {users order : List UserId}

/-- Let some users out, one after the other. The answers come in the order of leaving. -/
def leaveEach (presence : Presence) : List UserId → List LeaveOutcome × Presence
  | [] => ([], presence)
  | user :: rest =>
    let (outcome, next) := presence.leave user
    let (outcomes, last) := next.leaveEach rest
    (outcome :: outcomes, last)

theorem leaveEach_cons : presence.leaveEach (user :: users) =
    ((presence.leave user).1 :: ((presence.leave user).2.leaveEach users).1,
      ((presence.leave user).2.leaveEach users).2) := rfl

theorem leaveEach_roster :
    (presence.leaveEach users).2.roster = presence.roster.without users := by
  induction users generalizing presence with
  | nil => exact Roster.without_nil.symm
  | cons user rest ih => rw [leaveEach_cons, ih, leave_roster, Roster.without_cons]

/-- Somebody is told to have been the last one exactly once if there was somebody and nobody stays,
and never otherwise. -/
theorem count_emptied (presence : Presence) (users : List UserId) :
    (presence.leaveEach users).1.count .emptied =
      if presence.roster ≠ [] ∧ presence.roster.without users = [] then 1 else 0 := by
  induction users generalizing presence with
  | nil => simp [leaveEach]
  | cons user rest ih =>
      rw [leaveEach_cons, List.count_cons, ih, leave_roster, ← Roster.without_cons]
      by_cases hpresent : presence.contains user = true
      · have hfull : presence.roster ≠ [] := by
          obtain ⟨participant, hmem, -⟩ := Roster.has_iff.mp hpresent
          exact List.ne_nil_of_mem hmem
        by_cases hlast : presence.roster.dismiss user = []
        · have hnobody : presence.roster.without (user :: rest) = [] := by
            rw [Roster.without_cons, hlast]
            rfl
          simp [leave_of_last hpresent hlast, hlast, hfull, hnobody]
        · simp [leave_of_others hpresent hlast, hlast, hfull]
      · have habsent := Bool.eq_false_iff.mpr hpresent
        rw [leave_of_not_contains habsent, Roster.dismiss_eq_self habsent]
        simp

namespace Sound

variable (hsound : presence.Sound)

include hsound

theorem leaveEach (users : List UserId) : (presence.leaveEach users).2.Sound := by
  induction users generalizing presence with
  | nil => exact hsound
  | cons user rest ih => exact ih (hsound.leave user)

/-- In the end the owner is who owned the room and stays, or else the most senior of those who
stay. -/
theorem leaveEach_owner (users : List UserId) :
    (presence.leaveEach users).2.owner =
      (presence.owner.filter (· ∉ users)).or (presence.roster.without users).successor := by
  induction users generalizing presence with
  | nil =>
      cases howner : presence.owner with
      | none => simp [Presence.leaveEach, hsound.vacant howner, howner, Roster.successor]
      | some owner => simp [Presence.leaveEach, howner, Option.filter_some]
  | cons user rest ih =>
      rw [leaveEach_cons, ih (hsound.leave user), hsound.leave_owner, leave_roster,
        ← Roster.without_cons]
      by_cases howner : presence.owner = some user
      · -- The heir may leave as well; one who stays is also the first of all who stay.
        have hleft : (some user).filter (· ∉ user :: rest) = none := by simp [Option.filter_some]
        rw [if_pos howner, howner, hleft, Option.none_or, Roster.successor, Roster.successor]
        cases hheir : (presence.roster.dismiss user).head? with
        | none => rfl
        | some heir =>
            rw [Option.map_some, Option.filter_some]
            by_cases hstays : heir.user ∈ rest
            · simp [hstays]
            · have hfirst := Roster.head?_without hheir hstays
              rw [← Roster.without_cons] at hfirst
              simp [hstays, hfirst]
      · rw [if_neg howner]
        congr 1
        cases hkept : presence.owner with
        | none => rfl
        | some owner =>
            have hother : owner ≠ user := fun heq => howner (hkept.trans (congrArg some heq))
            simp [Option.filter_some, hother]

/-- It does not matter in which order users leave. Those who are not named stay as they were; the
owner stays the owner, or is followed by the most senior of those who stay. -/
theorem leave_in_any_order (users : List UserId) :
    let after := (presence.leaveEach users).2
    let staying := presence.roster.filter fun participant => participant.user ∉ users
    (∀ order : List UserId, order.Perm users → (presence.leaveEach order).2 = after) ∧
    after.roster = staying ∧
    (∀ owner, presence.owner = some owner → owner ∉ users → after.owner = some owner) ∧
    ((∀ owner, presence.owner = some owner → owner ∈ users) → staying ≠ [] →
      ∃ heir ∈ staying, after.owner = some heir.user ∧
        ∀ other ∈ staying, other ≠ heir → heir.Senior other) ∧
    (staying = [] → after.owner = none) ∧
    (presence.leaveEach users).1.count .emptied =
      if presence.roster ≠ [] ∧ staying = [] then 1 else 0 := by
  intro after staying
  have hafter : after.Sound := hsound.leaveEach users
  have hroster : after.roster = staying := leaveEach_roster
  have howner : after.owner = _ := hsound.leaveEach_owner users
  refine ⟨fun order hperm => ?_, hroster, fun owner hold hstays => ?_, fun hgone hothers => ?_,
    fun hnobody => ?_, count_emptied presence users⟩
  · have hroster' : (presence.leaveEach order).2.roster = after.roster := by
      rw [leaveEach_roster, leaveEach_roster, Roster.without_perm hperm]
    have howner' : (presence.leaveEach order).2.owner = after.owner := by
      rw [howner, hsound.leaveEach_owner order, Roster.without_perm hperm]
      simp only [hperm.mem_iff]
    exact congrArg₂ Presence.mk hroster' howner'
  · rw [howner, hold]
    simp [Option.filter_some, hstays]
  · have hnone : presence.owner.filter (· ∉ users) = none := by
      simpa [Option.filter_eq_none_iff] using hgone
    obtain ⟨heir, rest, hheir⟩ := List.exists_cons_of_ne_nil hothers
    have hfirst : staying.head? = some heir := by rw [hheir, List.head?_cons]
    have hsenior := (hroster ▸ hafter.roster : Roster.Sound staying).senior_of_head? hfirst
    refine ⟨heir, hsenior.1, ?_, hsenior.2⟩
    rw [howner, hnone, Option.none_or]
    exact congrArg (Option.map (·.user)) hfirst
  · cases hlast : after.owner with
    | none => rfl
    | some owner =>
        have hpresent := hafter.owner_present owner hlast
        rw [contains, hroster, hnobody] at hpresent
        cases hpresent

end Sound

/-- The owner goes and so does the first heir, so that a third one owns the room in the end. -/
theorem four_leave_in_any_order :
    let presence : Presence :=
      { roster := [⟨1, 0⟩, ⟨3, 2⟩, ⟨7, 2⟩, ⟨2, 5⟩], owner := some 1 }
    let after : Presence := { roster := [⟨7, 2⟩, ⟨2, 5⟩], owner := some 7 }
    presence.Sound ∧ (presence.leaveEach [1, 3, 9, 1]).2 = after ∧
      (presence.leaveEach [3, 1, 1, 9]).2 = after := by
  intro presence after
  have hsound : presence.Sound := ⟨⟨by decide, by decide⟩, by decide, by rintro user ⟨⟩; rfl⟩
  obtain ⟨hany, -⟩ := hsound.leave_in_any_order [1, 3, 9, 1]
  exact ⟨hsound, rfl, (hany [3, 1, 1, 9] (by decide)).trans rfl⟩

end Presence

end WatchParty
