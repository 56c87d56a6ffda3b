/-
# Laws of rosters and of presence

Seniority is a strict order that decides between any two users, so a roster kept by the operations
is strictly ordered and names each user once. A presence built from such a roster has an owner
exactly when somebody is there, and the owner is one of those present. Joining and leaving keep all
of this, and restoring a roster that is in order already changes nothing.
-/

import Mathlib.Data.List.Nodup
import Mathlib.Data.List.Pairwise
import WatchParty.Presence

namespace WatchParty

namespace Participant

theorem Senior.trans {first second third : Participant} (hfirst : first.Senior second)
    (hsecond : second.Senior third) : first.Senior third := by
  rcases hfirst with h | ⟨h, huser⟩ <;> rcases hsecond with h' | ⟨h', huser'⟩
  · exact .inl (Int.lt_trans h h')
  · exact .inl (h' ▸ h)
  · exact .inl (h ▸ h')
  · exact .inr ⟨h.trans h', Int.lt_trans huser huser'⟩

theorem Senior.irrefl (participant : Participant) : ¬ participant.Senior participant := by
  rintro (h | ⟨-, h⟩) <;> exact Int.lt_irrefl _ h

/-- Of two participants of different users one is senior. -/
theorem senior_or_senior {first second : Participant} (hne : first.user ≠ second.user) :
    first.Senior second ∨ second.Senior first := by
  rcases Int.lt_trichotomy first.joinedAt second.joinedAt with h | h | h
  · exact .inl (.inl h)
  · rcases Int.lt_or_gt_of_ne hne with huser | huser
    · exact .inl (.inr ⟨h, huser⟩)
    · exact .inr (.inr ⟨h.symm, huser⟩)
  · exact .inr (.inl h)

end Participant

namespace Roster

/-- A roster as the operations keep it. -/
structure Sound (roster : Roster) : Prop where
  /-- Participants are in order of seniority. -/
  ordered : roster.Pairwise Participant.Senior
  /-- No user is there twice. -/
  distinct : roster.Pairwise fun first second => first.user ≠ second.user

variable {roster : Roster} {user other : UserId} {participant newcomer : Participant}

theorem has_iff : roster.has user = true ↔ ∃ participant ∈ roster, participant.user = user := by
  simp [has, find?, List.find?_isSome]

theorem has_of_mem (hmem : participant ∈ roster) : roster.has participant.user = true :=
  has_iff.mpr ⟨participant, hmem, rfl⟩

theorem successor_eq_none_iff : roster.successor = none ↔ roster = [] := by
  rw [successor, Option.map_eq_none_iff, List.head?_eq_none_iff]

theorem has_of_successor (hnext : roster.successor = some user) : roster.has user = true := by
  obtain ⟨participant, hhead, rfl⟩ := Option.map_eq_some_iff.mp hnext
  exact has_of_mem (List.mem_of_mem_head? hhead)

theorem mem_dismiss :
    participant ∈ roster.dismiss user ↔ participant ∈ roster ∧ participant.user ≠ user := by
  simp [dismiss]

/-- Dismissing a user who is not there changes nothing. -/
theorem dismiss_eq_self (habsent : roster.has user = false) : roster.dismiss user = roster := by
  apply List.filter_eq_self.mpr
  intro participant hmem
  apply decide_eq_true
  rintro rfl
  rw [has_of_mem hmem] at habsent
  cases habsent

/-- Dismissing the last user leaves nobody. -/
theorem dismiss_eq_nil_iff :
    roster.dismiss user = [] ↔ ∀ other, roster.has other = true → other = user := by
  simp only [List.eq_nil_iff_forall_not_mem, mem_dismiss, has_iff]
  constructor
  · rintro hnone other ⟨participant, hmem, rfl⟩
    by_contra hne
    exact hnone participant ⟨hmem, hne⟩
  · rintro hall participant ⟨hmem, hne⟩
    exact hne (hall _ ⟨participant, hmem, rfl⟩)

theorem has_dismiss :
    (roster.dismiss user).has other = true ↔ roster.has other = true ∧ other ≠ user := by
  simp only [has_iff, mem_dismiss]
  constructor
  · rintro ⟨participant, ⟨hmem, hne⟩, rfl⟩
    exact ⟨⟨participant, hmem, rfl⟩, hne⟩
  · rintro ⟨⟨participant, hmem, rfl⟩, hne⟩
    exact ⟨participant, ⟨hmem, hne⟩, rfl⟩

theorem mem_seat : participant ∈ seat newcomer roster ↔ participant = newcomer ∨
    participant ∈ roster := by
  induction roster with
  | nil => simp [seat]
  | cons head rest ih =>
      rw [seat]
      split
      · simp only [List.mem_cons, ih]
        exact or_left_comm
      · exact List.mem_cons

theorem mem_enrol : participant ∈ roster.enrol newcomer ↔ participant = newcomer ∨
    (participant ∈ roster ∧ participant.user ≠ newcomer.user) := by
  rw [enrol, mem_seat, mem_dismiss]

theorem has_enrol : (roster.enrol newcomer).has user = true ↔
    user = newcomer.user ∨ roster.has user = true := by
  simp only [has_iff, mem_enrol]
  constructor
  · rintro ⟨participant, rfl | ⟨hmem, -⟩, rfl⟩
    · exact .inl rfl
    · exact .inr ⟨participant, hmem, rfl⟩
  · rintro (rfl | ⟨participant, hmem, rfl⟩)
    · exact ⟨newcomer, .inl rfl, rfl⟩
    · by_cases heq : participant.user = newcomer.user
      · exact ⟨newcomer, .inl rfl, heq.symm⟩
      · exact ⟨participant, .inr ⟨hmem, heq⟩, rfl⟩

theorem enrol_ne_nil : roster.enrol newcomer ≠ [] :=
  List.ne_nil_of_mem (mem_enrol.mpr (.inl rfl))

/-- Seating somebody new keeps a roster in order. -/
theorem seat_ordered (hordered : roster.Pairwise Participant.Senior)
    (hnew : ∀ participant ∈ roster, participant.user ≠ newcomer.user) :
    (seat newcomer roster).Pairwise Participant.Senior := by
  induction roster with
  | nil => exact List.pairwise_singleton _ _
  | cons head rest ih =>
      obtain ⟨hhead, hrest⟩ := List.pairwise_cons.mp hordered
      rw [seat]
      split
      · rename_i hsenior
        constructor
        · intro participant hmem
          rcases mem_seat.mp hmem with rfl | hmem
          · exact hsenior
          · exact hhead participant hmem
        · exact ih hrest fun participant hmem => hnew participant (List.mem_cons_of_mem _ hmem)
      · rename_i hjunior
        have hsenior : newcomer.Senior head :=
          (Participant.senior_or_senior (hnew head List.mem_cons_self)).resolve_left hjunior
        apply List.Pairwise.cons _ hordered
        intro participant hmem
        rcases List.mem_cons.mp hmem with rfl | hmem
        · exact hsenior
        · exact hsenior.trans (hhead participant hmem)

/-- Seating somebody new keeps the users apart. -/
theorem seat_distinct
    (hdistinct : roster.Pairwise fun first second => first.user ≠ second.user)
    (hnew : ∀ participant ∈ roster, participant.user ≠ newcomer.user) :
    (seat newcomer roster).Pairwise fun first second => first.user ≠ second.user := by
  induction roster with
  | nil => exact List.pairwise_singleton _ _
  | cons head rest ih =>
      obtain ⟨hhead, hrest⟩ := List.pairwise_cons.mp hdistinct
      rw [seat]
      split
      · constructor
        · intro participant hmem
          rcases mem_seat.mp hmem with rfl | hmem
          · exact hnew head List.mem_cons_self
          · exact hhead participant hmem
        · exact ih hrest fun participant hmem => hnew participant (List.mem_cons_of_mem _ hmem)
      · apply List.Pairwise.cons _ hdistinct
        intro participant hmem
        exact (hnew participant hmem).symm

/-- A participant who is junior to all is seated last. -/
theorem seat_eq_append (hsenior : ∀ participant ∈ roster, participant.Senior newcomer) :
    seat newcomer roster = roster ++ [newcomer] := by
  induction roster with
  | nil => rfl
  | cons head rest ih =>
      rw [seat, if_pos (hsenior head List.mem_cons_self), List.cons_append,
        ih fun participant hmem => hsenior participant (List.mem_cons_of_mem _ hmem)]

namespace Sound

theorem dismiss (hsound : roster.Sound) (user : UserId) : (roster.dismiss user).Sound :=
  ⟨hsound.ordered.filter _, hsound.distinct.filter _⟩

theorem enrol (hsound : roster.Sound) (newcomer : Participant) : (roster.enrol newcomer).Sound := by
  have hnew : ∀ participant ∈ roster.dismiss newcomer.user,
      participant.user ≠ newcomer.user := fun participant hmem => (mem_dismiss.mp hmem).2
  have hrest := hsound.dismiss newcomer.user
  exact ⟨seat_ordered hrest.ordered hnew, seat_distinct hrest.distinct hnew⟩

/-- A user is on a sound roster once. -/
theorem eq_of_user_eq {first second : Participant} (hsound : roster.Sound)
    (hfirst : first ∈ roster) (hsecond : second ∈ roster) (huser : first.user = second.user) :
    first = second :=
  List.inj_on_of_nodup_map (List.pairwise_map.mpr hsound.distinct) hfirst hsecond huser

/-- Whoever comes first on a sound roster is senior to everybody else on it. -/
theorem senior_of_head? (hsound : roster.Sound) (hhead : roster.head? = some participant) :
    participant ∈ roster ∧ ∀ other ∈ roster, other ≠ participant → participant.Senior other := by
  obtain ⟨rest, rfl⟩ := List.head?_eq_some_iff.mp hhead
  refine ⟨List.mem_cons_self, fun other hother hne => ?_⟩
  exact List.rel_of_pairwise_cons hsound.ordered ((List.mem_cons.mp hother).resolve_left hne)

/-- Enrolling the participants of a sound roster one by one gives the roster back. -/
theorem foldl_enrol {done rest : Roster} (hsound : Sound (done ++ rest)) :
    rest.foldl Roster.enrol done = done ++ rest := by
  induction rest generalizing done with
  | nil => exact (List.append_nil done).symm
  | cons head rest ih =>
      have hordered := (List.pairwise_append.mp hsound.ordered).2.2
      have hdistinct := (List.pairwise_append.mp hsound.distinct).2.2
      have habsent : done.has head.user = false := by
        apply Bool.eq_false_iff.mpr
        intro h
        obtain ⟨participant, hmem, heq⟩ := has_iff.mp h
        exact hdistinct participant hmem head List.mem_cons_self heq
      have hlast : done.enrol head = done ++ [head] := by
        rw [Roster.enrol, dismiss_eq_self habsent]
        apply seat_eq_append
        intro participant hmem
        exact hordered participant hmem head List.mem_cons_self
      rw [List.foldl_cons, hlast, ih (by simpa using hsound), List.append_assoc]
      rfl

/-- Reading a sound roster back changes nothing. -/
theorem ofList_eq_self (hsound : roster.Sound) : Roster.ofList roster = roster := by
  have hnil : Sound ([] ++ roster) := hsound
  exact foldl_enrol hnil

end Sound

end Roster

namespace Presence

/-- A presence as the operations keep it. -/
structure Sound (presence : Presence) : Prop where
  roster : presence.roster.Sound
  /-- Where somebody is present, somebody owns the room. -/
  vacant : presence.owner = none → presence.roster = []
  /-- The owner is present. -/
  owner_present : ∀ user, presence.owner = some user → presence.contains user = true

variable {presence : Presence} {user other : UserId} {now : Instant}

theorem join_of_contains (hpresent : presence.contains user = true) :
    presence.join user now =
      ({ alreadyMember := true, isNewOwner := false, participants := presence.roster },
        presence) := by
  rw [join, if_pos hpresent]

theorem join_of_not_contains (habsent : presence.contains user = false) :
    presence.join user now =
      ({ alreadyMember := false, isNewOwner := presence.roster.isEmpty
         participants := presence.roster.enrol { user, joinedAt := now } },
        { roster := presence.roster.enrol { user, joinedAt := now }
          owner := if presence.roster.isEmpty then some user else presence.owner }) := by
  rw [join, if_neg (by simp [habsent])]

/-- Whoever joins is present afterwards, and so is everybody who was there before. -/
theorem contains_join :
    (presence.join user now).2.contains other = true ↔
      other = user ∨ presence.contains other = true := by
  by_cases hpresent : presence.contains user = true
  · rw [join_of_contains hpresent]
    exact ⟨.inr, fun h => h.elim (fun heq => heq ▸ hpresent) id⟩
  · rw [join_of_not_contains (Bool.eq_false_iff.mpr hpresent)]
    exact Roster.has_enrol

theorem Sound.join (hsound : presence.Sound) (user : UserId) (now : Instant) :
    (presence.join user now).2.Sound := by
  by_cases hpresent : presence.contains user = true
  · rw [join_of_contains hpresent]
    exact hsound
  · have habsent := Bool.eq_false_iff.mpr hpresent
    constructor
    · rw [join_of_not_contains habsent]
      exact hsound.roster.enrol _
    · intro hvacant
      rw [join_of_not_contains habsent] at hvacant
      by_cases hempty : presence.roster.isEmpty = true
      · simp [hempty] at hvacant
      · simp only [hempty] at hvacant
        exact absurd (hsound.vacant hvacant) (by simpa using hempty)
    · intro owner howner
      rw [contains_join]
      rw [join_of_not_contains habsent] at howner
      by_cases hempty : presence.roster.isEmpty = true
      · simp only [hempty, if_true, Option.some.injEq] at howner
        exact .inl howner.symm
      · simp only [hempty] at howner
        exact .inr (hsound.owner_present owner howner)

/-- Joining where somebody is present already leaves the owner. -/
theorem Sound.join_owner (hsound : presence.Sound) {owner : UserId}
    (howner : presence.owner = some owner) : (presence.join user now).2.owner = some owner := by
  by_cases hpresent : presence.contains user = true
  · rw [join_of_contains hpresent, howner]
  · obtain ⟨participant, hmem, -⟩ := Roster.has_iff.mp (hsound.owner_present owner howner)
    have hfull : presence.roster.isEmpty = false := by
      simpa using List.ne_nil_of_mem hmem
    rw [join_of_not_contains (Bool.eq_false_iff.mpr hpresent), hfull, howner]
    rfl

theorem leave_of_not_contains (habsent : presence.contains user = false) :
    presence.leave user = (.notMember, presence) := by
  rw [leave, if_neg (by simp [habsent])]

/-- The last participant leaves nobody. -/
theorem leave_of_last (hpresent : presence.contains user = true)
    (hlast : presence.roster.dismiss user = []) : presence.leave user = (.emptied, empty) := by
  rw [leave, if_pos hpresent, hlast]
  rfl

/-- The most senior of the others, if the one who leaves is the owner. -/
def heir (presence : Presence) (user : UserId) : Option UserId :=
  if presence.owner = some user then (presence.roster.dismiss user).successor else none

/-- Whoever is not the last one leaves the others, who own the room between them. -/
theorem leave_of_others (hpresent : presence.contains user = true)
    (hothers : presence.roster.dismiss user ≠ []) :
    presence.leave user =
      (.left (presence.roster.dismiss user) (presence.heir user),
        { roster := presence.roster.dismiss user
          owner := (presence.heir user).or presence.owner }) := by
  have hfull : (presence.roster.dismiss user).isEmpty = false := by simpa using hothers
  rw [leave, if_pos hpresent, heir]
  simp only [hfull, Bool.false_eq_true, if_false]
  split
  · obtain ⟨head, rest, hroster⟩ := List.exists_cons_of_ne_nil hothers
    rw [hroster]
    rfl
  · rfl

theorem leave_roster : (presence.leave user).2.roster = presence.roster.dismiss user := by
  by_cases hpresent : presence.contains user = true
  · by_cases hlast : presence.roster.dismiss user = []
    · rw [leave_of_last hpresent hlast, hlast]
      rfl
    · rw [leave_of_others hpresent hlast]
  · have habsent := Bool.eq_false_iff.mpr hpresent
    rw [leave_of_not_contains habsent, Roster.dismiss_eq_self habsent]

theorem contains_leave :
    (presence.leave user).2.contains other = true ↔
      presence.contains other = true ∧ other ≠ user := by
  rw [contains, leave_roster]
  exact Roster.has_dismiss

/-- The owner after somebody has left: the most senior one left if it was the owner who left, and
otherwise the same. -/
theorem Sound.leave_owner (hsound : presence.Sound) :
    (presence.leave user).2.owner =
      if presence.owner = some user then
        (presence.roster.dismiss user).successor else presence.owner := by
  by_cases hpresent : presence.contains user = true
  · by_cases hlast : presence.roster.dismiss user = []
    · rw [leave_of_last hpresent hlast, hlast]
      split
      · rfl
      · rename_i hother
        cases howner : presence.owner with
        | none => rfl
        | some owner =>
            have hstays : (presence.roster.dismiss user).has owner = true :=
              Roster.has_dismiss.mpr
                ⟨hsound.owner_present owner howner, fun h => hother (h ▸ howner)⟩
            rw [hlast] at hstays
            cases hstays
    · obtain ⟨head, rest, hroster⟩ := List.exists_cons_of_ne_nil hlast
      rw [leave_of_others hpresent hlast, heir, hroster]
      split <;> rfl
  · rw [leave_of_not_contains (Bool.eq_false_iff.mpr hpresent), if_neg]
    exact fun howner => hpresent (hsound.owner_present user howner)

theorem Sound.leave (hsound : presence.Sound) (user : UserId) : (presence.leave user).2.Sound := by
  constructor
  · rw [leave_roster]
    exact hsound.roster.dismiss user
  · intro hvacant
    rw [hsound.leave_owner] at hvacant
    rw [leave_roster]
    split at hvacant
    · exact Roster.successor_eq_none_iff.mp hvacant
    · rw [hsound.vacant hvacant]
      rfl
  · intro owner howner
    rw [hsound.leave_owner] at howner
    rw [contains_leave]
    split at howner
    · exact Roster.has_dismiss.mp (Roster.has_of_successor howner)
    · rename_i hother
      exact ⟨hsound.owner_present owner howner, fun h => hother (h ▸ howner)⟩

/-- Restoring a sound presence gives it back. -/
theorem Sound.restore_eq_self (hsound : presence.Sound) {owner : UserId}
    (howner : presence.owner = some owner) : restore presence.roster owner = presence := by
  have hpresent : presence.roster.has owner = true := hsound.owner_present owner howner
  rw [restore, hsound.roster.ofList_eq_self]
  simp only [hpresent, if_true, ← howner]

end Presence

end WatchParty
