/-
# Presence along histories

A presence starts with nobody, or with stored participants of whatever kind: in any order, with
users that occur twice, with an owner who is not among them. Then users join and leave. Every
presence that comes about so is sound, and from that its laws are read off: who owns the room, how
the participants are listed, and what joining and leaving report and what they leave alone.

Restoring is looked at by itself as well. Of several participants of one user the last one counts,
and the order in which participants were stored does not matter otherwise.
-/

import WatchParty.Proofs.Presence

namespace WatchParty

namespace Roster

variable {roster : Roster} {user other : UserId} {participant newcomer : Participant}

theorem user_of_find? (hfind : roster.find? user = some participant) : participant.user = user := by
  simpa using List.find?_some hfind

theorem find?_dismiss (hne : other ≠ user) :
    (roster.dismiss user).find? other = roster.find? other := by
  rw [dismiss, find?, List.find?_filter, find?]
  congr 1
  funext participant
  by_cases hother : participant.user = other
  · simp [hother, hne]
  · simp [hother]

/-- Seating somebody new hides nobody. -/
theorem find?_seat (hnew : ∀ participant ∈ roster, participant.user ≠ newcomer.user) :
    (seat newcomer roster).find? user =
      if newcomer.user = user then some newcomer else roster.find? user := by
  induction roster with
  | nil => by_cases huser : newcomer.user = user <;> simp [seat, find?, huser]
  | cons head rest ih =>
      have hrest := ih fun participant hmem => hnew participant (List.mem_cons_of_mem _ hmem)
      have hhead := hnew head List.mem_cons_self
      unfold find? at hrest ⊢
      rw [seat]
      split
      · rw [List.find?_cons, hrest, List.find?_cons]
        by_cases hfound : head.user = user
        · simp [hfound, hfound ▸ hhead.symm]
        · simp [hfound]
      · rw [List.find?_cons]
        split <;> simp_all

/-- After enrolling somebody the roster has the newcomer, and everybody else as before. -/
theorem find?_enrol (roster : Roster) (newcomer : Participant) (user : UserId) :
    (roster.enrol newcomer).find? user =
      if newcomer.user = user then some newcomer else roster.find? user := by
  rw [enrol, find?_seat fun participant hmem => (mem_dismiss.mp hmem).2]
  split
  · rfl
  · rename_i hother
    exact find?_dismiss (Ne.symm hother)

theorem find?_foldl_enrol (participants : List Participant) (done : Roster) (user : UserId) :
    (participants.foldl enrol done).find? user =
      (participants.reverse.find? (·.user = user)).or (done.find? user) := by
  induction participants generalizing done with
  | nil => simp
  | cons head rest ih =>
      rw [List.foldl_cons, ih, find?_enrol, List.reverse_cons, List.find?_append, Option.or_assoc]
      congr 1
      by_cases hhead : head.user = user
      · simp [hhead]
      · simp [hhead]

/-- Of several participants of one user the last one is found. -/
theorem find?_ofList (participants : List Participant) (user : UserId) :
    (ofList participants).find? user = find? participants.reverse user := by
  rw [ofList, find?_foldl_enrol]
  exact Option.or_none

/-- Where no user is there twice, every participant is found. -/
theorem find?_eq_some_iff (hnodup : (roster.map (·.user)).Nodup) :
    roster.find? user = some participant ↔ participant ∈ roster ∧ participant.user = user := by
  constructor
  · exact fun hfind => ⟨List.mem_of_find?_eq_some hfind, user_of_find? hfind⟩
  · rintro ⟨hmem, rfl⟩
    obtain ⟨found, hfound⟩ := Option.isSome_iff_exists.mp (has_of_mem hmem)
    have hsame := List.inj_on_of_nodup_map hnodup (List.mem_of_find?_eq_some hfound) hmem
      (user_of_find? hfound)
    rw [hfound, hsame]

namespace Sound

theorem nodup_users (hsound : roster.Sound) : (roster.map (·.user)).Nodup :=
  List.pairwise_map.mpr hsound.distinct

/-- A sound roster is determined by its lookups. -/
theorem eq_of_find?_eq {first second : Roster} (hfirst : first.Sound) (hsecond : second.Sound)
    (hfind : ∀ user, first.find? user = second.find? user) : first = second := by
  have hmem : ∀ participant, participant ∈ first ↔ participant ∈ second := by
    intro participant
    have hsame : participant ∈ first ∧ participant.user = participant.user ↔
        participant ∈ second ∧ participant.user = participant.user := by
      rw [← find?_eq_some_iff hfirst.nodup_users, hfind, find?_eq_some_iff hsecond.nodup_users]
    simpa using hsame
  have hperm : first.Perm second :=
    (List.perm_ext_iff_of_nodup hfirst.nodup_users.of_map hsecond.nodup_users.of_map).mpr hmem
  refine hperm.eq_of_pairwise (fun _ _ _ _ h h' => ?_) hfirst.ordered hsecond.ordered
  exact absurd (h.trans h') (Participant.Senior.irrefl _)

theorem ofList (participants : List Participant) : (Roster.ofList participants).Sound := by
  have hall : ∀ done : Roster, done.Sound → (participants.foldl Roster.enrol done).Sound := by
    induction participants with
    | nil => exact fun _ hdone => hdone
    | cons head rest ih => exact fun done hdone => ih _ (hdone.enrol head)
  exact hall [] ⟨.nil, .nil⟩

end Sound

/-- The order of participants of different users does not matter. -/
theorem ofList_perm {participants other : List Participant} (hperm : participants.Perm other)
    (hnodup : (participants.map (·.user)).Nodup) : ofList participants = ofList other := by
  have hreverse : ∀ {list : List Participant}, (list.map (·.user)).Nodup →
      (list.reverse.map (·.user)).Nodup := fun h => by rwa [List.map_reverse, List.nodup_reverse]
  have hnodup' : (other.map (·.user)).Nodup := (hperm.map _).nodup_iff.mp hnodup
  apply (Sound.ofList participants).eq_of_find?_eq (.ofList other)
  intro user
  apply Option.ext
  intro participant
  rw [find?_ofList, find?_ofList, find?_eq_some_iff (hreverse hnodup),
    find?_eq_some_iff (hreverse hnodup'), List.mem_reverse, List.mem_reverse, hperm.mem_iff]

end Roster

namespace Presence

variable {presence : Presence} {user other : UserId} {now : Instant}

theorem find?_join (hne : other ≠ user) :
    (presence.join user now).2.roster.find? other = presence.roster.find? other := by
  by_cases hpresent : presence.contains user = true
  · rw [join_of_contains hpresent]
  · rw [join_of_not_contains (Bool.eq_false_iff.mpr hpresent)]
    exact (Roster.find?_enrol _ _ _).trans (if_neg (Ne.symm hne))

theorem find?_leave (hne : other ≠ user) :
    (presence.leave user).2.roster.find? other = presence.roster.find? other := by
  rw [leave_roster, Roster.find?_dismiss hne]

theorem join_participants :
    (presence.join user now).1.participants = (presence.join user now).2.roster := by
  rw [join]
  split <;> rfl

/-- Whoever finds nobody is told to own the room. -/
theorem isNewOwner_join : (presence.join user now).1.isNewOwner = presence.roster.isEmpty := by
  by_cases hpresent : presence.contains user = true
  · obtain ⟨participant, hmem, -⟩ := Roster.has_iff.mp hpresent
    rw [join_of_contains hpresent]
    exact (List.isEmpty_eq_false_iff.mpr (List.ne_nil_of_mem hmem)).symm
  · rw [join_of_not_contains (Bool.eq_false_iff.mpr hpresent)]

/-- Somebody leaves others behind exactly if somebody else is there. -/
theorem exists_left_iff :
    (∃ remaining newOwner, (presence.leave user).1 = .left remaining newOwner) ↔
      presence.contains user = true ∧ presence.roster.dismiss user ≠ [] := by
  by_cases hpresent : presence.contains user = true
  · by_cases hlast : presence.roster.dismiss user = []
    · simp [leave_of_last hpresent hlast, hlast]
    · simp [leave_of_others hpresent hlast, hpresent, hlast]
  · simp [leave_of_not_contains (Bool.eq_false_iff.mpr hpresent), hpresent]

theorem dismiss_ne_nil_iff : presence.roster.dismiss user ≠ [] ↔
    ∃ other, other ≠ user ∧ presence.contains other = true := by
  simp only [Ne, Roster.dismiss_eq_nil_iff, not_forall, exists_prop, contains, and_comm]

/-- Those left behind are told of, together with the next owner if it was the owner who left. -/
theorem of_left {remaining : Roster} {newOwner : Option UserId}
    (hleft : (presence.leave user).1 = .left remaining newOwner) :
    remaining = (presence.leave user).2.roster ∧
      newOwner = if presence.owner = some user then (presence.leave user).2.owner else none := by
  obtain ⟨hpresent, hothers⟩ := exists_left_iff.mp ⟨_, _, hleft⟩
  rw [leave_of_others hpresent hothers] at hleft ⊢
  obtain ⟨rfl, rfl⟩ := LeaveOutcome.left.inj hleft
  obtain ⟨first, rest, hroster⟩ := List.exists_cons_of_ne_nil hothers
  refine ⟨rfl, ?_⟩
  rw [heir, hroster]
  split <;> rfl

theorem Sound.restore (participants : List Participant) (owner : UserId) :
    (Presence.restore participants owner).Sound := by
  refine ⟨.ofList participants, fun hvacant => ?_, fun user huser => ?_⟩
  · rw [Presence.restore] at hvacant ⊢
    dsimp only at hvacant
    split at hvacant
    · cases hvacant
    · exact Roster.successor_eq_none_iff.mp hvacant
  · rw [Presence.restore] at huser ⊢
    dsimp only at huser
    split at huser
    · rename_i hpresent
      cases huser
      exact hpresent
    · exact Roster.has_of_successor huser

/-- A presence that comes about by joining and leaving, from nobody or from what was stored. -/
inductive Arises : Presence → Prop
  | empty : Arises .empty
  | restore (participants : List Participant) (owner : UserId) :
      Arises (.restore participants owner)
  | join {presence : Presence} (harises : Arises presence) (user : UserId) (now : Instant) :
      Arises (presence.join user now).2
  | leave {presence : Presence} (harises : Arises presence) (user : UserId) :
      Arises (presence.leave user).2

theorem Arises.sound (harises : presence.Arises) : presence.Sound := by
  induction harises with
  | empty => exact ⟨⟨.nil, .nil⟩, fun _ => rfl, fun _ howner => nomatch howner⟩
  | restore participants owner => exact .restore participants owner
  | join _ user now ih => exact ih.join user now
  | leave _ user ih => exact ih.leave user

/-- The laws of a presence. -/
structure Lawful (presence : Presence) : Prop where
  /-- Nobody owns the room exactly if nobody is there. -/
  vacant_iff : presence.owner = none ↔ presence.roster = []
  owner_present : ∀ owner, presence.owner = some owner → presence.contains owner = true
  /-- What is kept for a user is that user's participant. -/
  found : ∀ user participant,
    presence.roster.find? user = some participant → participant.user = user
  /-- Participants are listed in order of joining, and then of users. -/
  ordered : presence.roster.Pairwise fun first second =>
    first.joinedAt < second.joinedAt ∨
      (first.joinedAt = second.joinedAt ∧ first.user < second.user)
  /-- Everybody who is there is listed once, and nobody else. -/
  once : ∀ user, (presence.roster.map (·.user)).count user =
    if presence.contains user = true then 1 else 0
  headCount : presence.headCount = presence.roster.length
  /-- Whoever joins is told to own the room exactly if nobody was there. -/
  join_new_owner : ∀ user now,
    (presence.join user now).1.isNewOwner = true ↔ presence.roster = []
  join_participants : ∀ user now,
    (presence.join user now).1.participants = (presence.join user now).2.roster
  join_others : ∀ user now other, other ≠ user →
    (presence.join user now).2.roster.find? other = presence.roster.find? other
  /-- A new owner is told of exactly if it was the owner who left and others remain. -/
  leave_new_owner : ∀ user,
    (∃ remaining heir, (presence.leave user).1 = .left remaining (some heir)) ↔
      presence.owner = some user ∧ ∃ other, other ≠ user ∧ presence.contains other = true
  leave_participants : ∀ user remaining newOwner,
    (presence.leave user).1 = .left remaining newOwner →
      remaining = (presence.leave user).2.roster ∧
      ∀ heir, newOwner = some heir → (presence.leave user).2.owner = some heir
  leave_others : ∀ user other, other ≠ user →
    (presence.leave user).2.roster.find? other = presence.roster.find? other
  /-- Storing and restoring change nothing where somebody is there. -/
  restored : presence.roster ≠ [] → ∃ owner, presence.owner = some owner ∧
    .restore presence.roster owner = presence

namespace Sound

variable (hsound : presence.Sound)

include hsound

theorem vacant_iff : presence.owner = none ↔ presence.roster = [] := by
  refine ⟨hsound.vacant, fun hempty => Option.eq_none_iff_forall_ne_some.mpr fun owner howner => ?_⟩
  have hpresent := hsound.owner_present owner howner
  rw [contains, hempty] at hpresent
  cases hpresent

theorem lawful : presence.Lawful where
  vacant_iff := hsound.vacant_iff
  owner_present := hsound.owner_present
  found := fun _ _ => Roster.user_of_find?
  ordered := hsound.roster.ordered
  once := fun user => by
    rw [hsound.roster.nodup_users.count]
    simp only [contains, Roster.has_iff, List.mem_map]
  headCount := rfl
  join_new_owner := fun user now => by rw [isNewOwner_join, List.isEmpty_iff]
  join_participants := fun _ _ => Presence.join_participants
  join_others := fun _ _ _ => find?_join
  leave_new_owner := fun user => by
    rw [← dismiss_ne_nil_iff]
    constructor
    · rintro ⟨remaining, heir, hleft⟩
      obtain ⟨-, hheir⟩ := of_left hleft
      refine ⟨?_, (exists_left_iff.mp ⟨_, _, hleft⟩).2⟩
      by_contra hother
      rw [if_neg hother] at hheir
      cases hheir
    · rintro ⟨howner, hothers⟩
      obtain ⟨first, rest, hroster⟩ := List.exists_cons_of_ne_nil hothers
      rw [leave_of_others (hsound.owner_present user howner) hothers, heir, if_pos howner, hroster]
      exact ⟨_, _, rfl⟩
  leave_participants := fun user remaining newOwner hleft => by
    obtain ⟨hremaining, rfl⟩ := of_left hleft
    refine ⟨hremaining, fun heir hheir => ?_⟩
    split at hheir
    · exact hheir
    · cases hheir
  leave_others := fun _ _ => find?_leave
  restored := fun hothers => by
    obtain ⟨owner, howner⟩ := Option.ne_none_iff_exists'.mp (mt hsound.vacant hothers)
    exact ⟨owner, howner, hsound.restore_eq_self howner⟩

end Sound

/-- Every presence that comes about by joining and leaving is lawful. Of several stored participants
of one user the last one is restored, and the order in which different users were stored does not
matter. -/
theorem Arises.laws (harises : presence.Arises) :
    presence.Lawful ∧
    (∀ participants owner user, (Presence.restore participants owner).roster.find? user =
      participants.reverse.find? fun participant => participant.user = user) ∧
    (∀ (participants other : List Participant) owner, participants.Perm other →
      (participants.map (·.user)).Nodup →
        Presence.restore participants owner = Presence.restore other owner) := by
  refine ⟨harises.sound.lawful, fun participants _ user => ?_, ?_⟩
  · exact Roster.find?_ofList participants user
  · intro participants other owner hperm hnodup
    rw [Presence.restore, Presence.restore, Roster.ofList_perm hperm hnodup]

/-- A user is stored twice and the owner is not stored. Somebody joins at an earlier time, and then
the one who owns the room leaves. -/
theorem restored_laws :
    let presence := ((Presence.restore [⟨5, 1⟩, ⟨9, 0⟩, ⟨5, 3⟩] 1).join 2 (-1)).2.leave 9
    presence = (.left [⟨2, -1⟩, ⟨5, 3⟩] (some 2),
      { roster := [⟨2, -1⟩, ⟨5, 3⟩], owner := some 2 }) ∧ presence.2.Lawful :=
  ⟨rfl, ((Arises.restore [⟨5, 1⟩, ⟨9, 0⟩, ⟨5, 3⟩] 1).join 2 (-1)).leave 9 |>.laws.1⟩

end Presence

end WatchParty
