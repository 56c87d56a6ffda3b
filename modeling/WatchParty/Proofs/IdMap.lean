/-
# Laws of finite maps

An `IdMap` is determined by its lookups. This module draws the consequences: how lookups go through
`mapValues` and `ofList`, when inserting changes nothing, and which values a map lists. Everything
else about maps is said through `get?`, so that no later module looks at entries.
-/

import WatchParty.IdMap

namespace WatchParty.IdMap

universe u v

variable {α : Type u} {β : Type v}

/-- What lies below all identifiers is not found. -/
private theorem find_eq_none_of_forall_lt {key : Int} {entries : List (Int × α)}
    (hbelow : ∀ entry ∈ entries, key < entry.1) : find key entries = none := by
  cases hvalue : find key entries with
  | none => rfl
  | some value =>
      have hlt := hbelow _ (mem_of_find_eq_some hvalue)
      exact absurd hlt (Int.lt_irrefl key)

/-- The least identifier of two maps with the same lookups is the same, with the same value. -/
private theorem head_eq_of_find_eq {first second : Int × α} {firsts seconds : List (Int × α)}
    (hfirst : ∀ entry ∈ firsts, first.1 < entry.1) (hsecond : ∀ entry ∈ seconds, second.1 < entry.1)
    (hfind : ∀ key, find key (first :: firsts) = find key (second :: seconds)) :
    first = second := by
  have hleft := hfind first.1
  have hright := hfind second.1
  rw [find, if_pos rfl] at hleft
  rw [find.eq_2 second.1 second, if_pos rfl] at hright
  rcases List.mem_cons.mp (mem_of_find_eq_some hleft.symm) with h | h
  · exact h
  · rcases List.mem_cons.mp (mem_of_find_eq_some hright) with h' | h'
    · exact h'.symm
    · have hlt := hsecond _ h
      have hgt := hfirst _ h'
      dsimp only at hlt hgt
      omega

/-- Ordered entries with the same lookups are the same entries. -/
theorem entries_eq_of_find_eq {first second : List (Int × α)}
    (hfirst : first.Pairwise (fun earlier later => earlier.1 < later.1))
    (hsecond : second.Pairwise (fun earlier later => earlier.1 < later.1))
    (hfind : ∀ key, find key first = find key second) : first = second := by
  induction first generalizing second with
  | nil =>
      cases second with
      | nil => rfl
      | cons head rest =>
          have h := hfind head.1
          simp [find] at h
  | cons head rest ih =>
      cases second with
      | nil =>
          have h := hfind head.1
          simp [find] at h
      | cons head' rest' =>
          obtain ⟨hhead, hrest⟩ := List.pairwise_cons.mp hfirst
          obtain ⟨hhead', hrest'⟩ := List.pairwise_cons.mp hsecond
          have heq : head = head' := head_eq_of_find_eq hhead hhead' hfind
          subst heq
          congr 1
          apply ih hrest hrest'
          intro key
          -- The head hides its own identifier in both, where the rests have nothing.
          by_cases hkey : key = head.1
          · subst hkey
            rw [find_eq_none_of_forall_lt hhead, find_eq_none_of_forall_lt hhead']
          · have h := hfind key
            rwa [find, if_neg hkey, find, if_neg hkey] at h

/-- A map is determined by its lookups. -/
theorem eq_of_get?_eq {first second : IdMap α} (hget : ∀ key, first.get? key = second.get? key) :
    first = second := by
  obtain ⟨entries, hordered⟩ := first
  obtain ⟨entries', hordered'⟩ := second
  congr
  exact entries_eq_of_find_eq hordered hordered' hget

@[simp]
theorem get?_mapValues (f : α → β) (map : IdMap α) (key : Int) :
    (map.mapValues f).get? key = (map.get? key).map f := by
  show find key (map.entries.map fun entry => (entry.1, f entry.2)) = (find key map.entries).map f
  induction map.entries with
  | nil => rfl
  | cons head rest ih =>
      simp only [List.map_cons, find]
      split
      · rfl
      · exact ih

theorem contains_eq_isSome (map : IdMap α) (key : Int) :
    map.contains key = (map.get? key).isSome := rfl

@[simp]
theorem contains_mapValues (f : α → β) (map : IdMap α) (key : Int) :
    (map.mapValues f).contains key = map.contains key := by
  simp [contains_eq_isSome]

@[simp]
theorem contains_insert (map : IdMap α) (key other : Int) (value : α) :
    (map.insert key value).contains other = (decide (other = key) || map.contains other) := by
  rw [contains_eq_isSome, get?_insert]
  by_cases h : other = key
  · simp [h]
  · simp [h, contains_eq_isSome]

@[simp]
theorem contains_erase (map : IdMap α) (key other : Int) :
    (map.erase key).contains other = (decide (other ≠ key) && map.contains other) := by
  rw [contains_eq_isSome, get?_erase]
  by_cases h : other = key
  · simp [h]
  · simp [h, contains_eq_isSome]

theorem contains_of_get? {map : IdMap α} {key : Int} {value : α}
    (hget : map.get? key = some value) : map.contains key = true := by
  rw [contains_eq_isSome, hget]
  rfl

theorem get?_insert_self (map : IdMap α) (key : Int) (value : α) :
    (map.insert key value).get? key = some value :=
  (get?_insert _ _ _ _).trans (if_pos rfl)

/-- What is found after an insertion is new, or was there before. -/
theorem of_get?_insert {map : IdMap α} {key other : Int} {value found : α}
    (hget : (map.insert key value).get? other = some found) :
    (other = key ∧ value = found) ∨ map.get? other = some found := by
  rw [get?_insert] at hget
  split at hget
  · rename_i heq
    exact .inl ⟨heq, Option.some.inj hget⟩
  · exact .inr hget

/-- A key that is there after an insertion is the new one, or was there before. -/
theorem of_contains_insert {map : IdMap α} {key other : Int} {value : α}
    (hcontains : (map.insert key value).contains other = true) :
    other = key ∨ map.contains other = true := by
  rwa [contains_insert, Bool.or_eq_true, decide_eq_true_eq] at hcontains

/-- An insertion under a new identifier hides nothing. -/
theorem get?_insert_of_fresh {map : IdMap α} {key other : Int} {value found : α}
    (hfresh : map.get? key = none) (hget : map.get? other = some found) :
    (map.insert key value).get? other = some found := by
  have hne : other ≠ key := by
    rintro rfl
    rw [hfresh] at hget
    cases hget
  rw [get?_insert, if_neg hne, hget]

theorem of_get?_erase {map : IdMap α} {key other : Int} {found : α}
    (hget : (map.erase key).get? other = some found) : map.get? other = some found := by
  rw [get?_erase] at hget
  split at hget
  · cases hget
  · exact hget

/-- The values of a map are what its identifiers look up. -/
theorem mem_values {map : IdMap α} {value : α} :
    value ∈ map.values ↔ ∃ key, map.get? key = some value := by
  simp only [values, List.mem_map, get?_eq_some_iff]
  constructor
  · rintro ⟨⟨key, _⟩, hmem, rfl⟩
    exact ⟨key, hmem⟩
  · rintro ⟨key, hmem⟩
    exact ⟨(key, value), hmem, rfl⟩

@[simp]
theorem values_mapValues (f : α → β) (map : IdMap α) :
    (map.mapValues f).values = map.values.map f := by
  simp [values, mapValues]

@[simp]
theorem size_mapValues (f : α → β) (map : IdMap α) : (map.mapValues f).size = map.size := by
  simp [size, mapValues]

theorem nodup_keys (map : IdMap α) : map.keys.Nodup := by
  apply List.Pairwise.map _ _ map.ordered
  intro earlier later hlt heq
  omega

theorem mem_keys {map : IdMap α} {key : Int} : key ∈ map.keys ↔ map.contains key = true := by
  simp only [keys, contains_eq_isSome, Option.isSome_iff_exists, get?_eq_some_iff, List.mem_map]
  constructor
  · rintro ⟨⟨_, value⟩, hentry, rfl⟩
    exact ⟨value, hentry⟩
  · rintro ⟨value, hentry⟩
    exact ⟨(key, value), hentry, rfl⟩

theorem keys_erase (map : IdMap α) (key : Int) :
    (map.erase key).keys = map.keys.filter (· ≠ key) := by
  rw [keys, keys, erase, List.filter_map]
  rfl

/-- What is kept under an identifier beyond all others is listed last. -/
theorem keys_insert_of_lt {map : IdMap α} {key : Int} (hlast : ∀ other ∈ map.keys, other < key)
    (value : α) : (map.insert key value).keys = map.keys ++ [key] := by
  have hplace : ∀ entries : List (Int × α), (∀ other ∈ entries.map (·.1), other < key) →
      (place key value entries).map (·.1) = entries.map (·.1) ++ [key] := by
    intro entries hentries
    induction entries with
    | nil => rfl
    | cons head rest ih =>
        have hhead : head.1 < key := hentries _ List.mem_cons_self
        rw [place, if_neg (Int.not_lt.mpr (Int.le_of_lt hhead)), if_neg (Int.ne_of_gt hhead),
          List.map_cons, ih fun other hother => hentries other (List.mem_cons_of_mem _ hother)]
        rfl
  exact hplace map.entries hlast

/-- Where values tell their identifiers, listing the values lists the identifiers. -/
theorem map_values {map : IdMap α} {name : α → Int}
    (hname : ∀ key value, map.get? key = some value → name value = key) :
    map.values.map name = map.keys := by
  rw [values, keys, List.map_map]
  apply List.map_congr_left
  intro entry hentry
  exact hname entry.1 entry.2 (get?_eq_some_iff.mpr hentry)

/-- A map holds as many values of a kind as there are identifiers of such values. -/
theorem countP_values {map : IdMap α} {kind : α → Bool} {keys : List Int} (hnodup : keys.Nodup)
    (hkeys : ∀ key, key ∈ keys ↔ ∃ value, map.get? key = some value ∧ kind value = true) :
    map.values.countP kind = keys.length := by
  let chosen := (map.entries.filter fun entry => kind entry.2).map (·.1)
  have hlength : chosen.length = map.values.countP kind := by
    rw [List.length_map, ← List.countP_eq_length_filter, values, List.countP_map]
    rfl
  have hchosen : chosen.Nodup := by
    apply List.Pairwise.map _ _ (map.ordered.filter _)
    intro earlier later hlt heq
    omega
  have hmem : ∀ key, key ∈ chosen ↔ key ∈ keys := by
    intro key
    simp only [chosen, hkeys, List.mem_map, List.mem_filter, get?_eq_some_iff]
    constructor
    · rintro ⟨⟨_, value⟩, hentry, rfl⟩
      exact ⟨value, hentry⟩
    · rintro ⟨value, hentry⟩
      exact ⟨(key, value), hentry, rfl⟩
  rw [← hlength]
  exact ((List.perm_ext_iff_of_nodup hchosen hnodup).mpr hmem).length_eq

/-- Keeping what is kept already changes nothing. -/
theorem insert_eq_self {map : IdMap α} {key : Int} {value : α} (hget : map.get? key = some value) :
    map.insert key value = map := by
  apply eq_of_get?_eq
  intro other
  rw [get?_insert]
  split
  · rename_i h
    rw [h, hget]
  · rfl

/-- Erasing what is not there changes nothing. -/
theorem erase_eq_self {map : IdMap α} {key : Int} (habsent : map.contains key = false) :
    map.erase key = map := by
  apply eq_of_get?_eq
  intro other
  rw [get?_erase]
  split
  · rename_i hsame
    rw [hsame]
    rw [contains_eq_isSome] at habsent
    exact (Option.not_isSome_iff_eq_none.mp (Bool.eq_false_iff.mp habsent)).symm
  · rfl

@[simp]
theorem insert_erase (map : IdMap α) (key : Int) (value : α) :
    (map.erase key).insert key value = map.insert key value := by
  apply eq_of_get?_eq
  intro other
  simp only [get?_insert, get?_erase]
  split <;> rfl

@[simp]
theorem erase_insert (map : IdMap α) (key : Int) (value : α) :
    (map.insert key value).erase key = map.erase key := by
  apply eq_of_get?_eq
  intro other
  simp only [get?_insert, get?_erase]
  split <;> rfl

@[simp]
theorem mapValues_insert (f : α → β) (map : IdMap α) (key : Int) (value : α) :
    (map.insert key value).mapValues f = (map.mapValues f).insert key (f value) := by
  apply eq_of_get?_eq
  intro other
  simp only [get?_mapValues, get?_insert]
  split <;> rfl

@[simp]
theorem mapValues_erase (f : α → β) (map : IdMap α) (key : Int) :
    (map.erase key).mapValues f = (map.mapValues f).erase key := by
  apply eq_of_get?_eq
  intro other
  simp only [get?_mapValues, get?_erase]
  split <;> rfl

/-- Inserting entries that agree with a table leaves what the table says under their identifiers. -/
theorem get?_foldl_insert {entries : List (Int × α)} {table : Int → Option α}
    (hagree : ∀ entry ∈ entries, table entry.1 = some entry.2) (map : IdMap α) (key : Int) :
    (entries.foldl (fun map entry => map.insert entry.1 entry.2) map).get? key =
      if key ∈ entries.map (·.1) then table key else map.get? key := by
  induction entries generalizing map with
  | nil => rfl
  | cons head rest ih =>
      rw [List.foldl_cons, ih fun entry hentry => hagree entry (List.mem_cons_of_mem _ hentry),
        get?_insert, List.map_cons]
      by_cases hrest : key ∈ rest.map (·.1)
      · rw [if_pos hrest, if_pos (List.mem_cons_of_mem _ hrest)]
      · by_cases hhead : key = head.1
        · rw [if_neg hrest, if_pos hhead, if_pos (hhead ▸ List.mem_cons_self), hhead,
            hagree head List.mem_cons_self]
        · rw [if_neg hrest, if_neg hhead, if_neg (by simp_all)]

/-- The map of a list of entries that agree with a table is that table, limited to their
identifiers. -/
theorem get?_ofList {entries : List (Int × α)} {table : Int → Option α}
    (hagree : ∀ entry ∈ entries, table entry.1 = some entry.2) (key : Int) :
    (ofList entries).get? key = if key ∈ entries.map (·.1) then table key else none :=
  get?_foldl_insert hagree empty key

end WatchParty.IdMap
