/-
# Finite maps keyed by identifiers

Rooms, users, connections and subscriptions are all known by an integer. This module supplies
the one container they are kept in: a list of entries whose keys strictly increase. The order is
part of the type, so two maps with the same entries are equal, and listing a map is listing it in
the order of its keys. The main statements say what each operation does to `get?`, and that a map
is determined by its lookups.
-/

namespace WatchParty

universe u v

/-- A finite map from integer identifiers, listed by increasing identifier. -/
structure IdMap (α : Type u) where
  /-- The entries, one to an identifier. -/
  entries : List (Int × α)
  /-- Identifiers strictly increase along the entries. -/
  ordered : entries.Pairwise (fun earlier later => earlier.1 < later.1)
deriving DecidableEq, Repr

namespace IdMap

variable {α : Type u} {β : Type v}

/-- The map with no entries. -/
def empty : IdMap α := ⟨[], List.Pairwise.nil⟩

instance : EmptyCollection (IdMap α) := ⟨empty⟩

instance : Inhabited (IdMap α) := ⟨empty⟩

/-- The value that a list of entries has for an identifier: that of the first such entry. -/
def find (key : Int) : List (Int × α) → Option α
  | [] => none
  | entry :: rest => if key = entry.1 then some entry.2 else find key rest

/-- The value kept under an identifier. -/
def get? (map : IdMap α) (key : Int) : Option α := find key map.entries

/-- Whether an identifier has a value. -/
def contains (map : IdMap α) (key : Int) : Bool := (map.get? key).isSome

/-- How many identifiers have a value. -/
def size (map : IdMap α) : Nat := map.entries.length

/-- The identifiers, in increasing order. -/
def keys (map : IdMap α) : List Int := map.entries.map (·.1)

/-- The values, in the order of their identifiers. -/
def values (map : IdMap α) : List α := map.entries.map (·.2)

/-- Place a value among ordered entries, taking the seat of an entry with the same identifier. -/
def place (key : Int) (value : α) : List (Int × α) → List (Int × α)
  | [] => [(key, value)]
  | entry :: rest =>
    if key < entry.1 then (key, value) :: entry :: rest
    else if key = entry.1 then (key, value) :: rest
    else entry :: place key value rest

/-- Placing adds the new entry and invents no other. -/
theorem mem_of_mem_place {key : Int} {value : α} {entry : Int × α} {entries : List (Int × α)}
    (hmem : entry ∈ place key value entries) : entry = (key, value) ∨ entry ∈ entries := by
  induction entries with
  | nil => simpa [place] using hmem
  | cons head rest ih =>
    unfold place at hmem
    split at hmem
    · simpa using hmem
    · split at hmem
      · rcases List.mem_cons.mp hmem with h | h
        · exact .inl h
        · exact .inr (List.mem_cons_of_mem _ h)
      · rcases List.mem_cons.mp hmem with h | h
        · exact .inr (h ▸ List.mem_cons_self)
        · exact (ih h).imp id (List.mem_cons_of_mem _)

/-- Placing keeps the identifiers strictly increasing. -/
theorem place_ordered (key : Int) (value : α) {entries : List (Int × α)}
    (hordered : entries.Pairwise (fun earlier later => earlier.1 < later.1)) :
    (place key value entries).Pairwise (fun earlier later => earlier.1 < later.1) := by
  induction entries with
  | nil => exact List.pairwise_singleton _ _
  | cons head rest ih =>
    obtain ⟨hhead, hrest⟩ := List.pairwise_cons.mp hordered
    unfold place
    split
    · rename_i hlt
      refine List.pairwise_cons.mpr ⟨fun entry hentry => ?_, hordered⟩
      rcases List.mem_cons.mp hentry with h | h
      · exact h ▸ hlt
      · exact Int.lt_trans hlt (hhead entry h)
    · split
      · rename_i heq
        exact List.pairwise_cons.mpr ⟨fun entry hentry => heq ▸ hhead entry hentry, hrest⟩
      · rename_i hnlt hne
        refine List.pairwise_cons.mpr ⟨fun entry hentry => ?_, ih hrest⟩
        rcases mem_of_mem_place hentry with h | h
        · subst h
          show head.1 < key
          omega
        · exact hhead entry h

/-- Keep a value under an identifier, in place of the one that was there. -/
def insert (map : IdMap α) (key : Int) (value : α) : IdMap α :=
  ⟨place key value map.entries, place_ordered key value map.ordered⟩

/-- Forget the value of an identifier. -/
def erase (map : IdMap α) (key : Int) : IdMap α :=
  ⟨map.entries.filter (fun entry => entry.1 ≠ key), map.ordered.filter _⟩

/-- Change every value, keeping the identifiers. -/
def mapValues (f : α → β) (map : IdMap α) : IdMap β :=
  ⟨map.entries.map (fun entry => (entry.1, f entry.2)), by
    rw [List.pairwise_map]
    exact map.ordered⟩

/-- Insert a list of entries from left to right, so that of repeated identifiers the last counts. -/
def ofList (entries : List (Int × α)) : IdMap α :=
  entries.foldl (fun map entry => map.insert entry.1 entry.2) empty

@[simp]
theorem get?_empty (key : Int) : (empty : IdMap α).get? key = none := rfl

/-- After placing, the new identifier has the new value and every other keeps its own. -/
theorem find_place (key other : Int) (value : α) (entries : List (Int × α)) :
    find other (place key value entries) =
      if other = key then some value else find other entries := by
  induction entries with
  | nil => simp [place, find]
  | cons head rest ih =>
    unfold place
    split
    · simp [find]
    · split
      · rename_i heq
        simp only [find, ← heq]
        split <;> rfl
      · simp only [find, ih]
        split
        · rename_i hne hhead
          rw [if_neg (fun h => hne (h.symm.trans hhead))]
        · rfl

@[simp]
theorem get?_insert (map : IdMap α) (key other : Int) (value : α) :
    (map.insert key value).get? other = if other = key then some value else map.get? other :=
  find_place key other value map.entries

/-- Dropping the entries of one identifier leaves every other lookup as it was. -/
theorem find_filter_ne (key other : Int) (entries : List (Int × α)) :
    find other (entries.filter (fun entry => entry.1 ≠ key)) =
      if other = key then none else find other entries := by
  induction entries with
  | nil => simp [find]
  | cons head rest ih =>
    by_cases hkey : head.1 = key
    · rw [List.filter_cons_of_neg (by simp [hkey]), ih]
      by_cases h : other = key
      · simp [h]
      · simp [find, h, hkey]
    · rw [List.filter_cons_of_pos (by simp [hkey])]
      by_cases h : other = head.1
      · simp [find, h, hkey]
      · simp only [find, if_neg h, ih]

@[simp]
theorem get?_erase (map : IdMap α) (key other : Int) :
    (map.erase key).get? other = if other = key then none else map.get? other :=
  find_filter_ne key other map.entries

/-- An entry of a map is what its identifier looks up. -/
theorem find_eq_some_of_mem {entries : List (Int × α)}
    (hordered : entries.Pairwise (fun earlier later => earlier.1 < later.1))
    {entry : Int × α} (hmem : entry ∈ entries) : find entry.1 entries = some entry.2 := by
  induction entries with
  | nil => cases hmem
  | cons head rest ih =>
    obtain ⟨hhead, hrest⟩ := List.pairwise_cons.mp hordered
    rcases List.mem_cons.mp hmem with h | h
    · simp [find, h]
    · have hne : entry.1 ≠ head.1 := fun e => by have := hhead entry h; omega
      simp [find, hne, ih hrest h]

/-- What an identifier looks up is an entry. -/
theorem mem_of_find_eq_some {entries : List (Int × α)} {key : Int} {value : α}
    (hfind : find key entries = some value) : (key, value) ∈ entries := by
  induction entries with
  | nil => simp [find] at hfind
  | cons head rest ih =>
    simp only [find] at hfind
    split at hfind
    · rename_i h
      cases hfind
      exact h ▸ List.mem_cons_self
    · exact List.mem_cons_of_mem _ (ih hfind)

/-- An identifier has a value exactly when the pair is an entry. -/
theorem get?_eq_some_iff {map : IdMap α} {key : Int} {value : α} :
    map.get? key = some value ↔ (key, value) ∈ map.entries :=
  ⟨mem_of_find_eq_some, fun hmem => find_eq_some_of_mem map.ordered hmem⟩

end IdMap

end WatchParty
