/-
# Texts and the white space in them

What is left of a text when it is trimmed, and what the words of a header are, said without the
functions that read the characters one by one. Both descriptions fit one result only, so they settle
what the functions yield.
-/

import WatchParty.Proofs.Text.Lowercase

namespace WatchParty.Text

variable {chars kept before after current word rest : List Char} {c : Char}

/-- Some characters are others with blank characters around them, and neither begin nor end with a
blank one themselves. -/
structure Trimmed (chars kept : List Char) : Prop where
  around : ∃ before after, chars = before ++ kept ++ after ∧
    (∀ c ∈ before, isBlank c = true) ∧ ∀ c ∈ after, isBlank c = true
  first : ∀ c ∈ kept.head?, isBlank c = false
  last : ∀ c ∈ kept.getLast?, isBlank c = false

theorem trimEnd_of_blank (hblank : ∀ c ∈ chars, isBlank c = true) : trimEnd chars = [] := by
  induction chars with
  | nil => rfl
  | cons c rest ih =>
      obtain ⟨hc, hrest⟩ := List.forall_mem_cons.mp hblank
      rw [trimEnd, ih hrest]
      exact if_pos hc

/-- Blank characters are taken off after one that is not blank. -/
theorem trimEnd_append (hlast : ∀ c ∈ kept.getLast?, isBlank c = false)
    (hafter : ∀ c ∈ after, isBlank c = true) : trimEnd (kept ++ after) = kept := by
  induction kept with
  | nil => exact trimEnd_of_blank hafter
  | cons c rest ih =>
      rw [List.cons_append, trimEnd]
      cases rest with
      | nil =>
          rw [List.nil_append, trimEnd_of_blank hafter]
          exact if_neg (Bool.eq_false_iff.mp (hlast c rfl))
      | cons d rest => rw [ih hlast]

theorem not_blank_of_getLast?_trimEnd (hlast : (trimEnd chars).getLast? = some c) :
    isBlank c = false := by
  induction chars with
  | nil => cases hlast
  | cons d rest ih =>
      rw [trimEnd] at hlast
      split at hlast
      · split at hlast
        · cases hlast
        · rename_i hkept
          cases hlast
          exact Bool.eq_false_iff.mpr hkept
      · rename_i kept hfull
        cases hkept : trimEnd rest with
        | nil => exact absurd hkept hfull
        | cons e more =>
            rw [hkept, List.getLast?_cons_cons, ← hkept] at hlast
            exact ih hlast

/-- Trimming leaves what has blank characters around it, and nothing else does. -/
theorem trimChars_eq_iff : trimChars chars = kept ↔ Trimmed chars kept := by
  constructor
  · rintro rfl
    obtain ⟨before, after, hchars, hblank⟩ := exists_trimChars chars
    refine ⟨⟨before, after, hchars, hblank⟩, fun c hc => ?_, fun c hc =>
      not_blank_of_getLast?_trimEnd hc⟩
    -- The first character that is kept is the first one that is not blank.
    obtain ⟨blanks, hkept, -⟩ := exists_trimEnd (chars.dropWhile isBlank)
    have hhead : (chars.dropWhile isBlank).head? = some c := by
      rw [hkept, List.head?_append, ← trimChars, Option.mem_def.mp hc]
      rfl
    have hfirst := List.head?_dropWhile_not isBlank chars
    rwa [hhead] at hfirst
  · rintro ⟨⟨before, after, rfl, hbefore, hafter⟩, hfirst, hlast⟩
    rw [trimChars, List.append_assoc, List.dropWhile_append_of_pos hbefore]
    cases kept with
    | nil =>
        apply trimEnd_of_blank
        exact fun c hc => hafter c (List.dropWhile_sublist _ |>.subset hc)
    | cons c rest =>
        rw [List.cons_append, List.dropWhile_cons_of_neg (Bool.eq_false_iff.mp (hfirst c rfl)),
          ← List.cons_append]
        exact trimEnd_append hlast hafter

theorem trim_eq_iff {text left : String} : trim text = left ↔ Trimmed text.toList left.toList := by
  rw [← trimChars_eq_iff, trim]
  constructor
  · rintro rfl
    rw [String.toList_ofList]
  · intro h
    rw [h, String.ofList_toList]

/-- The words of some characters, in order. White space stands between them, and perhaps before the
first and after the last. -/
inductive Words : List Char → List (List Char) → Prop where
  | none : Words [] []
  | space {c : Char} {rest : List Char} {words : List (List Char)}
      (hspace : isHeaderSpace c = true) (hrest : Words rest words) : Words (c :: rest) words
  | word {word rest : List Char} {words : List (List Char)} (hfull : word ≠ [])
      (hword : ∀ c ∈ word, isHeaderSpace c = false)
      (hends : ∀ c ∈ rest.head?, isHeaderSpace c = true) (hrest : Words rest words) :
      Words (word ++ rest) (word :: words)

variable {words : List (List Char)}

/-- What has no white space in it belongs to the word begun so far. -/
theorem wordsFrom_append (hword : ∀ c ∈ word, isHeaderSpace c = false) (current rest : List Char) :
    wordsFrom current (word ++ rest) = wordsFrom (current ++ word) rest := by
  induction word generalizing current with
  | nil => rw [List.nil_append, List.append_nil]
  | cons c more ih =>
      obtain ⟨hc, hmore⟩ := List.forall_mem_cons.mp hword
      rw [List.cons_append, wordsFrom, hc, if_neg Bool.false_ne_true, ih hmore, List.append_assoc,
        List.singleton_append]

/-- A word ends where white space follows or nothing. -/
theorem wordsFrom_of_ends (hfull : current ≠ [])
    (hends : ∀ c ∈ rest.head?, isHeaderSpace c = true) :
    wordsFrom current rest = current :: wordsFrom [] rest := by
  have hbegun : current.isEmpty = false := by rwa [Bool.eq_false_iff, ne_eq, List.isEmpty_iff]
  cases rest with
  | nil => simp [wordsFrom, hbegun]
  | cons c more => simp [wordsFrom, hbegun, hends c rfl]

/-- White space before the first word is skipped. -/
theorem wordsFrom_space (hspace : isHeaderSpace c = true) (rest : List Char) :
    wordsFrom [] (c :: rest) = wordsFrom [] rest := by
  rw [wordsFrom, if_pos hspace]
  rfl

theorem words_wordsFrom (current chars : List Char)
    (hcurrent : ∀ c ∈ current, isHeaderSpace c = false) :
    Words (current ++ chars) (wordsFrom current chars) := by
  have hnothing : ∀ c ∈ ([] : List Char), isHeaderSpace c = false := fun _ hc => nomatch hc
  induction chars generalizing current with
  | nil =>
      by_cases hbegun : current = []
      · subst hbegun
        exact .none
      · have hends : ∀ c ∈ ([] : List Char).head?, isHeaderSpace c = true := fun _ hc => nomatch hc
        rw [wordsFrom_of_ends hbegun hends]
        exact .word hbegun hcurrent hends .none
  | cons c rest ih =>
      by_cases hspace : isHeaderSpace c = true
      · have hskipped : Words (c :: rest) (wordsFrom [] (c :: rest)) := by
          rw [wordsFrom_space hspace]
          exact .space hspace (ih [] hnothing)
        by_cases hbegun : current = []
        · subst hbegun
          exact hskipped
        · have hends : ∀ d ∈ (c :: rest).head?, isHeaderSpace d = true := by
            rintro _ ⟨⟩
            exact hspace
          rw [wordsFrom_of_ends hbegun hends]
          exact .word hbegun hcurrent hends hskipped
      · have hlonger : ∀ d ∈ current ++ [c], isHeaderSpace d = false := by
          intro d hd
          rcases List.mem_append.mp hd with hold | hnew
          · exact hcurrent d hold
          · rw [List.mem_singleton.mp hnew]
            exact Bool.eq_false_iff.mpr hspace
        rw [wordsFrom, if_neg hspace, List.append_cons]
        exact ih _ hlonger

theorem Words.wordsFrom_eq (hwords : Words chars words) : wordsFrom [] chars = words := by
  induction hwords with
  | none => rfl
  | space hspace _ ih => rw [wordsFrom_space hspace, ih]
  | word hfull hword hends _ ih =>
      rw [wordsFrom_append hword, List.nil_append, wordsFrom_of_ends hfull hends, ih]

/-- A text has one list of words. -/
theorem wordsFrom_eq_iff : wordsFrom [] chars = words ↔ Words chars words := by
  constructor
  · rintro rfl
    exact words_wordsFrom [] chars fun _ hc => nomatch hc
  · exact Words.wordsFrom_eq

theorem headerWords_eq_iff {text : String} {words : List String} :
    headerWords text = words ↔ Words text.toList (words.map String.toList) := by
  rw [← wordsFrom_eq_iff, headerWords]
  constructor
  · rintro rfl
    simp [List.map_map]
  · intro h
    simp [h, List.map_map]

end WatchParty.Text
