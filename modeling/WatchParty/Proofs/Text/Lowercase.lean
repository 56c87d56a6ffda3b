/-
# Lower case of parts of texts

The lower case of a text is put together of the lower case of its characters, except that a capital
sigma looks at what stands around it. So a part of a text has the same lower case where it stands as
on its own if each of its capital sigmas ends a word either in both places or in neither.

Blank characters around a part count for nothing here, since no sigma looks past them. The case of
ASCII letters counts for nothing either.
-/

import WatchParty.Text.Blank
import WatchParty.Text.Lowercase

namespace WatchParty.Text

variable {before part after chars other : List Char} {c : Char}

theorem occursIn_iff : occursIn part chars = true ↔ part <:+: chars := by
  induction chars with
  | nil => rw [occursIn, List.isEmpty_iff, List.infix_nil]
  | cons c rest ih =>
      rw [occursIn, Bool.or_eq_true, ih, List.isPrefixOf_iff_prefix, List.infix_cons_iff]

/-- Whether a sigma between some characters, those before it in reverse, ends a word. -/
def endsWord (before after : List Char) : Bool := leadsToCased before && !leadsToCased after

/-- The lower case of a part of a text, with the characters before it in reverse and those after
it. -/
def lowercaseBetween (before : List Char) : List Char → List Char → List Char
  | [], _ => []
  | c :: rest, after =>
    (if c = 'Σ' then if endsWord before (rest ++ after) then ['ς'] else ['σ']
      else lowercaseChar c) ++ lowercaseBetween (c :: before) rest after

theorem lowercaseAfter_append (before part after : List Char) :
    lowercaseAfter before (part ++ after) =
      lowercaseBetween before part after ++ lowercaseAfter (part.reverse ++ before) after := by
  induction part generalizing before with
  | nil => rfl
  | cons c rest ih =>
      rw [List.cons_append, lowercaseAfter, ih, lowercaseBetween, List.append_assoc,
        List.reverse_cons, List.append_assoc]
      rfl

theorem lowercaseChars_eq_between (chars : List Char) :
    lowercaseChars chars = lowercaseBetween [] chars [] := by
  have happend := lowercaseAfter_append [] chars []
  rwa [List.append_nil, lowercaseAfter, List.append_nil] at happend

/-- What becomes of a part where it stands is a part of the lower case of the text. -/
theorem between_occurs (before part after : List Char) :
    lowercaseBetween before.reverse part after <:+: lowercaseChars (before ++ part ++ after) := by
  rw [lowercaseChars, List.append_assoc, lowercaseAfter_append, lowercaseAfter_append,
    List.append_nil]
  exact ⟨_, _, List.append_assoc _ _ _⟩

/-- Each capital sigma of a part ends a word where the part stands exactly if it does on its own. -/
def KeepsSigmas (before part after : List Char) : Prop :=
  ∀ front rest, part = front ++ 'Σ' :: rest →
    endsWord (front.reverse ++ before.reverse) (rest ++ after) = endsWord front.reverse rest

theorem keepsSigmas_of_not_mem (hnone : 'Σ' ∉ part) : KeepsSigmas before part after := by
  rintro front rest rfl
  exact absurd (List.mem_append_right front List.mem_cons_self) hnone

/-- In places that treat capital sigmas alike a part has the same lower case. -/
theorem between_congr {before' after' : List Char}
    (hsigmas : ∀ front rest, part = front ++ 'Σ' :: rest →
      endsWord (front.reverse ++ before) (rest ++ after) =
        endsWord (front.reverse ++ before') (rest ++ after')) :
    lowercaseBetween before part after = lowercaseBetween before' part after' := by
  induction part generalizing before before' with
  | nil => rfl
  | cons c rest ih =>
      rw [lowercaseBetween, lowercaseBetween]
      congr 1
      · split
        · rename_i hsigma
          have hhead := hsigmas [] rest (by rw [hsigma]; rfl)
          rw [List.reverse_nil, List.nil_append, List.nil_append] at hhead
          rw [hhead]
        · rfl
      · apply ih
        intro front rest' hrest
        have htail := hsigmas (c :: front) rest' (by rw [hrest]; rfl)
        simpa only [List.reverse_cons, List.append_assoc, List.singleton_append] using htail

/-- A part whose capital sigmas are kept has its own lower case where it stands. -/
theorem KeepsSigmas.occurs (hsigmas : KeepsSigmas before part after) :
    lowercaseChars part <:+: lowercaseChars (before ++ part ++ after) := by
  have hsame : lowercaseBetween before.reverse part after = lowercaseChars part := by
    rw [lowercaseChars_eq_between]
    apply between_congr
    intro front rest hpart
    rw [List.append_nil, List.append_nil]
    exact hsigmas front rest hpart
  rw [← hsame]
  exact between_occurs before part after

/-- No code point lies in a range of both tables. -/
def apart (first second : List (Nat × Nat)) : Bool :=
  first.all fun range => second.all fun other => range.2 < other.1 || other.2 < range.1

theorem inRanges_eq_false {first second : List (Nat × Nat)} {code : Nat}
    (hapart : apart first second = true) (hcode : inRanges first code = true) :
    inRanges second code = false := by
  simp only [apart, List.all_eq_true, Bool.or_eq_true, decide_eq_true_eq] at hapart
  simp only [inRanges, List.any_eq_true, Bool.and_eq_true, decide_eq_true_eq] at hcode
  simp only [inRanges, List.any_eq_false, Bool.and_eq_true, decide_eq_true_eq]
  obtain ⟨range, hrange, hcode⟩ := hcode
  intro other hother
  have hor := hapart range hrange other hother
  omega

/-- The ranges of the blank characters. -/
def blankRanges : List (Nat × Nat) :=
  [(0x09, 0x0D), (0x20, 0x20), (0x85, 0x85), (0xA0, 0xA0), (0x1680, 0x1680), (0x2000, 0x200A),
    (0x2028, 0x2029), (0x202F, 0x202F), (0x205F, 0x205F), (0x3000, 0x3000)]

theorem inRanges_of_isBlank (hblank : isBlank c = true) : inRanges blankRanges c.toNat = true := by
  simp only [isBlank, Bool.or_eq_true, Bool.and_eq_true, decide_eq_true_eq, beq_iff_eq] at hblank
  simp only [inRanges, blankRanges, List.any_cons, List.any_nil, Bool.or_eq_true, Bool.and_eq_true,
    decide_eq_true_eq, Bool.false_eq_true, or_false]
  omega

/-- Sigmas neither look past blank characters nor take them for letters. -/
theorem not_cased_of_isBlank (hblank : isBlank c = true) :
    isCased c = false ∧ isCaseIgnorable c = false :=
  ⟨inRanges_eq_false (by decide +kernel) (inRanges_of_isBlank hblank),
    inRanges_eq_false (by decide +kernel) (inRanges_of_isBlank hblank)⟩

theorem leadsToCased_cons (c : Char) (rest : List Char) :
    leadsToCased (c :: rest) = if isCaseIgnorable c then leadsToCased rest else isCased c := by
  rw [leadsToCased, List.dropWhile_cons]
  by_cases hignorable : isCaseIgnorable c = true
  · rw [if_pos hignorable, if_pos hignorable, leadsToCased]
  · rw [if_neg hignorable, if_neg hignorable]

theorem leadsToCased_append_of_blank (chars : List Char)
    (hblank : ∀ c ∈ after, isBlank c = true) :
    leadsToCased (chars ++ after) = leadsToCased chars := by
  induction chars with
  | nil =>
      cases after with
      | nil => rfl
      | cons c rest =>
          obtain ⟨hcased, hignorable⟩ := not_cased_of_isBlank (hblank c List.mem_cons_self)
          rw [List.nil_append, leadsToCased_cons, hignorable, hcased]
          rfl
  | cons c rest ih => rw [List.cons_append, leadsToCased_cons, leadsToCased_cons, ih]

/-- Blank characters around a part leave its capital sigmas alone. -/
theorem keepsSigmas_of_blank (part : List Char) (hbefore : ∀ c ∈ before, isBlank c = true)
    (hafter : ∀ c ∈ after, isBlank c = true) : KeepsSigmas before part after := by
  intro front rest _
  rw [endsWord, leadsToCased_append_of_blank _ hafter, leadsToCased_append_of_blank, endsWord]
  exact fun c hc => hbefore c (List.mem_reverse.mp hc)

theorem exists_trimEnd (chars : List Char) :
    ∃ blanks, chars = trimEnd chars ++ blanks ∧ ∀ c ∈ blanks, isBlank c = true := by
  induction chars with
  | nil => exact ⟨[], rfl, fun _ hc => nomatch hc⟩
  | cons c rest ih =>
      obtain ⟨blanks, hrest, hblanks⟩ := ih
      rw [trimEnd]
      split
      · rename_i hnone
        rw [hnone, List.nil_append] at hrest
        split
        · rename_i hblank
          refine ⟨c :: blanks, by rw [List.nil_append, hrest], ?_⟩
          exact List.forall_mem_cons.mpr ⟨hblank, hblanks⟩
        · exact ⟨blanks, by rw [List.singleton_append, hrest], hblanks⟩
      · exact ⟨blanks, by rw [List.cons_append, ← hrest], hblanks⟩

/-- Trimming takes blank characters away, and nothing else. -/
theorem exists_trimChars (chars : List Char) :
    ∃ before after, chars = before ++ trimChars chars ++ after ∧
      (∀ c ∈ before, isBlank c = true) ∧ ∀ c ∈ after, isBlank c = true := by
  obtain ⟨after, hafter, hblank⟩ := exists_trimEnd (chars.dropWhile isBlank)
  refine ⟨chars.takeWhile isBlank, after, ?_, fun c hc => ?_, hblank⟩
  · rw [trimChars, List.append_assoc, ← hafter, List.takeWhile_append_dropWhile]
  · exact List.all_eq_true.mp List.all_takeWhile c hc

/-- The lower case of a trimmed text is a part of the text's. -/
theorem lowercaseChars_trim_occurs (chars : List Char) :
    lowercaseChars (trimChars chars) <:+: lowercaseChars chars := by
  obtain ⟨before, after, hchars, hbefore, hafter⟩ := exists_trimChars chars
  have hoccurs := (keepsSigmas_of_blank (trimChars chars) hbefore hafter).occurs
  rwa [← hchars] at hoccurs

/-- The code points of the capital ASCII letters. -/
def asciiCapitals : List Nat := List.range' 65 26

/-- The ranges of the ASCII letters. -/
def asciiRanges : List (Nat × Nat) := [(0x41, 0x5A), (0x61, 0x7A)]

theorem toLower_eq_self_or_mem (c : Char) : c.toLower = c ∨ c.toNat ∈ asciiCapitals := by
  by_cases hcapital : 65 ≤ c.toNat ∧ c.toNat ≤ 90
  · refine .inr ?_
    rw [asciiCapitals, List.mem_range'_1]
    omega
  · refine .inl (dif_neg ?_)
    rintro ⟨hle, hge⟩
    exact hcapital ⟨hle, hge⟩

/-- No sigma looks past an ASCII letter. -/
theorem not_ignorable_of_ascii (hascii : inRanges asciiRanges c.toNat = true) :
    isCaseIgnorable c = false :=
  inRanges_eq_false (by decide +kernel) hascii

/-- What is asked of a character is the same for a capital ASCII letter and the small one. -/
structure SameCase (c d : Char) : Prop where
  cased : isCased d = isCased c
  ignorable : isCaseIgnorable d = isCaseIgnorable c
  blank : isBlank d = isBlank c
  lowercase : lowercaseChar d = lowercaseChar c
  sigma : d = 'Σ' ↔ c = 'Σ'

theorem sameCase_toLower (c : Char) : SameCase c c.toLower := by
  rcases toLower_eq_self_or_mem c with hsame | hcapital
  · rw [hsame]
    exact ⟨rfl, rfl, rfl, rfl, .rfl⟩
  · have hranges : ∀ code ∈ asciiCapitals, inRanges asciiRanges (Char.ofNat code).toNat = true ∧
        inRanges asciiRanges (Char.ofNat code).toLower.toNat = true := by decide
    have hall : ∀ code ∈ asciiCapitals,
        isCased (Char.ofNat code).toLower = isCased (Char.ofNat code) ∧
        isBlank (Char.ofNat code).toLower = isBlank (Char.ofNat code) ∧
        lowercaseChar (Char.ofNat code).toLower = lowercaseChar (Char.ofNat code) ∧
        ((Char.ofNat code).toLower = 'Σ' ↔ Char.ofNat code = 'Σ') := by decide
    obtain ⟨hupper, hlower⟩ := hranges c.toNat hcapital
    obtain ⟨hcased, hblank, hlowercase, hsigma⟩ := hall c.toNat hcapital
    rw [Char.ofNat_toNat] at hupper hlower hcased hblank hlowercase hsigma
    refine ⟨hcased, ?_, hblank, hlowercase, hsigma⟩
    rw [not_ignorable_of_ascii hupper, not_ignorable_of_ascii hlower]

theorem leadsToCased_map_toLower (chars : List Char) :
    leadsToCased (chars.map Char.toLower) = leadsToCased chars := by
  induction chars with
  | nil => rfl
  | cons c rest ih =>
      rw [List.map_cons, leadsToCased_cons, leadsToCased_cons, ih, (sameCase_toLower c).ignorable,
        (sameCase_toLower c).cased]

theorem lowercaseAfter_map_toLower (before chars : List Char) :
    lowercaseAfter (before.map Char.toLower) (chars.map Char.toLower) =
      lowercaseAfter before chars := by
  induction chars generalizing before with
  | nil => rfl
  | cons c rest ih =>
      have hrest := ih (c :: before)
      rw [List.map_cons] at hrest
      rw [List.map_cons, lowercaseAfter, lowercaseAfter, hrest, leadsToCased_map_toLower,
        leadsToCased_map_toLower, (sameCase_toLower c).lowercase]
      simp only [(sameCase_toLower c).sigma]

theorem trimEnd_map_toLower (chars : List Char) :
    trimEnd (chars.map Char.toLower) = (trimEnd chars).map Char.toLower := by
  induction chars with
  | nil => rfl
  | cons c rest ih =>
      rw [List.map_cons, trimEnd, trimEnd, ih, (sameCase_toLower c).blank]
      cases trimEnd rest with
      | nil =>
          show (if isBlank c then [] else [c.toLower]) = List.map _ (if isBlank c then [] else [c])
          split <;> rfl
      | cons head tail => rfl

theorem trimChars_map_toLower (chars : List Char) :
    trimChars (chars.map Char.toLower) = (trimChars chars).map Char.toLower := by
  have hblank : isBlank ∘ Char.toLower = isBlank := funext fun c => (sameCase_toLower c).blank
  rw [trimChars, trimChars, List.dropWhile_map, hblank, trimEnd_map_toLower]

/-- Texts that differ in the case of ASCII letters only have the same lower case when trimmed. -/
theorem lowercaseChars_trim_congr (halike : chars.map Char.toLower = other.map Char.toLower) :
    lowercaseChars (trimChars chars) = lowercaseChars (trimChars other) := by
  have hlower : ∀ chars, lowercaseChars (trimChars (chars.map Char.toLower)) =
      lowercaseChars (trimChars chars) := by
    intro chars
    rw [trimChars_map_toLower]
    exact lowercaseAfter_map_toLower [] _
  rw [← hlower chars, halike, hlower]

/-- A part of a title is found if its capital sigmas are kept, whatever the case of its ASCII
letters and whatever blank characters it begins and ends with. -/
theorem KeepsSigmas.found (hsigmas : KeepsSigmas before part after)
    (halike : chars.map Char.toLower = part.map Char.toLower) :
    lowercaseChars (trimChars chars) <:+: lowercaseChars (before ++ part ++ after) := by
  rw [lowercaseChars_trim_congr halike]
  exact (lowercaseChars_trim_occurs part).trans hsigmas.occurs

end WatchParty.Text
