/-
# Cursors as text

A cursor is written as three decimal numbers between dots, and what is written is read back number
by number. Nothing is lost of it but the part of a millisecond in the time of creation, as long as
each of the three numbers lies in the range that its reader accepts.
-/

import WatchParty.Http.Query

namespace WatchParty

namespace Text

variable {separator : Char} {field rest : List Char} {value limit : Nat}

theorem split_of_not_mem (hfield : separator ∉ field) : split separator field = [field] := by
  induction field with
  | nil => rfl
  | cons c field ih =>
      obtain ⟨hc, hrest⟩ := not_or.mp (mt List.mem_cons.mpr hfield)
      rw [split, if_neg (Ne.symm hc), ih hrest]

/-- A field ends where the separator stands. -/
theorem split_append (hfield : separator ∉ field) :
    split separator (field ++ separator :: rest) = field :: split separator rest := by
  induction field with
  | nil => rw [List.nil_append, split, if_pos rfl]
  | cons c field ih =>
      obtain ⟨hc, hrest⟩ := not_or.mp (mt List.mem_cons.mpr hfield)
      rw [List.cons_append, split, if_neg (Ne.symm hc), ih hrest]

theorem split_ne_nil (separator : Char) (chars : List Char) : split separator chars ≠ [] := by
  fun_cases split separator chars <;> exact List.cons_ne_nil _ _

/-- Nothing is lost by cutting a text where the separator stands. -/
theorem intercalate_split (separator : Char) (chars : List Char) :
    [separator].intercalate (split separator chars) = chars := by
  fun_induction split separator chars with
  | case1 => rfl
  | case2 rest ih =>
      rw [List.intercalate_cons_of_ne_nil (split_ne_nil _ _), ih]
      rfl
  | case3 c rest hne hnil ih => exact absurd hnil (split_ne_nil _ _)
  | case4 c rest hne field fields hfields ih =>
      rw [hfields] at ih
      cases fields with
      | nil =>
          rw [List.intercalate_singleton] at ih ⊢
          rw [ih]
      | cons next fields =>
          rw [List.intercalate_cons_cons] at ih ⊢
          rw [List.cons_append, List.cons_append, ih]

/-- The decimal text of an integer. -/
def integerChars : Int → List Char
  | .ofNat value => Nat.toDigits 10 value
  | .negSucc value => '-' :: Nat.toDigits 10 (value + 1)

theorem toList_natText (value : Nat) : (toString value).toList = Nat.toDigits 10 value := by
  rw [Nat.toString_eq_ofList_toDigits, String.toList_ofList]

theorem toList_integerText (value : Int) : (toString value).toList = integerChars value := by
  cases value with
  | ofNat value => exact toList_natText value
  | negSucc value =>
      have htext : toString (Int.negSucc value) = "-" ++ toString (value + 1) := rfl
      rw [htext, String.toList_append, toList_natText]
      rfl

theorem isDigit_of_mem {c : Char} (hc : c ∈ Nat.toDigits 10 value) : isDigit c = true :=
  Nat.isDigit_of_mem_toDigits (by decide) (by decide) hc

theorem not_mem_toDigits {c : Char} (hc : isDigit c = false) : c ∉ Nat.toDigits 10 value :=
  fun hmem => Bool.false_ne_true (hc.symm.trans (isDigit_of_mem hmem))

theorem dot_not_mem_integerChars (value : Int) : '.' ∉ integerChars value := by
  cases value with
  | ofNat value => exact not_mem_toDigits (by decide)
  | negSucc value =>
      rw [integerChars, List.mem_cons, not_or]
      exact ⟨by decide, not_mem_toDigits (by decide)⟩

theorem readDigits?_toDigits (value : Nat) : readDigits? (Nat.toDigits 10 value) = some value := by
  have hdigits : (Nat.toDigits 10 value).all isDigit = true :=
    List.all_eq_true.mpr fun c hc => isDigit_of_mem hc
  have hvalue : ofDigits (Nat.toDigits 10 value) = value :=
    calc ofDigits (Nat.toDigits 10 value)
      _ = Nat.ofDigitChars 10 (Nat.toDigits 10 value) 0 := Nat.ofDigitChars_eq_foldl.symm
      _ = value := Nat.ofDigitChars_ten_toDigits
  rw [readDigits?, List.isEmpty_eq_false_iff.mpr Nat.toDigits_ne_nil, hdigits, hvalue]
  rfl

theorem readNat?_toDigits (hlimit : value ≤ limit) :
    readNat? limit (Nat.toDigits 10 value) = some value := by
  rw [readNat?, readDigits?_toDigits, Option.filter_some, if_pos (decide_eq_true hlimit)]
  -- Digits begin with no sign.
  intro rest hsign
  exact not_mem_toDigits (c := '+') (by decide) (hsign ▸ List.mem_cons_self)

theorem readInt?_integerChars {values : Nat} {value : Int}
    (hlow : -(values / 2 : Nat) ≤ value) (hhigh : value < (values / 2 : Nat)) :
    readInt? values (integerChars value) = some value := by
  have hrange : (decide (-(values / 2 : Nat) ≤ value) && decide (value < (values / 2 : Nat))) =
      true := by
    rw [decide_eq_true hlow, decide_eq_true hhigh]
    rfl
  cases value with
  | ofNat value =>
      rw [integerChars, readInt?, readDigits?_toDigits, Option.map_some, Option.filter_some,
        if_pos hrange]
      · intro rest hsign
        exact not_mem_toDigits (c := '+') (by decide) (hsign ▸ List.mem_cons_self)
      · intro rest hsign
        exact not_mem_toDigits (c := '-') (by decide) (hsign ▸ List.mem_cons_self)
  | negSucc value =>
      rw [integerChars, readInt?, readDigits?_toDigits, Option.map_some, Option.filter_some]
      exact if_pos hrange

end Text

namespace Cursor

open Text Http

/-- A cursor with the time of creation rounded down to a whole millisecond. -/
def truncate (cursor : Cursor) : Cursor :=
  { cursor with createdAt := .ofMilliseconds (Instant.milliseconds cursor.createdAt) }

theorem createdAt_truncate (cursor : Cursor) :
    cursor.truncate.createdAt = (cursor.createdAt : Int) / 1000 * 1000 :=
  congrArg (· * 1000) (Int.fdiv_eq_ediv_of_nonneg _ (by decide))

/-- Each of the three numbers of a cursor can be read back. -/
structure Readable (cursor : Cursor) : Prop where
  headCount : cursor.headCount ≤ maxCount
  createdAt : firstMillisecond ≤ Instant.milliseconds cursor.createdAt ∧
    Instant.milliseconds cursor.createdAt ≤ lastMillisecond
  id : -Int.pow 2 31 ≤ cursor.id ∧ cursor.id < Int.pow 2 31

end Cursor

namespace Http

open Text

theorem toList_encodeCursor (cursor : Cursor) :
    (encodeCursor cursor).toList = Nat.toDigits 10 cursor.headCount ++ '.' ::
      (integerChars (Instant.milliseconds cursor.createdAt) ++ '.' :: integerChars cursor.id) := by
  have htext : encodeCursor cursor = toString cursor.headCount ++ "." ++
      toString (Instant.milliseconds cursor.createdAt) ++ "." ++ toString cursor.id := rfl
  simp only [htext, String.toList_append, toList_natText, toList_integerText, List.append_assoc]
  rfl

/-- The three fields of a cursor. -/
theorem split_encodeCursor (cursor : Cursor) :
    split '.' (encodeCursor cursor).toList =
      [Nat.toDigits 10 cursor.headCount, integerChars (Instant.milliseconds cursor.createdAt),
        integerChars cursor.id] := by
  rw [toList_encodeCursor, split_append (not_mem_toDigits (by decide)),
    split_append (dot_not_mem_integerChars _), split_of_not_mem (dot_not_mem_integerChars _)]

theorem readMillisecond?_integerChars {count : Int} (hlow : firstMillisecond ≤ count)
    (hhigh : count ≤ lastMillisecond) : readMillisecond? (integerChars count) = some count := by
  have hread : readInt64? (integerChars count) = some count := by
    apply readInt?_integerChars
    · exact Int.le_trans (by decide) hlow
    · exact Int.lt_of_le_of_lt hhigh (by decide)
  rw [readMillisecond?, hread, Option.filter_some, decide_eq_true hlow, decide_eq_true hhigh]
  rfl

/-- What is written is read back, with the time of creation rounded down. -/
theorem decodeCursor?_encodeCursor {cursor : Cursor} (hreadable : cursor.Readable) :
    decodeCursor? (encodeCursor cursor) = some cursor.truncate := by
  have hid : readInt32? (integerChars cursor.id) = some cursor.id :=
    readInt?_integerChars hreadable.id.1 hreadable.id.2
  rw [decodeCursor?, split_encodeCursor]
  simp only [readNat?_toDigits hreadable.headCount,
    readMillisecond?_integerChars hreadable.createdAt.1 hreadable.createdAt.2, hid]
  rfl

end Http

end WatchParty
