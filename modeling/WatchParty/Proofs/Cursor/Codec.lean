/-
# What cursors are read from

A text names a cursor if it consists of three integers between dots, each within the range of its
kind, and it names one cursor only. Reading finds the cursor that is named and refuses every other
text. Of a cursor that was written all is read back but the part of a millisecond in the time of
creation, before the epoch as well as after it; a cursor that was read is read again when it has
been written.
-/

import WatchParty.Proofs.Cursor
import WatchParty.Proofs.Text.Integer

namespace WatchParty

open Http

namespace Text

variable {field : List Char}

theorem Unsigned.not_mem {value : Nat} (hwritten : Unsigned field value) {c : Char}
    (hdigit : c.isDigit = false) (hplus : c ≠ '+') : c ∉ field := by
  cases hwritten with
  | bare hdecimal => exact hdecimal.not_mem hdigit
  | plus hdecimal => exact List.not_mem_cons_of_ne_of_not_mem hplus (hdecimal.not_mem hdigit)

theorem Signed.not_mem {value : Int} (hwritten : Signed field value) {c : Char}
    (hdigit : c.isDigit = false) (hplus : c ≠ '+') (hminus : c ≠ '-') : c ∉ field := by
  cases hwritten with
  | bare hdecimal => exact hdecimal.not_mem hdigit
  | plus hdecimal => exact List.not_mem_cons_of_ne_of_not_mem hplus (hdecimal.not_mem hdigit)
  | minus hdecimal => exact List.not_mem_cons_of_ne_of_not_mem hminus (hdecimal.not_mem hdigit)

theorem readMillisecond?_eq_some_iff {count : Int} :
    readMillisecond? field = some count ↔
      Signed field count ∧ firstMillisecond ≤ count ∧ count ≤ lastMillisecond := by
  rw [readMillisecond?, Option.filter_eq_some_iff, readInt64?, readInt?_eq_some_iff,
    Bool.and_eq_true, decide_eq_true_eq, decide_eq_true_eq]
  constructor
  · rintro ⟨⟨hwritten, -⟩, hrange⟩
    exact ⟨hwritten, hrange⟩
  · rintro ⟨hwritten, hlow, hhigh⟩
    -- The calendar ends long before the integers of 64 bits do.
    have hlow' : -(Nat.pow 2 64 / 2 : Nat) ≤ count := Int.le_trans (by decide) hlow
    have hhigh' : count < (Nat.pow 2 64 / 2 : Nat) := Int.lt_of_le_of_lt hhigh (by decide)
    exact ⟨⟨hwritten, hlow', hhigh'⟩, hlow, hhigh⟩

end Text

namespace Cursor

open Text

variable {cursor : Cursor} {text : String}

/-- A text names a cursor by its members, the millisecond of its time of creation, and its room. -/
def NamedBy (cursor : Cursor) (text : String) : Prop :=
  ∃ headCount created id millisecond,
    text.toList = headCount ++ '.' :: (created ++ '.' :: id) ∧
    (Unsigned headCount cursor.headCount ∧ cursor.headCount < Nat.pow 2 64) ∧
    (Signed created millisecond ∧ firstMillisecond ≤ millisecond ∧
      millisecond ≤ lastMillisecond ∧ cursor.createdAt = Instant.ofMilliseconds millisecond) ∧
    Signed id cursor.id ∧ -Int.pow 2 31 ≤ cursor.id ∧ cursor.id < Int.pow 2 31

theorem namedBy_of_decodeCursor? (hread : decodeCursor? text = some cursor) :
    cursor.NamedBy text := by
  rw [decodeCursor?] at hread
  split at hread
  · rename_i headCount created id hfields
    obtain ⟨count, hcount, hread⟩ := Option.bind_eq_some_iff.mp hread
    obtain ⟨millisecond, hmillisecond, hread⟩ := Option.bind_eq_some_iff.mp hread
    obtain ⟨number, hnumber, hread⟩ := Option.bind_eq_some_iff.mp hread
    obtain rfl := Option.some.inj hread
    obtain ⟨hcount, hlimit⟩ := readNat?_eq_some_iff.mp hcount
    obtain ⟨hmillisecond, hlow, hhigh⟩ := readMillisecond?_eq_some_iff.mp hmillisecond
    obtain ⟨hnumber, hrange⟩ := readInt?_eq_some_iff.mp hnumber
    refine ⟨headCount, created, id, millisecond, ?_,
      ⟨hcount, Nat.lt_of_le_of_lt hlimit (by decide)⟩, ⟨hmillisecond, hlow, hhigh, rfl⟩,
      hnumber, hrange⟩
    rw [← intercalate_split '.' text.toList, hfields, List.intercalate_cons_cons,
      List.intercalate_cons_cons, List.intercalate_singleton, List.append_assoc, List.append_assoc]
    rfl
  · cases hread

theorem NamedBy.decodeCursor?_eq (hnamed : cursor.NamedBy text) :
    decodeCursor? text = some cursor := by
  obtain ⟨headCount, created, id, millisecond, htext, ⟨hcount, hlimit⟩,
    ⟨hmillisecond, hlow, hhigh, hcreated⟩, hid, hrange⟩ := hnamed
  have hfields : split '.' text.toList = [headCount, created, id] := by
    rw [htext, split_append (hcount.not_mem (by decide) (by decide)),
      split_append (hmillisecond.not_mem (by decide) (by decide) (by decide)),
      split_of_not_mem (hid.not_mem (by decide) (by decide) (by decide))]
  have hread : readNat? maxCount headCount = some cursor.headCount :=
    readNat?_eq_some_iff.mpr ⟨hcount, Nat.le_sub_one_of_lt hlimit⟩
  have hread' : readMillisecond? created = some millisecond :=
    readMillisecond?_eq_some_iff.mpr ⟨hmillisecond, hlow, hhigh⟩
  have hread'' : readInt32? id = some cursor.id := readInt?_eq_some_iff.mpr ⟨hid, hrange⟩
  rw [decodeCursor?, hfields]
  simp only [hread, hread', hread'']
  show some { cursor with createdAt := Instant.ofMilliseconds millisecond } = some cursor
  rw [← hcreated]

/-- Reading finds the cursor that a text names, and nothing else. -/
theorem decodeCursor?_eq_some_iff : decodeCursor? text = some cursor ↔ cursor.NamedBy text :=
  ⟨namedBy_of_decodeCursor?, NamedBy.decodeCursor?_eq⟩

/-- A cursor can be read back if its numbers have the widths of their types, and its time of
creation is in the calendar. -/
theorem readable_of_bounds (hheadCount : cursor.headCount < Nat.pow 2 64)
    (hfirst : Instant.ofMilliseconds firstMillisecond ≤ cursor.createdAt)
    (hlast : cursor.createdAt < Instant.ofMilliseconds (lastMillisecond + 1))
    (hid : -Int.pow 2 31 ≤ cursor.id ∧ cursor.id < Int.pow 2 31) : cursor.Readable := by
  refine ⟨Nat.le_sub_one_of_lt hheadCount, ?_, hid⟩
  rw [Instant.milliseconds, Int.fdiv_eq_ediv_of_nonneg _ (by decide)]
  constructor
  · exact (Int.le_ediv_iff_mul_le (by decide)).mpr hfirst
  · exact Int.le_of_lt_add_one ((Int.ediv_lt_iff_lt_mul (by decide)).mpr hlast)

/-- Rounding down goes back by less than a millisecond, to a whole one. -/
theorem truncate_spec (cursor : Cursor) :
    1000 ∣ cursor.truncate.createdAt ∧ cursor.truncate.createdAt ≤ cursor.createdAt ∧
      cursor.createdAt < cursor.truncate.createdAt + 1000 := by
  have hlt := Int.lt_ediv_add_one_mul_self cursor.createdAt (show (0 : Int) < 1000 by decide)
  rw [Int.add_mul, Int.one_mul] at hlt
  rw [createdAt_truncate]
  exact ⟨Int.dvd_mul_left _ _, Int.ediv_mul_le _ (by decide), hlt⟩

theorem truncate_eq_self_iff (cursor : Cursor) :
    cursor.truncate = cursor ↔ 1000 ∣ cursor.createdAt := by
  constructor
  · intro hsame
    rw [← hsame]
    exact cursor.truncate_spec.1
  · intro hdvd
    have hcreated : cursor.truncate.createdAt = cursor.createdAt := by
      rw [createdAt_truncate]
      exact Int.ediv_mul_cancel hdvd
    exact congrArg (fun createdAt => { cursor with createdAt }) hcreated

/-- What names a cursor names one that is read back as it is. -/
theorem NamedBy.read_back (hnamed : cursor.NamedBy text) :
    decodeCursor? (encodeCursor cursor) = some cursor := by
  obtain ⟨_, _, _, millisecond, -, ⟨-, hlimit⟩, ⟨-, hlow, hhigh, hcreated⟩, -, hrange⟩ := hnamed
  have hdvd : 1000 ∣ cursor.createdAt := by
    rw [hcreated]
    exact Int.dvd_mul_left _ _
  have hreadable : cursor.Readable := by
    apply readable_of_bounds hlimit _ _ hrange
    all_goals rw [hcreated]
    · exact Int.mul_le_mul_of_nonneg_right hlow (by decide)
    · exact Int.mul_lt_mul_of_pos_right (Int.lt_add_one_of_le hhigh) (by decide)
  rw [decodeCursor?_encodeCursor hreadable, cursor.truncate_eq_self_iff.mpr hdvd]

/-- Written cursors are read back to the millisecond, texts are read exactly if they name a cursor,
and what has been read is read again. -/
theorem codec_laws :
    (∀ cursor : Cursor, cursor.headCount < Nat.pow 2 64 →
      Instant.ofMilliseconds firstMillisecond ≤ cursor.createdAt →
      cursor.createdAt < Instant.ofMilliseconds (lastMillisecond + 1) →
      -Int.pow 2 31 ≤ cursor.id ∧ cursor.id < Int.pow 2 31 →
      (∃ back, decodeCursor? (encodeCursor cursor) = some back ∧
        back.headCount = cursor.headCount ∧ back.id = cursor.id ∧ 1000 ∣ back.createdAt ∧
        back.createdAt ≤ cursor.createdAt ∧ cursor.createdAt < back.createdAt + 1000) ∧
      (decodeCursor? (encodeCursor cursor) = some cursor ↔ 1000 ∣ cursor.createdAt)) ∧
    (∀ text cursor, decodeCursor? text = some cursor ↔ cursor.NamedBy text) ∧
    ∀ text cursor, decodeCursor? text = some cursor →
      decodeCursor? (encodeCursor cursor) = some cursor := by
  refine ⟨?_, fun text cursor => decodeCursor?_eq_some_iff, ?_⟩
  · intro cursor hheadCount hfirst hlast hid
    have hread := decodeCursor?_encodeCursor (readable_of_bounds hheadCount hfirst hlast hid)
    refine ⟨⟨cursor.truncate, hread, rfl, rfl, cursor.truncate_spec⟩, ?_⟩
    rw [hread, Option.some.injEq]
    exact cursor.truncate_eq_self_iff
  · exact fun text cursor hread => (namedBy_of_decodeCursor? hread).read_back

/-- A room was created one and a half milliseconds before the epoch. Its cursor comes back as the
one of two milliseconds before the epoch, which can be written in more than one way. -/
theorem epoch_codec_laws :
    let cursor : Cursor := { headCount := 3, createdAt := -1500, id := 42 }
    let rounded : Cursor := { headCount := 3, createdAt := -2000, id := 42 }
    (∃ back, decodeCursor? (encodeCursor cursor) = some back ∧ back.headCount = 3 ∧ back.id = 42 ∧
      1000 ∣ back.createdAt ∧ back.createdAt ≤ -1500 ∧ -1500 < back.createdAt + 1000) ∧
    decodeCursor? (encodeCursor cursor) ≠ some cursor ∧
    rounded.NamedBy "+3.-02.0042" ∧ decodeCursor? (encodeCursor rounded) = some rounded := by
  intro cursor rounded
  obtain ⟨hwritten, hnames, hagain⟩ := codec_laws
  obtain ⟨hback, hwhole⟩ := hwritten cursor (by decide) (by decide) (by decide) (by decide)
  have hread : decodeCursor? "+3.-02.0042" = some rounded := by decide +kernel
  exact ⟨hback, fun hsame => absurd (hwhole.mp hsame) (by decide), (hnames _ _).mp hread,
    hagain _ _ hread⟩

/-- The first and the last millisecond that a cursor can name are those of the calendar. -/
example :
    (Instant.ofMilliseconds firstMillisecond).text = "-262143-01-01T00:00:00Z" ∧
      (Instant.ofMilliseconds lastMillisecond).text = "+262142-12-31T23:59:59.999Z" := by
  decide +kernel

end Cursor

end WatchParty
