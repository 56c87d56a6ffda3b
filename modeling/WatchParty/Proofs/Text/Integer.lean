/-
# What the readers of integers accept

An integer is written as decimal digits, one or more of them, leading zeros allowed, after a plus
sign or, where the type has negative numbers, a minus sign, if there is a sign at all. The readers
accept just these texts, as far as the number lies in the range of its type, and return the number
that is written.
-/

import WatchParty.Text.Integer

namespace WatchParty.Text

variable {chars digits : List Char} {value limit values : Nat}

/-- One or more decimal digits, and the number that they write. -/
structure Decimal (digits : List Char) (value : Nat) : Prop where
  nonempty : digits ≠ []
  digit : ∀ c ∈ digits, c.isDigit = true
  value : Nat.ofDigitChars 10 digits 0 = value

/-- A text that writes a natural number. -/
inductive Unsigned : List Char → Nat → Prop where
  | bare {digits : List Char} {value : Nat} (hdecimal : Decimal digits value) :
      Unsigned digits value
  | plus {digits : List Char} {value : Nat} (hdecimal : Decimal digits value) :
      Unsigned ('+' :: digits) value

/-- A text that writes an integer. -/
inductive Signed : List Char → Int → Prop where
  | bare {digits : List Char} {value : Nat} (hdecimal : Decimal digits value) :
      Signed digits value
  | plus {digits : List Char} {value : Nat} (hdecimal : Decimal digits value) :
      Signed ('+' :: digits) value
  | minus {digits : List Char} {value : Nat} (hdecimal : Decimal digits value) :
      Signed ('-' :: digits) (-value)

namespace Decimal

/-- Digits begin with no sign, and are interrupted by nothing. -/
theorem not_mem (hdecimal : Decimal digits value) {c : Char} (hc : c.isDigit = false) :
    c ∉ digits :=
  fun hmem => Bool.false_ne_true (hc.symm.trans (hdecimal.digit c hmem))

theorem ne_cons (hdecimal : Decimal digits value) {c : Char} (hc : c.isDigit = false)
    {rest : List Char} : digits ≠ c :: rest := by
  rintro rfl
  exact hdecimal.not_mem hc List.mem_cons_self

end Decimal

theorem readDigits?_eq_some_iff : readDigits? digits = some value ↔ Decimal digits value := by
  have hvalue : ofDigits digits = Nat.ofDigitChars 10 digits 0 := Nat.ofDigitChars_eq_foldl.symm
  rw [readDigits?, hvalue]
  constructor
  · intro hread
    split at hread
    · cases hread
    · rename_i hempty
      obtain ⟨hall, hdigits⟩ := Option.ite_none_right_eq_some.mp hread
      refine ⟨fun hnil => hempty (List.isEmpty_iff.mpr hnil), ?_, Option.some.inj hdigits⟩
      exact List.all_eq_true.mp hall
  · rintro ⟨hnonempty, hdigit, rfl⟩
    rw [List.isEmpty_eq_false_iff.mpr hnonempty]
    exact if_pos (List.all_eq_true.mpr hdigit)

theorem readNat?_eq_some_iff :
    readNat? limit chars = some value ↔ Unsigned chars value ∧ value ≤ limit := by
  unfold readNat?
  dsimp only
  rw [Option.filter_eq_some_iff, decide_eq_true_eq, readDigits?_eq_some_iff]
  refine and_congr_left fun _ => ⟨?_, ?_⟩
  · intro hdecimal
    split at hdecimal
    · exact .plus hdecimal
    · exact .bare hdecimal
  · intro hwritten
    cases hwritten with
    | bare hdecimal =>
        split
        · exact absurd rfl (hdecimal.ne_cons (by decide))
        · exact hdecimal
    | plus hdecimal => exact hdecimal

theorem readInt?_eq_some_iff {number : Int} :
    readInt? values chars = some number ↔
      Signed chars number ∧ -(values / 2 : Nat) ≤ number ∧ number < (values / 2 : Nat) := by
  unfold readInt?
  dsimp only
  rw [Option.filter_eq_some_iff, Bool.and_eq_true, decide_eq_true_eq, decide_eq_true_eq]
  refine and_congr_left fun _ => ⟨?_, ?_⟩
  · intro hread
    split at hread
    all_goals
      obtain ⟨value, hdigits, rfl⟩ := Option.map_eq_some_iff.mp hread
      rw [readDigits?_eq_some_iff] at hdigits
    · exact .plus hdigits
    · exact .minus hdigits
    · exact .bare hdigits
  · intro hwritten
    cases hwritten with
    | bare hdecimal =>
        split
        · exact absurd rfl (hdecimal.ne_cons (by decide))
        · exact absurd rfl (hdecimal.ne_cons (by decide))
        · exact Option.map_eq_some_iff.mpr ⟨_, readDigits?_eq_some_iff.mpr hdecimal, rfl⟩
    | plus hdecimal =>
        exact Option.map_eq_some_iff.mpr ⟨_, readDigits?_eq_some_iff.mpr hdecimal, rfl⟩
    | minus hdecimal =>
        exact Option.map_eq_some_iff.mpr ⟨_, readDigits?_eq_some_iff.mpr hdecimal, rfl⟩

end WatchParty.Text
