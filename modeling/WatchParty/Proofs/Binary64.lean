/-
# Laws of binary64 numbers

The larger and the smaller of two numbers follow the order, and where one of the two is no number
the other is taken. Of the arithmetic little is needed. A total between the numbers of two
neighbouring ranks is rounded to one of the two: what a number is worth to that number, and a larger
total to no smaller number. So adding zero changes nothing, and converting integers, dividing by a
positive number and adding to a fixed one keep the order.

Nothing is said about how near the rounded number is, and nothing about products.
-/

import Mathlib.Algebra.Group.Nat.Defs
import Mathlib.Order.GaloisConnection.Defs
import Mathlib.Order.Monotone.Basic
import WatchParty.Binary64

namespace WatchParty.Binary64

/-- Only numbers are ordered, and they are ordered by their ranks. -/
theorem exists_ranks {first second : Binary64} (hle : first ≤ second) :
    ∃ rank bounded rank' bounded',
      first = .ofRank rank bounded ∧ second = .ofRank rank' bounded' ∧ rank ≤ rank' := by
  cases first with
  | nan => exact hle.elim
  | ofRank rank bounded =>
      cases second with
      | nan => exact hle.elim
      | ofRank rank' bounded' => exact ⟨rank, bounded, rank', bounded', rfl, rfl, hle⟩

theorem ne_nan_of_le {smaller value : Binary64} (hle : smaller ≤ value) : value ≠ .nan := by
  obtain ⟨_, _, _, _, -, rfl, -⟩ := exists_ranks hle
  exact Binary64.noConfusion

theorem le_self_of_le {smaller value : Binary64} (hle : smaller ≤ value) : value ≤ value := by
  obtain ⟨_, _, rank, _, -, rfl, -⟩ := exists_ranks hle
  exact Int.le_refl rank

theorem le_trans {first second third : Binary64} (hle : first ≤ second) (hle' : second ≤ third) :
    first ≤ third := by
  obtain ⟨_, _, _, _, rfl, rfl, hrank⟩ := exists_ranks hle
  obtain ⟨_, _, _, _, -, rfl, -⟩ := exists_ranks hle'
  exact Int.le_trans hrank hle'

theorem le_antisymm {first second : Binary64} (hle : first ≤ second) (hge : second ≤ first) :
    first = second := by
  obtain ⟨_, _, _, _, rfl, rfl, hrank⟩ := exists_ranks hle
  congr 1
  exact Int.le_antisymm hrank hge

theorem le_of_lt {first second : Binary64} (hlt : first < second) : first ≤ second := by
  cases first with
  | nan => exact hlt.elim
  | ofRank rank bounded =>
      cases second with
      | nan => exact hlt.elim
      | ofRank rank' bounded' => exact Int.le_of_lt hlt

section Extremes

variable {value bound : Binary64}

theorem max_eq_left (hle : bound ≤ value) : value.max bound = value := by
  obtain ⟨_, _, _, _, rfl, rfl, hrank⟩ := exists_ranks hle
  rw [max]
  split
  · congr 1
    omega
  · rfl

theorem max_eq_right (hle : value ≤ bound) : value.max bound = bound := by
  obtain ⟨_, _, _, _, rfl, rfl, hrank⟩ := exists_ranks hle
  exact if_pos hrank

theorem min_eq_left (hle : value ≤ bound) : value.min bound = value := by
  obtain ⟨_, _, _, _, rfl, rfl, hrank⟩ := exists_ranks hle
  exact if_pos hrank

theorem min_eq_right (hle : bound ≤ value) : value.min bound = bound := by
  obtain ⟨_, _, _, _, rfl, rfl, hrank⟩ := exists_ranks hle
  rw [min]
  split
  · congr 1
    omega
  · rfl

/-- What is limited from below by zero is at least zero, even where there was no number. -/
theorem zero_le_max_zero (value : Binary64) : zero ≤ value.max zero := by
  cases value with
  | nan => exact Int.le_refl 0
  | ofRank rank bounded =>
      rw [zero, max]
      split
      · exact Int.le_refl 0
      · rename_i h
        exact Int.le_of_lt (Int.not_le.mp h)

theorem le_min {lower : Binary64} (hvalue : lower ≤ value) (hbound : lower ≤ bound) :
    lower ≤ value.min bound := by
  obtain ⟨_, _, _, _, rfl, rfl, _⟩ := exists_ranks hvalue
  obtain ⟨_, _, _, _, -, rfl, _⟩ := exists_ranks hbound
  rw [min]
  split
  · exact hvalue
  · exact hbound

theorem min_le_right {lower : Binary64} (hvalue : lower ≤ value) (hbound : lower ≤ bound) :
    value.min bound ≤ bound := by
  obtain ⟨_, _, _, _, rfl, rfl, _⟩ := exists_ranks hvalue
  obtain ⟨_, _, _, _, -, rfl, _⟩ := exists_ranks hbound
  rw [min]
  split
  · assumption
  · exact Int.le_refl _

theorem max_mono {larger : Binary64} (hle : value ≤ larger) (bound : Binary64) :
    value.max bound ≤ larger.max bound := by
  obtain ⟨_, _, _, _, rfl, rfl, hrank⟩ := exists_ranks hle
  cases bound with
  | nan => exact hle
  | ofRank rank bounded =>
      rw [max, max]
      split_ifs <;> show (_ : Int) ≤ _ <;> omega

theorem min_mono {larger : Binary64} (hle : value ≤ larger) (bound : Binary64) :
    value.min bound ≤ larger.min bound := by
  obtain ⟨_, _, _, _, rfl, rfl, hrank⟩ := exists_ranks hle
  cases bound with
  | nan => exact hle
  | ofRank rank bounded =>
      rw [min, min]
      split_ifs <;> show (_ : Int) ≤ _ <;> omega

end Extremes

theorem units_of_lt {rank : Nat} (hrank : rank < 2 ^ 52) : units rank = rank := by
  rw [units]
  exact if_pos hrank

/-- Above the smallest numbers a rank is a binade and a significand. The first significand of the
next binade may be taken as the last of this one. -/
theorem units_significand {significand : Nat} (hlow : 2 ^ 52 ≤ significand)
    (hhigh : significand ≤ 2 ^ 53) (shift : Nat) :
    units (shift * 2 ^ 52 + significand) = significand * 2 ^ shift := by
  have hbinade : Nat.pow 2 52 = 2 ^ 52 := rfl
  rw [units, if_neg (by omega), hbinade, Nat.pow_eq]
  rcases Nat.lt_or_eq_of_le hhigh with hlt | rfl
  · rw [show (shift * 2 ^ 52 + significand) % 2 ^ 52 = significand - 2 ^ 52 by omega,
      show (shift * 2 ^ 52 + significand) / 2 ^ 52 = shift + 1 by omega,
      Nat.add_sub_cancel' hlow, Nat.add_sub_cancel]
  · rw [show (shift * 2 ^ 52 + 2 ^ 53) % 2 ^ 52 = 0 by omega,
      show (shift * 2 ^ 52 + 2 ^ 53) / 2 ^ 52 = shift + 1 + 1 by omega,
      Nat.add_sub_cancel, Nat.pow_succ]
    omega

theorem units_lt_succ (rank : Nat) : units rank < units (rank + 1) := by
  rcases Nat.lt_or_ge rank (2 ^ 52) with hsmall | hlarge
  · rw [units_of_lt hsmall]
    rcases Nat.lt_or_eq_of_le hsmall with hlt | heq
    · rw [units_of_lt hlt]
      exact Nat.lt_succ_self rank
    · have hfirst := units_significand (Nat.le_refl (2 ^ 52)) (by decide) 0
      rw [Nat.zero_mul, Nat.zero_add] at hfirst
      rw [show rank + 1 = 2 ^ 52 from heq, hfirst]
      omega
  · obtain ⟨shift, significand, hlow, hhigh, rfl⟩ : ∃ shift significand,
        2 ^ 52 ≤ significand ∧ significand < 2 ^ 53 ∧ rank = shift * 2 ^ 52 + significand :=
      ⟨rank / 2 ^ 52 - 1, 2 ^ 52 + rank % 2 ^ 52, by omega, by omega, by omega⟩
    rw [Nat.add_assoc, units_significand hlow (Nat.le_of_lt hhigh),
      units_significand (Nat.le_succ_of_le hlow) hhigh]
    exact Nat.mul_lt_mul_of_pos_right (Nat.lt_succ_self significand) (Nat.two_pow_pos shift)

theorem units_strictMono : StrictMono units := strictMono_nat_of_lt_succ units_lt_succ

/-- A total lies between the number of its rank and the next one. -/
theorem floorRank_spec (total : Nat) :
    units (floorRank total) ≤ total ∧ total < units (floorRank total + 1) := by
  have hbinade : Nat.pow 2 52 = 2 ^ 52 := rfl
  rw [floorRank, hbinade]
  split
  · rename_i hsmall
    have hnext := units_lt_succ total
    rw [units_of_lt hsmall] at hnext ⊢
    exact ⟨Nat.le_refl total, hnext⟩
  · rename_i hlarge
    have hlarge : 2 ^ 52 ≤ total := Nat.not_lt.mp hlarge
    have htotal : total ≠ 0 := by omega
    have hlog : 52 ≤ total.log2 := (Nat.le_log2 htotal).mpr hlarge
    simp only [Nat.pow_eq]
    generalize hshift : total.log2 - 52 = shift
    have hpow : 0 < 2 ^ shift := Nat.two_pow_pos shift
    have hlow : 2 ^ 52 ≤ total / 2 ^ shift := by
      rw [Nat.le_div_iff_mul_le hpow, ← Nat.pow_add, show 52 + shift = total.log2 by omega]
      exact Nat.log2_self_le htotal
    have hhigh : total / 2 ^ shift < 2 ^ 53 := by
      rw [Nat.div_lt_iff_lt_mul hpow, ← Nat.pow_add, show 53 + shift = total.log2 + 1 by omega]
      exact Nat.lt_log2_self
    constructor
    · rw [units_significand hlow (Nat.le_of_lt hhigh)]
      exact Nat.div_mul_le_self total _
    · rw [Nat.add_assoc, units_significand (Nat.le_succ_of_le hlow) hhigh, Nat.mul_comm]
      exact Nat.lt_mul_div_succ total hpow

/-- Ranks and totals correspond: a rank is worth at most a total if it is at most its rank. -/
theorem gc_units_floorRank : GaloisConnection units floorRank := by
  intro rank total
  have hspec := floorRank_spec total
  constructor
  · intro hle
    exact Nat.le_of_lt_succ (units_strictMono.lt_iff_lt.mp (Nat.lt_of_le_of_lt hle hspec.2))
  · intro hle
    exact Nat.le_trans (units_strictMono.monotone hle) hspec.1

@[simp]
theorem floorRank_units (rank : Nat) : floorRank (units rank) = rank := by
  apply Nat.le_antisymm
  · exact units_strictMono.le_iff_le.mp (floorRank_spec (units rank)).1
  · exact gc_units_floorRank.le_u (Nat.le_refl _)

theorem nearestRank_le (numerator denominator : Nat) :
    nearestRank numerator denominator ≤ infinityRank := Nat.min_le_right _ _

/-- What a rank is worth is rounded to that rank, unless it is beyond all numbers. -/
theorem nearestRank_units {rank : Nat} (hrank : rank ≤ infinityRank) :
    nearestRank (units rank) 1 = rank := by
  have hnext := units_lt_succ rank
  rw [nearestRank, Nat.div_one, floorRank_units, Nat.mul_one]
  rw [if_pos (by omega)]
  exact Nat.min_eq_left hrank

/-- A larger total is rounded to no smaller rank. -/
theorem nearestRank_mono {numerator larger : Nat} (hle : numerator ≤ larger) (denominator : Nat) :
    nearestRank numerator denominator ≤ nearestRank larger denominator := by
  have hbelow : floorRank (numerator / denominator) ≤ floorRank (larger / denominator) :=
    gc_units_floorRank.monotone_u (Nat.div_le_div_right hle)
  rw [nearestRank, nearestRank]
  rcases Nat.lt_or_eq_of_le hbelow with hlt | heq
  · -- The larger total has a rank to itself that the smaller one is at most rounded up to.
    split_ifs <;> omega
  · rw [heq]
    split_ifs <;> omega

/-- A fraction is rounded on both sides of zero alike, and to a number. -/
theorem exists_ofFraction (numerator : Int) (denominator : Nat) :
    ∃ bounded, ofFraction numerator denominator =
      .ofRank (if numerator < 0 then -(nearestRank numerator.natAbs denominator : Int)
        else nearestRank numerator.natAbs denominator) bounded := by
  have hbound := nearestRank_le numerator.natAbs denominator
  refine ⟨by split <;> omega, ?_⟩
  rw [ofFraction, signed, dif_pos hbound]
  simp only [decide_eq_true_eq]

theorem ofFraction_mono {numerator larger : Int} (hle : numerator ≤ larger) (denominator : Nat) :
    ofFraction numerator denominator ≤ ofFraction larger denominator := by
  obtain ⟨_, hfirst⟩ := exists_ofFraction numerator denominator
  obtain ⟨_, hsecond⟩ := exists_ofFraction larger denominator
  rw [hfirst, hsecond]
  show (_ : Int) ≤ _
  -- Negative totals are rounded by their distance from zero, which turns the order around.
  by_cases hneg : numerator < 0
  · rw [if_pos hneg]
    by_cases hlarger : larger < 0
    · have hmono := nearestRank_mono (show larger.natAbs ≤ numerator.natAbs by omega) denominator
      rw [if_pos hlarger]
      omega
    · rw [if_neg hlarger]
      omega
  · have hmono := nearestRank_mono (show numerator.natAbs ≤ larger.natAbs by omega) denominator
    rw [if_neg hneg, if_neg (by omega)]
    omega

/-- What the number of a rank is worth, if it is not infinite. -/
def worth (rank : Int) : Int := rank.sign * units rank.natAbs

theorem worth_of_nonneg {rank : Int} (hrank : 0 ≤ rank) : worth rank = units rank.natAbs := by
  rcases Int.lt_or_eq_of_le hrank with hpos | rfl
  · rw [worth, Int.sign_eq_one_of_pos hpos, Int.one_mul]
  · rfl

theorem worth_of_neg {rank : Int} (hrank : rank < 0) : worth rank = -units rank.natAbs := by
  rw [worth, Int.sign_eq_neg_one_of_neg hrank, Int.neg_one_mul]

theorem worth_neg_iff (rank : Int) : worth rank < 0 ↔ rank < 0 := by
  rcases Int.lt_or_le rank 0 with hneg | hnonneg
  · have hpos : 0 < units rank.natAbs := units_strictMono (show 0 < rank.natAbs by omega)
    rw [worth_of_neg hneg]
    omega
  · rw [worth_of_nonneg hnonneg]
    omega

theorem natAbs_worth (rank : Int) : (worth rank).natAbs = units rank.natAbs := by
  rcases Int.lt_or_le rank 0 with hneg | hnonneg
  · rw [worth_of_neg hneg, Int.natAbs_neg, Int.natAbs_natCast]
  · rw [worth_of_nonneg hnonneg, Int.natAbs_natCast]

theorem worth_mono {rank higher : Int} (hle : rank ≤ higher) : worth rank ≤ worth higher := by
  rcases Int.lt_or_le rank 0 with hneg | hnonneg
  · rw [worth_of_neg hneg]
    rcases Int.lt_or_le higher 0 with hneg' | hnonneg'
    · have hunits := units_strictMono.monotone (show higher.natAbs ≤ rank.natAbs by omega)
      rw [worth_of_neg hneg']
      omega
    · rw [worth_of_nonneg hnonneg']
      omega
  · have hunits := units_strictMono.monotone (show rank.natAbs ≤ higher.natAbs by omega)
    rw [worth_of_nonneg hnonneg, worth_of_nonneg (Int.le_trans hnonneg hle)]
    omega

/-- What a number is worth is rounded to that number. -/
theorem ofFraction_worth {rank : Int} (bounded : rank.natAbs ≤ infinityRank) :
    ofFraction (worth rank) 1 = .ofRank rank bounded := by
  obtain ⟨_, hround⟩ := exists_ofFraction (worth rank) 1
  rw [hround]
  congr 1
  rw [natAbs_worth, nearestRank_units bounded]
  simp only [worth_neg_iff]
  split <;> omega

theorem eq_worth {rank exact : Int} {bounded : rank.natAbs ≤ infinityRank}
    (hexact : exactUnits? (.ofRank rank bounded) = some exact) : exact = worth rank := by
  obtain ⟨-, hworth⟩ := Option.ite_none_right_eq_some.mp hexact
  exact (Option.some.inj hworth).symm

/-- Nothing is beyond infinity but what is no number. -/
theorem le_infinity {smaller value : Binary64} (hle : smaller ≤ value) : value ≤ infinity := by
  obtain ⟨_, _, rank, _, -, rfl, -⟩ := exists_ranks hle
  show rank ≤ (infinityRank : Int)
  omega

/-- A number of at least zero is finite or infinity. -/
theorem finite_or_infinity {value : Binary64} (hvalue : zero ≤ value) :
    (∃ exact, value.exactUnits? = some exact) ∨ value = infinity := by
  cases value with
  | nan => exact hvalue.elim
  | ofRank rank bounded =>
      rcases Nat.lt_or_eq_of_le bounded with hfinite | hinfinite
      · exact .inl ⟨worth rank, if_pos hfinite⟩
      · have hrank : 0 ≤ rank := hvalue
        right
        apply le_antisymm (le_infinity hvalue)
        show (infinityRank : Int) ≤ rank
        omega

theorem exactUnits?_mono {value larger : Binary64} {exact exact' : Int} (hle : value ≤ larger)
    (hexact : value.exactUnits? = some exact) (hexact' : larger.exactUnits? = some exact') :
    exact ≤ exact' := by
  obtain ⟨_, _, _, _, rfl, rfl, hrank⟩ := exists_ranks hle
  rw [eq_worth hexact, eq_worth hexact']
  exact worth_mono hrank

section Sums

variable {value term larger : Binary64} {exact exact' : Int}

theorem add_of_finite (hvalue : value.exactUnits? = some exact)
    (hterm : term.exactUnits? = some exact') : value + term = ofFraction (exact + exact') 1 := by
  show add value term = _
  rw [add, hvalue, hterm]

theorem add_of_not_finite (hvalue : value.exactUnits? = none)
    (hterm : term.exactUnits? = some exact) : value + term = value := by
  show add value term = _
  rw [add, hvalue, hterm]

theorem add_infinity (hvalue : zero ≤ value) : value + infinity = infinity := by
  have hinfinity : infinity.exactUnits? = none := rfl
  show add value infinity = _
  rcases finite_or_infinity hvalue with ⟨exact, hexact⟩ | rfl
  · rw [add, hexact, hinfinity]
  · rfl

/-- Adding zero changes nothing. -/
theorem add_zero (value : Binary64) : value + zero = value := by
  have hzero : zero.exactUnits? = some 0 := rfl
  cases hexact : value.exactUnits? with
  | none => exact add_of_not_finite hexact hzero
  | some exact =>
      rw [add_of_finite hexact hzero, Int.add_zero]
      cases value with
      | nan => cases hexact
      | ofRank rank bounded =>
          rw [eq_worth hexact]
          exact ofFraction_worth bounded

/-- Adding more makes for no smaller sum. -/
theorem add_mono (hvalue : zero ≤ value) (hterm : zero ≤ term) (hle : term ≤ larger) :
    value + term ≤ value + larger := by
  rcases finite_or_infinity hterm with ⟨exact, hexact⟩ | rfl
  · rcases finite_or_infinity (le_trans hterm hle) with ⟨exact', hexact'⟩ | rfl
    · cases hstart : value.exactUnits? with
      | none =>
          rw [add_of_not_finite hstart hexact, add_of_not_finite hstart hexact']
          exact le_self_of_le hvalue
      | some start =>
          rw [add_of_finite hstart hexact, add_of_finite hstart hexact']
          exact ofFraction_mono (Int.add_le_add_left (exactUnits?_mono hle hexact hexact') _) 1
    · rw [add_infinity hvalue]
      cases hstart : value.exactUnits? with
      | none =>
          rw [add_of_not_finite hstart hexact]
          exact le_infinity hvalue
      | some start =>
          rw [add_of_finite hstart hexact]
          exact le_infinity (ofFraction_mono (Int.le_refl _) 1)
  · rw [le_antisymm (le_infinity hle) hle, add_infinity hvalue]
    exact Int.le_refl _

end Sums

theorem ofInt_mono {value larger : Int} (hle : value ≤ larger) : ofInt value ≤ ofInt larger :=
  ofFraction_mono (Int.mul_le_mul_of_nonneg_right hle (Int.natCast_nonneg one)) 1

section Quotients

variable {divisor : Binary64} {exact : Int} (hdivisor : divisor.exactUnits? = some exact)
  (hpos : 0 < exact)

include hdivisor hpos

/-- A quotient by a positive number is rounded, or else the infinity that is divided. -/
theorem ofRank_div {rank : Int} (bounded : rank.natAbs ≤ infinityRank) :
    ofRank rank bounded / divisor =
      if rank.natAbs < infinityRank then ofFraction (worth rank * one) exact.natAbs
      else ofRank rank bounded := by
  have hsign : exact.sign = 1 := Int.sign_eq_one_of_pos hpos
  show div (ofRank rank bounded) divisor = _
  by_cases hfinite : rank.natAbs < infinityRank
  · have hexact : exactUnits? (ofRank rank bounded) = some (worth rank) := if_pos hfinite
    simp only [div, hexact, hdivisor]
    rw [if_neg (by omega), if_pos hfinite, hsign, Int.mul_one]
  · have hexact : exactUnits? (ofRank rank bounded) = none := if_neg hfinite
    simp only [div, hexact, hdivisor, isNan, Bool.false_eq_true, if_false]
    rw [if_neg (by omega), if_neg hfinite]

/-- Division by a positive finite number keeps the order. -/
theorem div_mono {value larger : Binary64} (hle : value ≤ larger) :
    value / divisor ≤ larger / divisor := by
  obtain ⟨rank, bounded, rank', bounded', rfl, rfl, hrank⟩ := exists_ranks hle
  rw [ofRank_div hdivisor hpos, ofRank_div hdivisor hpos]
  -- An infinity on either side is the outermost rank there.
  split_ifs
  · apply ofFraction_mono
    exact Int.mul_le_mul_of_nonneg_right (worth_mono hrank) (Int.natCast_nonneg one)
  · obtain ⟨bounded'', hround⟩ := exists_ofFraction (worth rank * one) exact.natAbs
    rw [hround]
    show (_ : Int) ≤ rank'
    omega
  · obtain ⟨bounded'', hround⟩ := exists_ofFraction (worth rank' * one) exact.natAbs
    rw [hround]
    show rank ≤ (_ : Int)
    omega
  · exact hle

end Quotients

end WatchParty.Binary64
