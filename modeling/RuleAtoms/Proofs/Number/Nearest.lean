/-
**Rounding keeps the order.**

The doubles stand ever farther apart, so it is not enough that each quotient is rounded within its
spacing: from one binade to the next the spacing doubles. What carries the order over is the power of
two between them, which is a double and is passed from neither side.

* `halfEven_le_halfEven`: on one grid, rounding keeps the order;
* `nearest_le_nearest`: so it does across all grids;
* `Double.toInt_ofWhole_le`: whole numbers stay in order when they are rounded to doubles;
* `Double.isWhole_ofWhole`: they stay whole-valued;
* `Double.toInt_ofWhole_of_small`: up to `2 ^ 53` they are not rounded at all;
* `Double.large_of_toInt_ofWhole_eq`: hence different ones with the same double are that large.
-/

import RuleAtoms.Number.Double

namespace RuleAtoms

namespace Rounding

/-! ### Magnitudes -/

theorem halfEven_le_halfEven {small large : Nat} (denominator : Nat) (order : small ≤ large) :
    halfEven small denominator ≤ halfEven large denominator := by
  have quotients : small / denominator ≤ large / denominator := Nat.div_le_div_right order
  rcases Nat.lt_or_eq_of_le quotients with below | same
  · calc halfEven small denominator
        ≤ small / denominator + 1 := halfEven_le small denominator
      _ ≤ large / denominator := below
      _ ≤ halfEven large denominator := le_halfEven large denominator
  · have smallParts := Nat.div_add_mod small denominator
    have largeParts := Nat.div_add_mod large denominator
    rw [same] at smallParts
    have remainders : small % denominator ≤ large % denominator := by omega
    unfold halfEven
    simp only [same]
    split <;> split <;> omega

theorem twoPow_log2_le {units : Nat} (positive : 0 < units) : twoPow units.log2 ≤ units :=
  Nat.log2_self_le (Nat.pos_iff_ne_zero.mp positive)

theorem log2_le_log2 {small large : Nat} (order : small ≤ large) : small.log2 ≤ large.log2 := by
  rcases Nat.eq_zero_or_pos small with rfl | positive
  · rw [Nat.log2_zero]
    exact Nat.zero_le _
  · refine (Nat.le_log2 (by omega)).mpr ?_
    exact Nat.le_trans (twoPow_log2_le positive) order

/-- Rounding does not fall below the power of two that begins the binade. -/
theorem twoPow_log2_le_nearest {units : Nat} (large : 52 ≤ units.log2) :
    twoPow units.log2 ≤ nearest units 1 := by
  have positive : 0 < units := by
    rcases Nat.eq_zero_or_pos units with rfl | positive
    · exact absurd large (by decide)
    · exact positive
  have parts : twoPow units.log2 = spacing units * twoPow 52 := by
    unfold spacing
    rw [← twoPow_add, Nat.sub_add_cancel large]
  have count : twoPow 52 ≤ units / spacing units := by
    rw [Nat.le_div_iff_mul_le (spacing_pos units), Nat.mul_comm, ← parts]
    exact twoPow_log2_le positive
  unfold nearest
  simp only [Nat.div_one, Nat.one_mul]
  rw [parts]
  exact Nat.mul_le_mul_left _ (Nat.le_trans count (le_halfEven units (spacing units)))

/-- **Rounding keeps the order of magnitudes.** Between magnitudes of different binades stands the
power of two at which the binade of the greater one begins. -/
theorem nearest_le_nearest {small large : Nat} (order : small ≤ large) :
    nearest small 1 ≤ nearest large 1 := by
  have logs : small.log2 ≤ large.log2 := log2_le_log2 order
  by_cases sameGrid : small.log2 - 52 = large.log2 - 52
  · have sameSpacing : spacing small = spacing large := congrArg twoPow sameGrid
    unfold nearest
    simp only [Nat.div_one, Nat.one_mul]
    rw [sameSpacing]
    exact Nat.mul_le_mul_left _ (halfEven_le_halfEven _ order)
  · have below : small / 1 < twoPow large.log2 := by
      rw [Nat.div_one]
      exact Nat.lt_of_lt_of_le (lt_twoPow_log2 small) (twoPow_le_twoPow (by omega))
    calc nearest small 1
        ≤ twoPow large.log2 := nearest_le_twoPow (by omega) below
      _ ≤ nearest large 1 := twoPow_log2_le_nearest (by omega)

end Rounding

namespace Double

open Rounding

/-! ### Whole numbers as doubles -/

theorem toInt_ofWhole (whole : Whole) :
    (ofWhole whole).toInt =
      if whole.toInt < 0 then -(nearest (whole.toInt.natAbs * one) 1 : Int)
      else (nearest (whole.toInt.natAbs * one) 1 : Int) := by
  unfold toInt ofWhole
  simp only [decide_eq_true_eq]

/-- **Rounding keeps the order of whole numbers.** -/
theorem toInt_ofWhole_le {small large : Whole} (order : small.toInt ≤ large.toInt) :
    (ofWhole small).toInt ≤ (ofWhole large).toInt := by
  rw [toInt_ofWhole, toInt_ofWhole]
  by_cases smallNegative : small.toInt < 0
  · rw [if_pos smallNegative]
    by_cases largeNegative : large.toInt < 0
    · rw [if_pos largeNegative]
      have sizes : large.toInt.natAbs ≤ small.toInt.natAbs := by omega
      have rounded := nearest_le_nearest (Nat.mul_le_mul_right one sizes)
      omega
    · rw [if_neg largeNegative]
      omega
  · have largeNonnegative : ¬ large.toInt < 0 := by omega
    rw [if_neg smallNegative, if_neg largeNonnegative]
    have sizes : small.toInt.natAbs ≤ large.toInt.natAbs := by omega
    exact Int.ofNat_le.mpr (nearest_le_nearest (Nat.mul_le_mul_right one sizes))

/-- A magnitude of at most 53 bits is not rounded. -/
theorem nearest_of_small {count : Nat} (small : count ≤ twoPow 53) :
    nearest (count * one) 1 = count * one := by
  refine nearest_of_onGrid ?_
  rw [Nat.mul_comm]
  exact onGrid_of_le small

theorem units_ofWhole_of_small {whole : Whole} (small : whole.toInt.natAbs ≤ twoPow 53) :
    (ofWhole whole).units = whole.toInt.natAbs * one := nearest_of_small small

theorem toInt_ofWhole_of_small {whole : Whole} (small : whole.toInt.natAbs ≤ twoPow 53) :
    (ofWhole whole).toInt = whole.toInt * one := by
  rw [toInt_ofWhole, nearest_of_small small, Int.natCast_mul]
  by_cases negative : whole.toInt < 0
  · have size : (whole.toInt.natAbs : Int) = -whole.toInt := by omega
    rw [if_pos negative, size, Int.neg_mul, Int.neg_neg]
  · have size : (whole.toInt.natAbs : Int) = whole.toInt := by omega
    rw [if_neg negative, size]

/-- Rounding keeps multiples of a power of two: they are on the grid, or the grid consists of such. -/
theorem twoPow_dvd_nearest {exponent units : Nat} (multiple : twoPow exponent ∣ units) :
    twoPow exponent ∣ nearest units 1 := by
  rcases Nat.le_total exponent (units.log2 - 52) with coarse | fine
  · have onSpacing : spacing (units / 1) ∣ nearest units 1 := Nat.dvd_mul_right _ _
    rw [Nat.div_one] at onSpacing
    exact Nat.dvd_trans (twoPow_dvd_twoPow coarse) onSpacing
  · have onGrid : OnGrid units := Nat.dvd_trans (twoPow_dvd_twoPow fine) multiple
    rwa [nearest_of_onGrid onGrid]

/-- The double of a whole number is whole-valued, even where it is rounded. -/
theorem isWhole_ofWhole (whole : Whole) : (ofWhole whole).isWhole = true := by
  have multiple : one ∣ (ofWhole whole).units := twoPow_dvd_nearest (Nat.dvd_mul_left _ _)
  exact beq_iff_eq.mpr (Nat.mod_eq_zero_of_dvd multiple)

theorem one_pos : (0 : Int) < one := Int.ofNat_lt.mpr (twoPow_pos oneExponent)

/-- Below `2 ^ 53`, the neighbours of a whole number are doubles as well, so that no other whole number
is rounded to it. -/
theorem toInt_ofWhole_lt {small large : Whole} (order : small.toInt < large.toInt)
    (notLarge : small.toInt.natAbs < twoPow 53 ∨ large.toInt.natAbs < twoPow 53) :
    (ofWhole small).toInt < (ofWhole large).toInt := by
  have size : twoPow 53 = 9007199254740992 := rfl
  rcases notLarge with smallFits | largeFits
  · let next : Whole := ⟨small.toInt + 1, by have := small.lower; omega, by
      have := large.upper; omega⟩
    have nextFits : next.toInt.natAbs ≤ twoPow 53 := by
      show (small.toInt + 1).natAbs ≤ _
      omega
    have between : next.toInt ≤ large.toInt := order
    have step : small.toInt * one < next.toInt * one :=
      Int.mul_lt_mul_of_pos_right (Int.lt_succ small.toInt) one_pos
    rw [toInt_ofWhole_of_small (Nat.le_of_lt smallFits)]
    rw [← toInt_ofWhole_of_small nextFits] at step
    exact Int.lt_of_lt_of_le step (toInt_ofWhole_le between)
  · let previous : Whole := ⟨large.toInt - 1, by have := small.lower; omega, by
      have := large.upper; omega⟩
    have previousFits : previous.toInt.natAbs ≤ twoPow 53 := by
      show (large.toInt - 1).natAbs ≤ _
      omega
    have between : small.toInt ≤ previous.toInt := Int.le_sub_one_of_lt order
    have step : previous.toInt * one < large.toInt * one :=
      Int.mul_lt_mul_of_pos_right (Int.sub_lt_self large.toInt Int.one_pos) one_pos
    rw [toInt_ofWhole_of_small (Nat.le_of_lt largeFits)]
    rw [← toInt_ofWhole_of_small previousFits] at step
    exact Int.lt_of_le_of_lt (toInt_ofWhole_le between) step

/-- **Different whole numbers with the same double are large.** -/
theorem large_of_toInt_ofWhole_eq {first second : Whole} (different : first ≠ second)
    (same : (ofWhole first).toInt = (ofWhole second).toInt) :
    twoPow 53 ≤ first.toInt.natAbs ∧ twoPow 53 ≤ second.toInt.natAbs := by
  have notSmall : ¬ (first.toInt.natAbs < twoPow 53 ∨ second.toInt.natAbs < twoPow 53) := by
    intro notLarge
    rcases Int.lt_trichotomy first.toInt second.toInt with below | equal | above
    · exact Int.ne_of_lt (toInt_ofWhole_lt below notLarge) same
    · exact different (Whole.ext equal)
    · exact Int.ne_of_lt (toInt_ofWhole_lt above notLarge.symm) same.symm
  omega

end Double

end RuleAtoms
