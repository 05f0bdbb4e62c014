/-
**The exact values of numbers.**

Every number has an exact value, a rational one: a whole number that of itself, a double its count of
units as multiples of the least positive double. Two numbers may have the same value, a whole number
and a double or the two zeros.

* `toWhole?_eq_some_iff`: the whole number of a number is the one with the same exact value;
* `toRat_toDouble_of_small`: up to `2 ^ 53` a whole number and its double have the same value;
* `compare_whole_of_toRat`: up to there, a number compares as equal to the whole number of its value.
-/

import Mathlib.Data.Rat.Cast.Order
import RuleAtoms.Proofs.Number.Order

namespace RuleAtoms

open Rounding

namespace Double

/-- The exact value of a double. -/
def toRat (double : Double) : ℚ := double.toInt / one

variable {double : Double} {value : Int}

theorem one_ne_zero_rat : (one : ℚ) ≠ 0 := Nat.cast_ne_zero.mpr (Nat.ne_of_gt (twoPow_pos oneExponent))

theorem natAbs_toInt (double : Double) : double.toInt.natAbs = double.units := by
  unfold toInt
  split <;> omega

theorem toRat_neg (double : Double) : double.neg.toRat = -double.toRat := by
  have opposite : double.neg.toInt = -double.toInt := by
    unfold toInt neg
    cases double.negative <;> simp
  unfold toRat
  rw [opposite, Int.cast_neg, neg_div]

/-- The value is an integer when the units are those of the integer. -/
theorem toRat_eq_intCast_iff : double.toRat = value ↔ double.toInt = value * one := by
  unfold toRat
  rw [div_eq_iff one_ne_zero_rat, ← Int.cast_natCast, ← Int.cast_mul, Int.cast_inj]

theorem toRat_eq_zero_iff : double.toRat = 0 ↔ double.toInt = 0 := by
  unfold toRat
  rw [div_eq_zero_iff, or_iff_left one_ne_zero_rat, Int.cast_eq_zero]

/-- The magnitude of an integral value. -/
theorem units_of_toRat (isValue : double.toRat = value) :
    double.units = value.natAbs * one := by
  rw [← natAbs_toInt, toRat_eq_intCast_iff.mp isValue, Int.natAbs_mul, Int.natAbs_natCast]

/-- The sign of an integral value, unless it is zero. -/
theorem negative_of_toRat (isValue : double.toRat = value) (nonzero : value ≠ 0) :
    double.negative = decide (value < 0) := by
  have positive := one_pos
  have units := units_of_toRat isValue
  have isInt := toRat_eq_intCast_iff.mp isValue
  rw [Bool.eq_iff_iff, decide_eq_true_eq]
  unfold toInt at isInt
  constructor
  · intro negative
    rw [if_pos negative] at isInt
    by_contra notNegative
    have above : 0 < value * one := Int.mul_pos (by omega) positive
    omega
  · intro below
    by_contra notNegative
    rw [if_neg notNegative] at isInt
    have belowZero : value * one < 0 := Int.mul_neg_of_neg_of_pos below positive
    omega

theorem one_dvd_toInt (isWhole : double.isWhole = true) : (one : Int) ∣ double.toInt := by
  rw [← Int.dvd_natAbs, natAbs_toInt, Int.natCast_dvd_natCast]
  exact Nat.dvd_of_mod_eq_zero (beq_iff_eq.mp isWhole)

/-- A whole-valued double has an integral value. -/
theorem isWhole_iff : double.isWhole = true ↔ ∃ value : Int, double.toRat = value := by
  constructor
  · intro isWhole
    refine ⟨double.toInt / one, toRat_eq_intCast_iff.mpr ?_⟩
    rw [Int.ediv_mul_cancel (one_dvd_toInt isWhole)]
  · rintro ⟨value, isValue⟩
    refine beq_iff_eq.mpr ?_
    rw [units_of_toRat isValue, Nat.mul_mod_left]

theorem toWhole?_eq_some_iff {whole : Whole} :
    double.toWhole? = some whole ↔ double.toRat = whole.toInt := by
  unfold toWhole?
  rw [toRat_eq_intCast_iff]
  by_cases isWhole : double.isWhole = true
  · rw [if_pos isWhole, Whole.ofInt?_eq_some_iff, eq_comm]
    exact Int.ediv_eq_iff_eq_mul_left (Int.ne_of_gt one_pos) (one_dvd_toInt isWhole)
  · rw [if_neg isWhole]
    refine iff_of_false (fun found => nomatch found) fun isValue => isWhole ?_
    exact isWhole_iff.mpr ⟨whole.toInt, toRat_eq_intCast_iff.mpr isValue⟩

/-- No whole number but zero rounds to zero. -/
theorem toInt_ofWhole_eq_zero_iff {whole : Whole} :
    (ofWhole whole).toInt = 0 ↔ whole = Whole.zero := by
  have zero : (ofWhole Whole.zero).toInt = 0 := by
    rw [toInt_ofWhole_of_small (Nat.zero_le _)]
    exact Int.zero_mul _
  constructor
  · intro vanishes
    by_contra different
    have large := large_of_toInt_ofWhole_eq different (vanishes.trans zero.symm)
    exact absurd large.2 (by decide)
  · rintro rfl
    exact zero

end Double

namespace Number

/-- The exact value of a number. -/
def toRat : Number → ℚ
  | .whole value => value.toInt
  | .double value => value.toRat

variable {number : Number} {value : Int} {whole : Whole}

/-- **The whole number of a number** is the one with the same exact value. -/
theorem toWhole?_eq_some_iff : number.toWhole? = some whole ↔ number.toRat = whole.toInt := by
  cases number with
  | whole own =>
    show some own = some whole ↔ (own.toInt : ℚ) = whole.toInt
    rw [Option.some.injEq, Int.cast_inj, Whole.ext_iff]
  | double double => exact Double.toWhole?_eq_some_iff

/-- Up to `2 ^ 53` a number and its double have the same value. -/
theorem toRat_toDouble_of_small (isValue : number.toRat = value)
    (small : value.natAbs ≤ twoPow 53) : number.toDouble.toRat = value := by
  cases number with
  | double double => exact isValue
  | whole whole =>
    obtain rfl : whole.toInt = value := Int.cast_inj.mp isValue
    exact Double.toRat_eq_intCast_iff.mpr (Double.toInt_ofWhole_of_small small)

theorem toRat_toDouble_eq_zero_iff : number.toDouble.toRat = 0 ↔ number.toRat = 0 := by
  cases number with
  | double double => exact Iff.rfl
  | whole whole =>
    show (Double.ofWhole whole).toRat = 0 ↔ (whole.toInt : ℚ) = 0
    rw [Double.toRat_eq_zero_iff, Double.toInt_ofWhole_eq_zero_iff, Int.cast_eq_zero, Whole.ext_iff]
    rfl

/-- **Up to `2 ^ 53` a number compares as equal to the whole number of its value.** -/
theorem compare_whole_of_toRat (isValue : number.toRat = whole.toInt)
    (small : whole.toInt.natAbs ≤ twoPow 53) : number.compare (.whole whole) = .eq := by
  cases number with
  | whole own =>
    obtain rfl : own = whole := Whole.ext (Int.cast_inj.mp isValue)
    exact compare_self _
  | double double =>
    show Ord.compare double.toInt (Double.ofWhole whole).toInt = .eq
    rw [Double.toRat_eq_intCast_iff.mp isValue, Double.toInt_ofWhole_of_small small]
    exact Std.ReflOrd.compare_self

end Number

end RuleAtoms
