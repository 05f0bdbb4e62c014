/-
**The texts of equal numbers.**

Two numbers may compare as equal and still be different: the two zeros, and a whole number with the
double it is rounded to. The text of a double shows the value of its shortest decimal, which up to
`2 ^ 53` is the exact value and beyond that another one that is rounded to the same double. So equal
numbers need not have the same text.

* `toDouble_eq_iff_of_compare`: equal numbers are the same double, but for the sign of zero;
* `Double.text_eq_intText`: the text of a whole value is that of the integer it shows;
* `shown_of_small`: up to `2 ^ 53` this is the exact value;
* `text_eq_iff_of_compare`: **which equal numbers have the same text**.
-/

import Mathlib.Algebra.Order.AbsoluteValue.Basic
import RuleAtoms.Proofs.Number.DoubleText
import RuleAtoms.Proofs.Number.ExactValue
import RuleAtoms.Proofs.Number.WholeText

namespace RuleAtoms

open Rounding

namespace Decimal

variable {decimal : Decimal}

/-- The value of a decimal. -/
def toRat (decimal : Decimal) : ℚ :=
  (if decimal.negative then -(decimal.digits : ℚ) else decimal.digits) * 10 ^ decimal.exponent

/-- The magnitude of a decimal without decimal places. -/
def inFull (decimal : Decimal) : Nat := decimal.digits * tenPow decimal.exponent.toNat

/-- The integer that a decimal without decimal places denotes. -/
def toInt (decimal : Decimal) : Int := if decimal.negative then -decimal.inFull else decimal.inFull

theorem toRat_of_nonneg (nonnegative : 0 ≤ decimal.exponent) : decimal.toRat = decimal.toInt := by
  obtain ⟨exponent, isExponent⟩ := Int.eq_ofNat_of_zero_le nonnegative
  unfold toRat toInt inFull tenPow
  rw [isExponent]
  cases decimal.negative <;> simp

/-- The text is that of the integer, but for a negative zero. -/
theorem positional_eq_intText (nonnegative : 0 ≤ decimal.exponent)
    (unsigned : decimal.negative = true → decimal.inFull ≠ 0) :
    decimal.positional = Number.intText decimal.toInt := by
  have isText : decimal.positional =
      signText decimal.negative ++ Nat.toDigits 10 decimal.inFull := positional_of_nonneg nonnegative
  rw [isText]
  unfold signText toInt Number.intText
  cases isNegative : decimal.negative with
  | false =>
    have notBelow : ¬ (decimal.inFull : Int) < 0 := by omega
    simp [notBelow]
  | true =>
    have nonzero := unsigned isNegative
    have below : -(decimal.inFull : Int) < 0 := by omega
    rw [if_pos rfl, if_pos rfl, if_pos below, Int.natAbs_neg, Int.natAbs_natCast]
    rfl

end Decimal

namespace Double

variable {double first second : Double}

def zero : Double := ⟨false, 0, by decide, by decide +kernel⟩

def negativeZero : Double := ⟨true, 0, by decide, by decide +kernel⟩

/-- Doubles of the same value and different signs are the two zeros. -/
theorem eq_zeros_of_toInt_eq (isFirst : first.negative = false) (isSecond : second.negative = true)
    (same : first.toInt = second.toInt) : first = zero ∧ second = negativeZero := by
  have firstValue : first.toInt = first.units := by
    unfold toInt
    rw [isFirst, if_neg Bool.false_ne_true]
  have secondValue : second.toInt = -second.units := if_pos isSecond
  have firstVanishes : first.units = 0 := by omega
  have secondVanishes : second.units = 0 := by omega
  exact ⟨Double.ext isFirst firstVanishes, Double.ext isSecond secondVanishes⟩

/-- Doubles of the same value are the same, but for the two zeros. -/
theorem eq_or_zeros_of_toInt_eq (same : first.toInt = second.toInt) : first = second ∨
    (first = zero ∧ second = negativeZero) ∨ (first = negativeZero ∧ second = zero) := by
  have units : first.units = second.units := by
    rw [← natAbs_toInt, same, natAbs_toInt]
  cases isFirst : first.negative with
  | false =>
    cases isSecond : second.negative with
    | false => exact .inl (Double.ext (isFirst.trans isSecond.symm) units)
    | true => exact .inr (.inl (eq_zeros_of_toInt_eq isFirst isSecond same))
  | true =>
    cases isSecond : second.negative with
    | false => exact .inr (.inr (eq_zeros_of_toInt_eq isSecond isFirst same.symm).symm)
    | true => exact .inl (Double.ext (isFirst.trans isSecond.symm) units)

/-! ### The value that a double shows -/

/-- The shortest decimal of a whole value is rounded to it. -/
theorem toDouble?_shortest (isWhole : double.isWhole = true) :
    double.shortest.toDouble? = some double := by
  unfold shortest
  split
  · rename_i vanishes
    have whole := toDouble?_whole isWhole
    rwa [vanishes, Nat.zero_div] at whole
  · cases found : (List.range' 1 17).findSome? double.decimalOfLength? with
    | none => exact toDouble?_whole isWhole
    | some decimal =>
      obtain ⟨length, -, isFound⟩ := List.exists_of_findSome?_eq_some found
      exact (of_decimalOfLength? isFound).1

/-- The integer that a whole value shows has its sign and is rounded to it. -/
theorem shortest_of_isWhole (isWhole : double.isWhole = true) :
    double.shortest.negative = double.negative ∧
      nearest (double.shortest.inFull * one) 1 = double.units := by
  have inFull := Decimal.toDouble?_in_full (exponent_shortest_nonneg isWhole)
    (toDouble?_shortest isWhole)
  rw [Decimal.toDouble?_integer] at inFull
  unfold ofRatio? at inFull
  split at inFull
  · have same := Option.some.inj inFull
    exact ⟨congrArg negative same, congrArg units same⟩
  · cases inFull

/-- **The text of a whole value** is that of the integer it shows. -/
theorem text_eq_intText (isWhole : double.isWhole = true) (signed : double ≠ negativeZero) :
    double.text = Number.intText double.shortest.toInt := by
  obtain ⟨sign, rounded⟩ := shortest_of_isWhole isWhole
  refine Decimal.positional_eq_intText (exponent_shortest_nonneg isWhole) fun negative vanishes => ?_
  rw [vanishes, Nat.zero_mul] at rounded
  exact signed (Double.ext (sign.symm.trans negative) rounded.symm)

/-- A magnitude that is rounded to one below `2 ^ 53` is this one. A greater one would not be rounded
below `2 ^ 53`. -/
theorem eq_of_nearest_of_lt {shown magnitude : Nat} (small : magnitude < twoPow 53)
    (rounded : nearest (shown * one) 1 = magnitude * one) : shown = magnitude := by
  have positive : 0 < one := twoPow_pos oneExponent
  by_cases fits : shown ≤ twoPow 53
  · rw [nearest_of_small fits] at rounded
    exact Nat.eq_of_mul_eq_mul_right positive rounded
  · have above : twoPow 53 * one ≤ magnitude * one := by
      calc twoPow 53 * one
          = nearest (twoPow 53 * one) 1 := (nearest_of_small (Nat.le_refl _)).symm
        _ ≤ nearest (shown * one) 1 :=
            nearest_le_nearest (Nat.mul_le_mul_right one (Nat.le_of_not_le fits))
        _ = magnitude * one := rounded
    exact absurd (Nat.le_of_mul_le_mul_right above positive) (Nat.not_le.mpr small)

/-- The double `2 ^ 53` with a sign. -/
def twoPow53 (negative : Bool) : Double :=
  ⟨negative, twoPow 53 * one, by decide +kernel, by decide +kernel⟩

theorem eq_twoPow53 (units : double.units = twoPow 53 * one) :
    double = twoPow53 double.negative := by
  unfold twoPow53
  exact Double.ext rfl units

theorem inFull_shortest_twoPow53 (negative : Bool) :
    (twoPow53 negative).shortest.inFull = twoPow 53 := by
  cases negative <;> decide +kernel

/-- Up to `2 ^ 53`, an integral value is shown exactly. -/
theorem toRat_shortest_of_small {value : Int} (isValue : double.toRat = value)
    (small : value.natAbs ≤ twoPow 53) : double.shortest.toRat = value := by
  have isWhole : double.isWhole = true := isWhole_iff.mpr ⟨value, isValue⟩
  have units := units_of_toRat isValue
  obtain ⟨sign, rounded⟩ := shortest_of_isWhole isWhole
  have shown : double.shortest.inFull = value.natAbs := by
    rcases Nat.lt_or_eq_of_le small with below | isLast
    · exact eq_of_nearest_of_lt below (rounded.trans units)
    · rw [isLast] at units ⊢
      rw [eq_twoPow53 units]
      exact inFull_shortest_twoPow53 double.negative
  have scaled : double.shortest.toInt * one = value * one := by
    rw [← toRat_eq_intCast_iff.mp isValue]
    unfold Decimal.toInt toInt
    rw [shown, sign, units, Int.natCast_mul]
    split
    · exact Int.neg_mul _ _
    · rfl
  rw [Decimal.toRat_of_nonneg (exponent_shortest_nonneg isWhole), Int.cast_inj]
  exact Int.eq_of_mul_eq_mul_right (Int.ne_of_gt one_pos) scaled

end Double

namespace Number

variable {number first second : Number}

/-- Whether one number is the negative zero exactly when the other one is. -/
def SameZeroSign (first second : Number) : Prop :=
  first = .double .negativeZero ↔ second = .double .negativeZero

/-- The value that the text of a number shows. -/
def shown : Number → ℚ
  | .whole value => value.toInt
  | .double value => value.shortest.toRat

/-- No whole number is rounded to the negative zero. -/
theorem toDouble_eq_negativeZero_iff :
    number.toDouble = .negativeZero ↔ number = .double .negativeZero := by
  refine ⟨fun isZero => ?_, congrArg toDouble⟩
  cases number with
  | double double => exact congrArg Number.double isZero
  | whole whole =>
    have vanishes : (Double.ofWhole whole).toInt = 0 := congrArg Double.toInt isZero
    obtain rfl := Double.toInt_ofWhole_eq_zero_iff.mp vanishes
    exact absurd (congrArg Double.negative isZero) (by decide)

/-- Equal numbers are the same double, but for the two zeros. -/
theorem toDouble_eq_or_zeros (same : first.compare second = .eq) :
    first.toDouble = second.toDouble ∨
      (first.toDouble = .zero ∧ second.toDouble = .negativeZero) ∨
      (first.toDouble = .negativeZero ∧ second.toDouble = .zero) :=
  Double.eq_or_zeros_of_toInt_eq (toInt_toDouble_eq same)

/-- **Equal numbers are the same double, but for the sign of zero.** -/
theorem toDouble_eq_iff_of_compare (same : first.compare second = .eq) :
    first.toDouble = second.toDouble ↔ SameZeroSign first second := by
  unfold SameZeroSign
  rw [← toDouble_eq_negativeZero_iff, ← toDouble_eq_negativeZero_iff]
  constructor
  · intro alike
    rw [alike]
  · intro signs
    have different : Double.zero ≠ .negativeZero := by decide
    rcases toDouble_eq_or_zeros same with alike | ⟨isZero, isNegative⟩ | ⟨isNegative, isZero⟩
    · exact alike
    · exact absurd (isZero.symm.trans (signs.mpr isNegative)) different
    · exact absurd (isZero.symm.trans (signs.mp isNegative)) different

/-! ### Texts -/

/-- The text is that of an integer, and shows its value. -/
def ShowsInteger (number : Number) (value : Int) : Prop :=
  number.text = intText value ∧ number.shown = value

theorem showsInteger_whole (whole : Whole) : (Number.whole whole).ShowsInteger whole.toInt :=
  ⟨rfl, rfl⟩

/-- **The text of a double that a whole number is rounded to** is that of an integer. -/
theorem showsInteger_ofWhole (whole : Whole) :
    (Number.double (.ofWhole whole)).ShowsInteger (Double.ofWhole whole).shortest.toInt := by
  have isWhole := Double.isWhole_ofWhole whole
  have signed : Double.ofWhole whole ≠ .negativeZero := by
    intro isZero
    have wholeZero : (Number.whole whole).toDouble = .negativeZero := isZero
    cases toDouble_eq_negativeZero_iff.mp wholeZero
  exact ⟨Double.text_eq_intText isWhole signed,
    Decimal.toRat_of_nonneg (Double.exponent_shortest_nonneg isWhole)⟩

theorem text_eq_iff_of_showsInteger {left right : Int} (showsLeft : first.ShowsInteger left)
    (showsRight : second.ShowsInteger right) :
    first.text = second.text ↔ first.shown = second.shown := by
  rw [showsLeft.1, showsRight.1, showsLeft.2, showsRight.2, intText_inj, Int.cast_inj]

/-- Numbers that are the same double have the same text if they show the same value. -/
theorem text_eq_iff_of_toDouble_eq (alike : first.toDouble = second.toDouble) :
    first.text = second.text ↔ first.shown = second.shown := by
  cases first with
  | whole left =>
    have showsLeft := showsInteger_whole left
    cases second with
    | whole right => exact text_eq_iff_of_showsInteger showsLeft (showsInteger_whole right)
    | double right =>
      obtain rfl : Double.ofWhole left = right := alike
      exact text_eq_iff_of_showsInteger showsLeft (showsInteger_ofWhole left)
  | double left =>
    cases second with
    | whole right =>
      obtain rfl : left = Double.ofWhole right := alike
      exact text_eq_iff_of_showsInteger (showsInteger_ofWhole right) (showsInteger_whole right)
    | double right =>
      obtain rfl : left = right := alike
      exact iff_of_true rfl rfl

theorem text_of_toDouble_eq_zero (isZero : number.toDouble = .zero) : number.text = ['0'] := by
  cases number with
  | whole whole =>
    have vanishes : (Double.ofWhole whole).toInt = 0 := congrArg Double.toInt isZero
    obtain rfl := Double.toInt_ofWhole_eq_zero_iff.mp vanishes
    decide
  | double double =>
    obtain rfl : double = .zero := isZero
    decide

theorem text_of_toDouble_eq_negativeZero (isZero : number.toDouble = .negativeZero) :
    number.text = ['-', '0'] := by
  obtain rfl := toDouble_eq_negativeZero_iff.mp isZero
  decide

theorem text_ne_of_zeros (isZero : first.toDouble = .zero)
    (isNegative : second.toDouble = .negativeZero) : first.text ≠ second.text := by
  rw [text_of_toDouble_eq_zero isZero, text_of_toDouble_eq_negativeZero isNegative]
  decide

/-- **Which equal numbers have the same text**: those that show the same value, and the same sign if
they are zero. -/
theorem text_eq_iff_of_compare (same : first.compare second = .eq) :
    first.text = second.text ↔ SameZeroSign first second ∧ first.shown = second.shown := by
  rw [← toDouble_eq_iff_of_compare same]
  constructor
  · intro sameText
    have alike : first.toDouble = second.toDouble := by
      rcases toDouble_eq_or_zeros same with alike | ⟨isZero, isNegative⟩ | ⟨isNegative, isZero⟩
      · exact alike
      · exact absurd sameText (text_ne_of_zeros isZero isNegative)
      · exact absurd sameText.symm (text_ne_of_zeros isZero isNegative)
    exact ⟨alike, (text_eq_iff_of_toDouble_eq alike).mp sameText⟩
  · rintro ⟨alike, sameShown⟩
    exact (text_eq_iff_of_toDouble_eq alike).mpr sameShown

/-! ### Up to `2 ^ 53` -/

theorem natAbs_le_of_abs_le {value : Int} (small : |(value : ℚ)| ≤ 2 ^ 53) :
    value.natAbs ≤ twoPow 53 := by
  have size : ((twoPow 53 : ℕ) : ℚ) = 2 ^ 53 := Nat.cast_pow 2 53
  rw [← size, ← Int.cast_abs, ← Nat.cast_natAbs] at small
  exact Nat.cast_le.mp small

theorem toRat_toDouble (small : |number.toRat| ≤ 2 ^ 53) : number.toDouble.toRat = number.toRat := by
  cases number with
  | whole whole => exact toRat_toDouble_of_small rfl (natAbs_le_of_abs_le small)
  | double double => rfl

/-- **Equal numbers up to `2 ^ 53` have the same exact value.** -/
theorem toRat_eq_of_compare (same : first.compare second = .eq) (smallFirst : |first.toRat| ≤ 2 ^ 53)
    (smallSecond : |second.toRat| ≤ 2 ^ 53) : first.toRat = second.toRat := by
  rw [← toRat_toDouble smallFirst, ← toRat_toDouble smallSecond]
  unfold Double.toRat
  rw [toInt_toDouble_eq same]

/-- Up to `2 ^ 53` an integral value is shown exactly. -/
theorem shown_of_small {value : Int} (isValue : number.toRat = value)
    (small : value.natAbs ≤ twoPow 53) : number.shown = value := by
  cases number with
  | whole whole => exact isValue
  | double double => exact Double.toRat_shortest_of_small isValue small

/-- **Equal numbers up to `2 ^ 53` show the same value**, be they whole numbers or doubles. -/
theorem shown_eq_of_compare (same : first.compare second = .eq) (smallFirst : |first.toRat| ≤ 2 ^ 53)
    (smallSecond : |second.toRat| ≤ 2 ^ 53) (signs : SameZeroSign first second) :
    first.shown = second.shown := by
  have values := toRat_eq_of_compare same smallFirst smallSecond
  cases first with
  | whole left =>
    exact (shown_of_small values.symm (natAbs_le_of_abs_le smallFirst)).symm
  | double left =>
    cases second with
    | whole right => exact shown_of_small values (natAbs_le_of_abs_le smallSecond)
    | double right =>
      obtain rfl : left = right := (toDouble_eq_iff_of_compare same).mpr signs
      rfl

end Number

end RuleAtoms
