/-
**Arithmetic on small integers, however they are given.**

An integer up to `2 ^ 53` in size may be given as a whole number or as a double. Sums, differences,
products and remainders of such integers come to the same exact value either way, as long as that value
is as small: whole numbers are combined exactly, and the exact result of doubles is a double itself, so
that it is not rounded. Only the sign of a zero depends on how the operands are given.

* `exists_ofRatio?_of_small`: a small integer is not rounded, nor is it too large;
* `exactOn_add`, `exactOn_sub`, `exactOn_mul`, `exactOn_rem`: so doubles are combined exactly;
* `comesTo_combine?`: an operation that is exact on whole numbers and on doubles is exact on mixed
  operands;
* `arithmetic_of_small`: **the arithmetic of numbers is exact on small integers**.
-/

import RuleAtoms.Proofs.Number.ExactArithmetic
import RuleAtoms.Proofs.Number.ExactValue
import RuleAtoms.Proofs.Number.WholeRange

namespace RuleAtoms

open Rounding

namespace Double

variable {left right : Int}

/-- Whether an operation comes to an integral value on all doubles of two integral values. -/
def ExactOn (operation : Double → Double → Option Double) (left right value : Int) : Prop :=
  ∀ first second : Double, first.toRat = left → second.toRat = right →
    ∃ result, operation first second = some result ∧ result.toRat = value

/-- **A small integer is not rounded**, nor is it too large. -/
theorem exists_ofRatio?_of_small {negative : Bool} {value : Int}
    (sign : value ≠ 0 → negative = decide (value < 0)) (small : value.natAbs ≤ twoPow 53) :
    ∃ result, ofRatio? negative (value.natAbs * one) 1 = some result ∧ result.toRat = value := by
  have fits := Whole.fits_of_small small
  have finite : nearest (value.natAbs * one) 1 < limit := ofWhole_finite ⟨value, fits.1, fits.2⟩
  refine ⟨_, dif_pos finite, toRat_eq_intCast_iff.mpr ?_⟩
  show (if negative then -(nearest (value.natAbs * one) 1 : Int)
    else nearest (value.natAbs * one) 1) = value * one
  rw [nearest_of_small small, Int.natCast_mul]
  by_cases zero : value = 0
  · rw [zero, Int.natAbs_zero, Int.natCast_zero, Int.zero_mul, Int.neg_zero, ite_self]
  · rw [sign zero]
    by_cases below : value < 0
    · have size : (value.natAbs : Int) = -value := by omega
      rw [if_pos (decide_eq_true below), size, Int.neg_mul, Int.neg_neg]
    · have size : (value.natAbs : Int) = value := by omega
      rw [if_neg (by simpa using below), size]

theorem exactOn_add (small : (left + right).natAbs ≤ twoPow 53) :
    ExactOn add? left right (left + right) := by
  intro first second isLeft isRight
  have sum : first.toInt + second.toInt = (left + right) * one := by
    rw [toRat_eq_intCast_iff.mp isLeft, toRat_eq_intCast_iff.mp isRight, Int.add_mul]
  unfold add? ofInt?
  rw [sum, Int.natAbs_mul, Int.natAbs_natCast]
  refine exists_ofRatio?_of_small (fun nonzero => ?_) small
  have positive := one_pos
  rw [if_neg (Int.mul_ne_zero nonzero (Int.ne_of_gt positive)), decide_eq_decide, mul_neg_iff]
  omega

theorem exactOn_sub (small : (left - right).natAbs ≤ twoPow 53) :
    ExactOn sub? left right (left - right) := by
  intro first second isLeft isRight
  refine exactOn_add small first second.neg isLeft ?_
  rw [toRat_neg, isRight, Int.cast_neg]

theorem exactOn_mul (small : (left * right).natAbs ≤ twoPow 53) :
    ExactOn mul? left right (left * right) := by
  intro first second isLeft isRight
  rw [mul?_of_units (units_of_toRat isLeft) (units_of_toRat isRight), ← Int.natAbs_mul]
  refine exists_ofRatio?_of_small (fun nonzero => ?_) small
  obtain ⟨leftNonzero, rightNonzero⟩ := Int.mul_ne_zero_iff.mp nonzero
  rw [negative_of_toRat isLeft leftNonzero, negative_of_toRat isRight rightNonzero,
    Bool.eq_iff_iff, bne_iff_ne, ne_eq, decide_eq_decide, decide_eq_true_eq, mul_neg_iff]
  omega

/-- The remainder has the sign of the dividend. -/
theorem tmod_neg_iff (nonzero : left.tmod right ≠ 0) : left.tmod right < 0 ↔ left < 0 := by
  rcases Int.lt_or_le left 0 with below | notBelow
  · have opposite := Int.tmod_nonneg right (a := -left) (by omega)
    rw [Int.neg_tmod] at opposite
    omega
  · have same := Int.tmod_nonneg right notBelow
    omega

theorem exactOn_rem (nonzero : right ≠ 0) (small : (left.tmod right).natAbs ≤ twoPow 53) :
    ExactOn rem? left right (left.tmod right) := by
  intro first second isLeft isRight
  have positive : 0 < right.natAbs * one :=
    Nat.mul_pos (Int.natAbs_pos.mpr nonzero) (twoPow_pos oneExponent)
  have remainder : first.units % second.units = (left.tmod right).natAbs * one := by
    rw [units_of_toRat isLeft, units_of_toRat isRight, Nat.mul_mod_mul_right, Int.natAbs_tmod]
  unfold rem?
  rw [if_neg (units_of_toRat isRight ▸ Nat.ne_of_gt positive), remainder]
  refine exists_ofRatio?_of_small (fun notZero => ?_) small
  have dividendNonzero : left ≠ 0 := by
    rintro rfl
    exact notZero (Int.zero_tmod right)
  rw [negative_of_toRat isLeft dividendNonzero, decide_eq_decide, tmod_neg_iff notZero]

end Double

namespace Number

variable {first second : Number} {left right value : Int}

/-- Whether a computation has a result of an integral value, one that compares as equal to the whole
number of that value. -/
def ComesTo (found : Option Number) (value : Int) : Prop :=
  ∃ (result : Number) (whole : Whole), found = some result ∧ result.toRat = value ∧
    whole.toInt = value ∧ result.same (.whole whole) = true

theorem comesTo_of_exists {found : Option Number} (small : value.natAbs ≤ twoPow 53)
    (isFound : ∃ result, found = some result ∧ result.toRat = value) : ComesTo found value := by
  obtain ⟨result, isResult, isValue⟩ := isFound
  obtain ⟨lower, upper⟩ := Whole.fits_of_small small
  refine ⟨result, ⟨value, lower, upper⟩, isResult, isValue, rfl, ?_⟩
  exact beq_iff_eq.mpr (compare_whole_of_toRat isValue small)

section Operations

variable {onWholes : Whole → Whole → Option Whole} {onDoubles : Double → Double → Option Double}

/-- **An operation that is exact on whole numbers and on doubles** is exact on small integers that are
given as either. -/
theorem comesTo_combine? (isLeft : first.toRat = left) (isRight : second.toRat = right)
    (leftSmall : left.natAbs ≤ twoPow 53) (rightSmall : right.natAbs ≤ twoPow 53)
    (small : value.natAbs ≤ twoPow 53)
    (wholly : ∀ leftWhole rightWhole : Whole, leftWhole.toInt = left → rightWhole.toInt = right →
      ∃ result, onWholes leftWhole rightWhole = some result ∧ result.toInt = value)
    (doubly : Double.ExactOn onDoubles left right value) :
    ComesTo (combine? onWholes onDoubles first second) value := by
  have asDoubles : ComesTo ((onDoubles first.toDouble second.toDouble).map .double) value := by
    obtain ⟨result, isResult, isValue⟩ := doubly first.toDouble second.toDouble
      (toRat_toDouble_of_small isLeft leftSmall) (toRat_toDouble_of_small isRight rightSmall)
    exact comesTo_of_exists small ⟨.double result, by rw [isResult, Option.map_some], isValue⟩
  cases first with
  | double leftDouble => exact asDoubles
  | whole leftWhole =>
    cases second with
    | double rightDouble => exact asDoubles
    | whole rightWhole =>
      obtain ⟨result, isResult, isValue⟩ :=
        wholly leftWhole rightWhole (Int.cast_inj.mp isLeft) (Int.cast_inj.mp isRight)
      refine comesTo_of_exists small ⟨.whole result, ?_, congrArg Int.cast isValue⟩
      show (onWholes leftWhole rightWhole).map Number.whole = _
      rw [isResult, Option.map_some]

/-- On whole numbers, sums, differences and products are those of the integers as far as they fit. -/
theorem comesTo_checked {operation : Int → Int → Int} (isLeft : first.toRat = left)
    (isRight : second.toRat = right) (leftSmall : left.natAbs ≤ twoPow 53)
    (rightSmall : right.natAbs ≤ twoPow 53) (small : (operation left right).natAbs ≤ twoPow 53)
    (doubly : Double.ExactOn onDoubles left right (operation left right)) :
    ComesTo (combine? (fun leftWhole rightWhole =>
      Whole.ofInt? (operation leftWhole.toInt rightWhole.toInt)) onDoubles first second)
      (operation left right) := by
  refine comesTo_combine? isLeft isRight leftSmall rightSmall small ?_ doubly
  rintro leftWhole rightWhole rfl rfl
  exact Whole.exists_of_fits (Whole.fits_of_small small)

end Operations

/-- **Arithmetic is exact on small integers, however they are given.** Whether each operand is a whole
number or a double, the sum, the difference, the product and the remainder of two integers up to
`2 ^ 53` compare as equal to the exact one, as long as that is as small. A remainder is, since it is no
greater than the dividend. -/
theorem arithmetic_of_small (isLeft : first.toRat = left) (isRight : second.toRat = right)
    (leftSmall : left.natAbs ≤ twoPow 53) (rightSmall : right.natAbs ≤ twoPow 53) :
    ((left + right).natAbs ≤ twoPow 53 → ComesTo (first.add? second) (left + right)) ∧
      ((left - right).natAbs ≤ twoPow 53 → ComesTo (first.sub? second) (left - right)) ∧
      ((left * right).natAbs ≤ twoPow 53 → ComesTo (first.mul? second) (left * right)) ∧
      (right ≠ 0 → ComesTo (first.rem? second) (left.tmod right)) := by
  refine ⟨fun small => ?_, fun small => ?_, fun small => ?_, fun nonzero => ?_⟩
  · exact comesTo_checked isLeft isRight leftSmall rightSmall small (Double.exactOn_add small)
  · exact comesTo_checked isLeft isRight leftSmall rightSmall small (Double.exactOn_sub small)
  · exact comesTo_checked isLeft isRight leftSmall rightSmall small (Double.exactOn_mul small)
  · have small : (left.tmod right).natAbs ≤ twoPow 53 := by
      rw [Int.natAbs_tmod]
      exact Nat.le_trans (Nat.mod_le _ _) leftSmall
    refine comesTo_combine? isLeft isRight leftSmall rightSmall small ?_
      (Double.exactOn_rem nonzero small)
    rintro leftWhole rightWhole rfl rfl
    obtain ⟨result, -, isValue⟩ := Whole.exists_of_fits (Whole.fits_of_small small)
    refine ⟨result, Whole.rem?_eq_some_iff.mpr ⟨nonzero, ?_, ?_⟩, isValue⟩
    · rintro ⟨least, -⟩
      rw [least] at leftSmall
      exact absurd leftSmall (by decide)
    · rw [isValue, Int.mul_tdiv_add_tmod]

/-- The double -13 and the whole number 5. -/
theorem arithmetic_minusThirteen_five :
    let minusThirteen := Number.double (.ofWhole ⟨-13, by decide, by decide⟩)
    let five := Number.whole ⟨5, by decide, by decide⟩
    minusThirteen.toRat = (-13 : Int) ∧ five.toRat = (5 : Int) ∧
      ComesTo (minusThirteen.add? five) (-8) ∧ ComesTo (minusThirteen.sub? five) (-18) ∧
      ComesTo (minusThirteen.mul? five) (-65) ∧ ComesTo (minusThirteen.rem? five) (-3) := by
  have isLeft : (Number.double (.ofWhole ⟨-13, by decide, by decide⟩)).toRat = (-13 : Int) :=
    Double.toRat_eq_intCast_iff.mpr (by decide +kernel)
  have isRight : (Number.whole ⟨5, by decide, by decide⟩).toRat = (5 : Int) := rfl
  obtain ⟨sum, difference, product, remainder⟩ :=
    arithmetic_of_small isLeft isRight (by decide) (by decide)
  exact ⟨isLeft, isRight, sum (by decide), difference (by decide), product (by decide),
    remainder (by decide)⟩

end Number

end RuleAtoms
