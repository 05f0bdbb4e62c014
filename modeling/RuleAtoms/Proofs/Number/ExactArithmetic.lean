/-
**Where the arithmetic of doubles is exact.**

Whole numbers up to `2 ^ 53` are doubles themselves. As long as a sum or a product of them stays as
small, the exact result is a double too, so that rounding does not change it. What remains is the
sign of zero: a product that vanishes is a negative zero when one factor is negative.

* `nearest_mul_right`: rounding depends on a quotient only;
* `add?_ofWhole`, `mul?_ofWhole`: sums and products of small whole numbers as doubles.
-/

import Mathlib.Algebra.Order.Ring.Int
import RuleAtoms.Proofs.Number.Nearest

namespace RuleAtoms

namespace Rounding

/-! ### Quotients in other terms -/

theorem halfEven_mul_right (numerator denominator : Nat) {factor : Nat} (positive : 0 < factor) :
    halfEven (numerator * factor) (denominator * factor) = halfEven numerator denominator := by
  simp only [halfEven]
  rw [Nat.mul_div_mul_right _ _ positive, Nat.mul_mod_mul_right, ← Nat.mul_assoc]
  simp only [Nat.mul_lt_mul_right positive, Nat.mul_left_inj (Nat.ne_of_gt positive)]

/-- **Rounding depends on the quotient**, not on the terms in which it is given. -/
theorem nearest_mul_right (numerator denominator : Nat) {factor : Nat} (positive : 0 < factor) :
    nearest (numerator * factor) (denominator * factor) = nearest numerator denominator := by
  simp only [nearest]
  rw [Nat.mul_div_mul_right _ _ positive, Nat.mul_right_comm, halfEven_mul_right _ _ positive]

end Rounding

namespace Double

open Rounding

theorem ofRatio?_mul_right (negative : Bool) (numerator denominator : Nat) {factor : Nat}
    (positive : 0 < factor) : ofRatio? negative (numerator * factor) (denominator * factor) =
      ofRatio? negative numerator denominator := by
  unfold ofRatio?
  simp only [nearest_mul_right numerator denominator positive]

/-- The product of doubles of integral magnitudes is that of the magnitudes, rounded. -/
theorem mul?_of_units {first second : Double} {left right : Nat} (isLeft : first.units = left * one)
    (isRight : second.units = right * one) : mul? first second =
      ofRatio? (first.negative != second.negative) (left * right * one) 1 := by
  have terms : left * one * (right * one) = left * right * one * one := by
    rw [Nat.mul_mul_mul_comm, Nat.mul_assoc _ one one]
  unfold mul?
  rw [isLeft, isRight, terms]
  exact (congrArg _ (Nat.one_mul one).symm).trans
    (ofRatio?_mul_right _ _ 1 (twoPow_pos oneExponent))

/-! ### Small whole numbers -/

variable {first second result : Whole}

/-- What rounds to the magnitude of a whole number, with its sign, is the double of it. -/
theorem ofRatio?_eq_ofWhole {negative : Bool} {numerator denominator : Nat}
    (sign : negative = decide (result.toInt < 0))
    (units : nearest numerator denominator = (ofWhole result).units) :
    ofRatio? negative numerator denominator = some (ofWhole result) := by
  unfold ofRatio?
  rw [dif_pos (units ▸ (ofWhole result).finite), Option.some.injEq]
  exact Double.ext sign units

/-- **Small whole numbers are added exactly.** -/
theorem add?_ofWhole (firstSmall : first.toInt.natAbs ≤ twoPow 53)
    (secondSmall : second.toInt.natAbs ≤ twoPow 53)
    (isSum : result.toInt = first.toInt + second.toInt) :
    add? (ofWhole first) (ofWhole second) = some (ofWhole result) := by
  have exact : first.toInt * one + second.toInt * one = result.toInt * one := by
    rw [isSum, Int.add_mul]
  have vanishes : result.toInt * one = 0 ↔ result.toInt = 0 :=
    Int.mul_eq_zero.trans (or_iff_left (Int.ne_of_gt one_pos))
  unfold add? ofInt?
  rw [toInt_ofWhole_of_small firstSmall, toInt_ofWhole_of_small secondSmall, exact]
  refine ofRatio?_eq_ofWhole ?_ ?_
  · by_cases zero : result.toInt = 0
    · rw [if_pos (vanishes.mpr zero), ofWhole, ofWhole, Bool.eq_iff_iff, Bool.and_eq_true,
        decide_eq_true_eq, decide_eq_true_eq, decide_eq_true_eq]
      omega
    · rw [if_neg fun isZero => zero (vanishes.mp isZero), decide_eq_decide]
      have positive := one_pos
      rw [mul_neg_iff]
      omega
  · rw [Int.natAbs_mul, Int.natAbs_natCast]
    rfl

/-- **Small whole numbers are multiplied exactly**, but for the sign of a product that vanishes.
That one has no sign if neither factor is negative. -/
theorem mul?_ofWhole (firstSmall : first.toInt.natAbs ≤ twoPow 53)
    (secondSmall : second.toInt.natAbs ≤ twoPow 53)
    (isProduct : result.toInt = first.toInt * second.toInt)
    (unsigned : result.toInt = 0 → 0 ≤ first.toInt ∧ 0 ≤ second.toInt) :
    mul? (ofWhole first) (ofWhole second) = some (ofWhole result) := by
  rw [mul?_of_units (units_ofWhole_of_small firstSmall) (units_ofWhole_of_small secondSmall),
    ← Int.natAbs_mul, ← isProduct]
  refine ofRatio?_eq_ofWhole ?_ rfl
  have vanishes : first.toInt = 0 ∨ second.toInt = 0 → result.toInt = 0 := by
    rw [isProduct]
    exact Int.mul_eq_zero.mpr
  rw [ofWhole, ofWhole, Bool.eq_iff_iff, bne_iff_ne, ne_eq, decide_eq_decide, decide_eq_true_eq,
    isProduct, mul_neg_iff]
  omega

end Double

end RuleAtoms
