/-
**Positions as doubles.**

A substring is cut out by comparing doubles: the start and the end, rounded to whole numbers, with the
position of each character. Rounding keeps the order, and it changes no whole number up to `2 ^ 53`. A
start or a length is rounded after one half has been added to it, so that it is certain to stay as it
is only up to `2 ^ 52`: beyond that, one half more lies midway between two doubles.

* `roundUnits_le_roundUnits`, `place_le_place`: rounding keeps the order;
* `mul_one_le_roundPosition`, `roundPosition_le_mul_one`: bounds of what a whole number is rounded to;
* `roundPosition_le_place_iff`: **the start is met exactly**, unless both it and the position are
  beyond `2 ^ 52`;
* `place_lt_end_iff`: **so is the end**, unless the length is beyond `2 ^ 52` and leads back to
  positions that are not that far from the start;
* `place_lt_roundUnits_iff`: in any case it is met where the rounded start and length lead to.
-/

import Mathlib.Algebra.Order.Ring.Int
import RuleAtoms.Predicate.TextFunctions
import RuleAtoms.Proofs.Number.Nearest

namespace RuleAtoms.TextFunctions

open Rounding
open Double hiding one_pos

/-! ### Rounding of integers -/

theorem roundUnits_le_roundUnits {small large : Int} (order : small ≤ large) :
    roundUnits small ≤ roundUnits large := by
  unfold roundUnits
  by_cases smallNegative : small < 0
  · rw [if_pos smallNegative]
    by_cases largeNegative : large < 0
    · rw [if_pos largeNegative]
      have sizes : large.natAbs ≤ small.natAbs := by omega
      exact Int.neg_le_neg (Int.ofNat_le.mpr (nearest_le_nearest sizes))
    · rw [if_neg largeNegative]
      omega
  · have largeNonnegative : ¬ large < 0 := by omega
    rw [if_neg smallNegative, if_neg largeNonnegative]
    have sizes : small.natAbs ≤ large.natAbs := by omega
    exact Int.ofNat_le.mpr (nearest_le_nearest sizes)

/-- A multiple of a power of two by at most 53 bits is not rounded. -/
theorem roundUnits_mul_twoPow {count : Int} (exponent : Nat) (small : count.natAbs ≤ twoPow 53) :
    roundUnits (count * twoPow exponent) = count * twoPow exponent := by
  have size : (count * twoPow exponent).natAbs = twoPow exponent * count.natAbs := by
    rw [Int.natAbs_mul, Int.natAbs_natCast, Nat.mul_comm]
  have unchanged : nearest (count * twoPow exponent).natAbs 1 = (count * twoPow exponent).natAbs :=
    nearest_of_onGrid (size ▸ onGrid_of_le small)
  unfold roundUnits
  rw [unchanged]
  split <;> omega

theorem roundUnits_mul_one {value : Int} (small : value.natAbs ≤ twoPow 53) :
    roundUnits (value * one) = value * one := roundUnits_mul_twoPow oneExponent small

theorem toInt_ofWhole_eq_roundUnits (whole : Whole) :
    (ofWhole whole).toInt = roundUnits (whole.toInt * one) := by
  have sign : whole.toInt * one < 0 ↔ whole.toInt < 0 :=
    ⟨fun negative => Int.neg_of_mul_neg_left negative Double.one_pos,
      fun negative => Int.mul_neg_of_neg_of_pos negative Double.one_pos⟩
  unfold roundUnits
  simp only [toInt_ofWhole, sign, Int.natAbs_mul, Int.natAbs_natCast]

theorem mul_one_le_mul_one {small large : Int} (order : small ≤ large) :
    small * one ≤ large * one := Int.mul_le_mul_of_nonneg_right order Double.one_pos.le

/-! ### Positions of characters -/

theorem place_le_place {small large : Nat} (order : small ≤ large) : place small ≤ place large :=
  roundUnits_le_roundUnits (mul_one_le_mul_one (Int.ofNat_le.mpr order))

theorem place_of_small {position : Nat} (small : position ≤ twoPow 53) :
    place position = position * one := roundUnits_mul_one small

/-- A small position is before every whole number that is greater, however that one is rounded. -/
theorem place_lt_of_mul_one_le {position : Nat} {bound : Int} (small : position < twoPow 53)
    (above : (position + 1 : Int) * one ≤ bound) : place position < bound := by
  rw [place_of_small (Nat.le_of_lt small)]
  exact Int.lt_of_lt_of_le (Int.mul_lt_mul_of_pos_right (Int.lt_succ _) Double.one_pos) above

/-- A position is before a rounded whole number exactly when it is before that number. -/
theorem place_lt_roundUnits_iff {position : Nat} {total : Int} (small : position < twoPow 53) :
    place position < roundUnits (total * one) ↔ (position : Int) < total := by
  constructor
  · intro before
    by_contra notBefore
    exact Int.not_le.mpr before (roundUnits_le_roundUnits (mul_one_le_mul_one (Int.not_lt.mp notBefore)))
  · intro before
    refine place_lt_of_mul_one_le small ?_
    rw [← roundUnits_mul_one (show (position + 1 : Int).natAbs ≤ twoPow 53 by omega)]
    exact roundUnits_le_roundUnits (mul_one_le_mul_one before)

/-! ### Starts and lengths -/

theorem one_eq_two_mul : one = 2 * twoPow 1073 := twoPow_succ 1073

theorem half_one : (one : Int) / 2 = twoPow 1073 := by
  rw [one_eq_two_mul, Int.natCast_mul]
  exact Int.mul_ediv_cancel_left _ (by decide)

/-- A whole number and one half, counted in halves. -/
theorem add_half (value : Int) : value * one + one / 2 = (value * 2 + 1) * twoPow 1073 := by
  rw [half_one, one_eq_two_mul, Int.natCast_mul, Int.add_mul, Int.one_mul, Int.mul_assoc]
  rfl

/-- One half more than a whole number up to `2 ^ 52` leaves that number as its whole part. Midway
between two doubles the even one is taken, which is the number itself. -/
theorem roundUnits_add_half {value : Int} (small : value.natAbs ≤ twoPow 52) :
    roundUnits (value * one + one / 2) / one = value := by
  have size : twoPow 52 = 4503599627370496 := rfl
  have double : twoPow 53 = 9007199254740992 := rfl
  by_cases top : value = 4503599627370496
  · subst top
    decide +kernel
  · rw [add_half, roundUnits_mul_twoPow 1073 (by omega), one_eq_two_mul, Int.natCast_mul,
      Int.mul_ediv_mul_of_pos_left _ _ (Int.ofNat_lt.mpr (twoPow_pos 1073))]
    omega

/-- The whole number to which a start or a length that is one is rounded. -/
def settled (whole : Whole) : Int := roundUnits ((ofWhole whole).toInt + one / 2) / one

theorem settled_of_small {whole : Whole} (small : whole.toInt.natAbs ≤ twoPow 52) :
    settled whole = whole.toInt := by
  unfold settled
  rw [toInt_ofWhole_of_small (Nat.le_trans small (twoPow_le_twoPow (by decide)))]
  exact roundUnits_add_half small

/-- An odd count of halves beyond `2 ^ 53` of them is midway between two doubles, and is rounded to
the one that is an even whole number. -/
theorem nearest_midway {count : Nat} (odd : count % 2 = 1) (large : twoPow 53 < count)
    (fits : count < twoPow 54) :
    nearest (count * twoPow 1073) 1 = (count / 2 + count / 2 % 2) * one := by
  have positive : 0 < count * twoPow 1073 := Nat.mul_pos (by omega) (twoPow_pos 1073)
  have log : (count * twoPow 1073).log2 = 1126 := by
    have below : (count * twoPow 1073).log2 < 54 + 1073 := by
      rw [log2_lt_iff positive, twoPow_add]
      exact Nat.mul_lt_mul_of_pos_right fits (twoPow_pos 1073)
    have notBelow : ¬ (count * twoPow 1073).log2 < 53 + 1073 := by
      rw [log2_lt_iff positive, twoPow_add, Nat.not_lt]
      exact Nat.mul_le_mul_right _ (Nat.le_of_lt large)
    omega
  have quotient : count * twoPow 1073 / one = count / 2 := by
    rw [one_eq_two_mul, Nat.mul_div_mul_right _ _ (twoPow_pos 1073)]
  have remainder : count * twoPow 1073 % one = twoPow 1073 := by
    rw [one_eq_two_mul, Nat.mul_mod_mul_right, odd, Nat.one_mul]
  have tie : halfEven (count * twoPow 1073) one = count / 2 + count / 2 % 2 := by
    unfold halfEven
    simp only [quotient, remainder]
    rw [one_eq_two_mul]
    split <;> omega
  unfold nearest spacing
  simp only [Nat.div_one, Nat.one_mul, log]
  rw [← tie, Nat.mul_comm]
  rfl

/-- **Between `2 ^ 52` and `2 ^ 53`** a start or a length that is odd is raised by one. -/
theorem settled_of_middle {whole : Whole} (large : twoPow 52 < whole.toInt.natAbs)
    (fits : whole.toInt.natAbs < twoPow 53) :
    settled whole = whole.toInt + whole.toInt % 2 := by
  have size : twoPow 52 = 4503599627370496 := rfl
  have double : twoPow 53 = 9007199254740992 := rfl
  have quadruple : twoPow 54 = 18014398509481984 := rfl
  have odd : (whole.toInt * 2 + 1).natAbs % 2 = 1 := by omega
  have rounded := nearest_midway odd (by omega) (by omega)
  have step : (0 : Int) < twoPow 1073 := Int.ofNat_lt.mpr (twoPow_pos 1073)
  have sum : roundUnits (whole.toInt * one + one / 2) = (whole.toInt + whole.toInt % 2) * one := by
    unfold roundUnits
    rw [add_half, Int.natAbs_mul, Int.natAbs_natCast, rounded, Int.natCast_mul]
    by_cases negative : whole.toInt < 0
    · rw [if_pos (Int.mul_neg_of_neg_of_pos (by omega) step), ← Int.neg_mul]
      congr 1
      omega
    · rw [if_neg (Int.not_lt.mpr (Int.mul_nonneg (by omega) step.le))]
      congr 1
      omega
  unfold settled
  rw [toInt_ofWhole_of_small (Nat.le_of_lt fits), sum,
    Int.mul_ediv_cancel _ (Int.ne_of_gt Double.one_pos)]

section wholes

variable (whole : Whole) (value : Int)

/-- A whole number is not rounded below a lesser one up to `2 ^ 53`. -/
theorem mul_one_le_roundPosition (small : value.natAbs ≤ twoPow 53) (below : value ≤ whole.toInt) :
    value * one ≤ roundPosition (ofWhole whole) := by
  have asDouble : value * one ≤ (ofWhole whole).toInt := by
    rw [toInt_ofWhole_eq_roundUnits, ← roundUnits_mul_one small]
    exact roundUnits_le_roundUnits (mul_one_le_mul_one below)
  have withHalf : value * one ≤ roundUnits ((ofWhole whole).toInt + one / 2) := by
    rw [← roundUnits_mul_one small]
    refine roundUnits_le_roundUnits ?_
    have nonneg : (0 : Int) ≤ one / 2 := Int.ediv_nonneg Double.one_pos.le (by decide)
    omega
  exact mul_one_le_mul_one ((Int.le_ediv_iff_mul_le Double.one_pos).mpr withHalf)

/-- A whole number is not rounded above a greater one up to `2 ^ 52`. -/
theorem roundPosition_le_mul_one (small : value.natAbs ≤ twoPow 52) (above : whole.toInt ≤ value) :
    roundPosition (ofWhole whole) ≤ value * one := by
  have wider : value.natAbs ≤ twoPow 53 := Nat.le_trans small (twoPow_le_twoPow (by decide))
  have asDouble : (ofWhole whole).toInt ≤ value * one := by
    rw [toInt_ofWhole_eq_roundUnits, ← roundUnits_mul_one wider]
    exact roundUnits_le_roundUnits (mul_one_le_mul_one above)
  refine mul_one_le_mul_one ?_
  rw [← roundUnits_add_half small]
  exact Int.ediv_le_ediv Double.one_pos (roundUnits_le_roundUnits (Int.add_le_add_right asDouble _))

end wholes

/-! ### Where start and end are met -/

section bounds

variable {first count : Whole} {position : Nat}

/-- **The start is met exactly**, unless both it and the position are beyond `2 ^ 52`. A start far in
front of the text is met wherever it is rounded to. -/
theorem roundPosition_le_place_iff
    (told : first.toInt ≤ twoPow 52 ∨ position ≤ twoPow 52) :
    roundPosition (ofWhole first) ≤ place position ↔ first.toInt ≤ position := by
  have size : twoPow 52 = 4503599627370496 := rfl
  have double : twoPow 53 = 9007199254740992 := rfl
  constructor
  · intro reached
    by_contra notReached
    have above := mul_one_le_roundPosition first (position + 1) (by omega) (by omega)
    exact Int.not_lt.mpr reached (place_lt_of_mul_one_le (by omega) above)
  · intro reached
    calc roundPosition (ofWhole first)
        ≤ max first.toInt (-twoPow 52) * one :=
          roundPosition_le_mul_one first _ (by omega) (by omega)
      _ = roundUnits (max first.toInt (-twoPow 52) * one) := (roundUnits_mul_one (by omega)).symm
      _ ≤ place position := roundUnits_le_roundUnits (mul_one_le_mul_one (by omega))

/-- **The end is met exactly** behind a start up to `2 ^ 52`, if the length is not beyond `2 ^ 52`
either, or the position is less than `2 ^ 52` behind the start. Rounding raises no bound above zero
that is far below, and a length beyond `2 ^ 52` leads at least as far as one of `2 ^ 52`. -/
theorem place_lt_end_iff (reached : first.toInt ≤ position) (near : first.toInt ≤ twoPow 52)
    (told : count.toInt ≤ twoPow 52 ∨ position < first.toInt + twoPow 52) :
    place position < roundUnits (roundPosition (ofWhole first) + roundPosition (ofWhole count)) ↔
      position < first.toInt + count.toInt := by
  have size : twoPow 52 = 4503599627370496 := rfl
  have double : twoPow 53 = 9007199254740992 := rfl
  constructor
  · intro before
    by_contra notBefore
    have bound := Int.add_le_add
      (roundPosition_le_mul_one first (max first.toInt (-twoPow 52)) (by omega) (by omega))
      (roundPosition_le_mul_one count (max count.toInt (-twoPow 52)) (by omega) (by omega))
    rw [← Int.add_mul] at bound
    refine Int.not_le.mpr before (roundUnits_le_roundUnits (Int.le_trans bound ?_))
    exact mul_one_le_mul_one (by omega)
  · intro before
    have bound := Int.add_le_add
      (mul_one_le_roundPosition first first.toInt (by omega) (Int.le_refl _))
      (mul_one_le_roundPosition count (min count.toInt (twoPow 52)) (by omega) (by omega))
    rw [← Int.add_mul] at bound
    refine place_lt_of_mul_one_le (by omega) ?_
    rw [← roundUnits_mul_one (show (position + 1 : Int).natAbs ≤ twoPow 53 by omega)]
    exact roundUnits_le_roundUnits (Int.le_trans (mul_one_le_mul_one (by omega)) bound)

end bounds

end RuleAtoms.TextFunctions
