/-
**Where arithmetic leaves the range of numbers.**

A step of arithmetic on two whole numbers has no result when the exact one does not fit in 64 bits. On
doubles it has none when the nearest double would be infinite. That is so from `2 ^ 1024 - 2 ^ 970` on,
half a spacing below the first power of two that is too large: the even neighbour there is that power.

* `halfEven_lt_iff`: when rounding stays below an even number;
* `nearest_lt_limit_iff`: hence when it stays below the limit of doubles;
* `add?_eq_none_iff`, `sub?_eq_none_iff`, `mul?_eq_none_iff`: when doubles have no sum, difference or
  product, by the exact result;
* `rem?_eq_none_iff`: a remainder of doubles never leaves the range;
* `combine?_eq_none_iff`: when a step of arithmetic on numbers overflows;
* `Number.rem?_eq_none_iff`, `Number.abs?_eq_none_iff`: when numbers have no remainder or no absolute
  value.
-/

import Mathlib.Algebra.Order.Field.Basic
import Mathlib.Tactic.Ring
import RuleAtoms.Proofs.Number.ExactArithmetic
import RuleAtoms.Proofs.Number.ExactValue
import RuleAtoms.Proofs.Number.WholeRange

namespace RuleAtoms

namespace Rounding

variable {numerator denominator : Nat}

/-- **Rounding stays below an even number** as long as the quotient is nearer to the number before it:
half way between them it goes up to the even one. -/
theorem halfEven_lt_iff {bound : Nat} (positive : 0 < denominator) (even : bound % 2 = 0)
    (nonzero : 0 < bound) :
    halfEven numerator denominator < bound ↔ 2 * numerator < (2 * bound - 1) * denominator := by
  have parts := Nat.div_add_mod numerator denominator
  have remainder := Nat.mod_lt numerator positive
  have upper := halfEven_le numerator denominator
  have lower := le_halfEven numerator denominator
  obtain ⟨previous, rfl⟩ : ∃ previous, bound = previous + 1 :=
    ⟨bound - 1, (Nat.sub_add_cancel nonzero).symm⟩
  have odd : 2 * (previous + 1) - 1 = 2 * previous + 1 := by omega
  rw [odd, Nat.add_mul, Nat.one_mul, Nat.mul_assoc]
  rcases Nat.lt_trichotomy (numerator / denominator) previous with below | same | above
  · have gap : denominator * (numerator / denominator + 1) ≤ previous * denominator := by
      rw [Nat.mul_comm]
      exact Nat.mul_le_mul_right denominator below
    rw [Nat.mul_add, Nat.mul_one] at gap
    exact iff_of_true (by omega) (by omega)
  · unfold halfEven
    simp only [same] at parts ⊢
    rw [Nat.mul_comm] at parts
    split <;> omega
  · have gap : (previous + 1) * denominator ≤ denominator * (numerator / denominator) := by
      rw [Nat.mul_comm denominator]
      exact Nat.mul_le_mul_right denominator above
    rw [Nat.add_mul, Nat.one_mul] at gap
    exact iff_of_false (by omega) (by omega)

/-- Rounding a quotient does not fall below rounding its whole part. -/
theorem nearest_div_le_nearest (numerator : Nat) (positive : 0 < denominator) :
    nearest (numerator / denominator) 1 ≤ nearest numerator denominator := by
  unfold nearest
  simp only [Nat.div_one, Nat.one_mul]
  refine Nat.mul_le_mul_left _ ?_
  calc halfEven (numerator / denominator) (spacing (numerator / denominator))
      = halfEven (numerator / denominator * denominator)
          (spacing (numerator / denominator) * denominator) :=
        (halfEven_mul_right _ _ positive).symm
    _ ≤ halfEven numerator (spacing (numerator / denominator) * denominator) :=
        halfEven_le_halfEven _ (Nat.div_mul_le_self numerator denominator)
    _ = halfEven numerator (denominator * spacing (numerator / denominator)) := by
        rw [Nat.mul_comm]

end Rounding

namespace Double

open Rounding

/-- The least magnitude that is nearer to the limit of doubles than to any double, in units. -/
def overflowBound : Nat := (2 * twoPow 53 - 1) * twoPow 2044

theorem overflowBound_lt_limit : overflowBound < limit := by
  have isLimit : limit = 2 * twoPow 53 * twoPow 2044 := by
    rw [← twoPow_succ, ← twoPow_add]
    rfl
  rw [isLimit]
  exact Nat.mul_lt_mul_of_pos_right (by decide) (twoPow_pos 2044)

theorem twoPow_le_overflowBound : twoPow 2097 ≤ overflowBound := by
  have isPower : twoPow 2097 = twoPow 53 * twoPow 2044 := twoPow_add 53 2044
  rw [isPower]
  exact Nat.mul_le_mul_right _ (by decide)

variable {numerator denominator : Nat}

theorem nearest_limit : nearest limit 1 = limit := by
  refine nearest_of_onGrid ?_
  have grid : OnGrid (twoPow limitExponent * 1) := onGrid_of_le (by decide)
  rwa [Nat.mul_one] at grid

/-- In the last binade of doubles, the spacing is a `2 ^ 53`-th of the limit. -/
theorem spacing_of_last {units : Nat} (above : twoPow 2097 ≤ units) (below : units < limit) :
    spacing units = twoPow 2045 := by
  have positive : 0 < units := Nat.lt_of_lt_of_le (twoPow_pos 2097) above
  have logBelow : units.log2 < 2098 := (log2_lt_iff positive).mpr below
  have logAbove : ¬ units.log2 < 2097 := fun small =>
    Nat.not_lt.mpr above ((log2_lt_iff positive).mp small)
  have log : units.log2 = 2097 := by omega
  unfold spacing
  rw [log]

/-- **When a quotient rounds to a double.** The limit is an even number of spacings of the last
binade. -/
theorem nearest_lt_limit_iff (positive : 0 < denominator) :
    nearest numerator denominator < limit ↔ numerator < overflowBound * denominator := by
  have wholePart : numerator / denominator * denominator ≤ numerator :=
    Nat.div_mul_le_self numerator denominator
  by_cases small : numerator / denominator < twoPow 2097
  · have rounded := nearest_le_twoPow (by decide) small
    have room : twoPow 2097 < limit := twoPow_lt_limit (by decide)
    refine iff_of_true (Nat.lt_of_le_of_lt rounded room) ?_
    calc numerator < (numerator / denominator + 1) * denominator :=
          Nat.lt_mul_of_div_lt (Nat.lt_succ_self _) positive
      _ ≤ overflowBound * denominator :=
          Nat.mul_le_mul_right _ (Nat.le_trans small twoPow_le_overflowBound)
  · by_cases large : limit ≤ numerator / denominator
    · refine iff_of_false (Nat.not_lt.mpr ?_) (Nat.not_lt.mpr ?_)
      · calc limit = nearest limit 1 := nearest_limit.symm
          _ ≤ nearest (numerator / denominator) 1 := nearest_le_nearest large
          _ ≤ nearest numerator denominator := nearest_div_le_nearest numerator positive
      · calc overflowBound * denominator
            ≤ numerator / denominator * denominator :=
              Nat.mul_le_mul_right _ (Nat.le_trans (Nat.le_of_lt overflowBound_lt_limit) large)
          _ ≤ numerator := wholePart
    · have step := spacing_of_last (Nat.not_lt.mp small) (Nat.not_le.mp large)
      have limitSteps : limit = twoPow 2045 * twoPow 53 := twoPow_add 2045 53
      have halves : twoPow 2045 = 2 * twoPow 2044 := twoPow_succ 2044
      have bound : (2 * twoPow 53 - 1) * (denominator * (2 * twoPow 2044)) =
          2 * (overflowBound * denominator) := by
        unfold overflowBound
        ring
      unfold nearest
      dsimp only
      rw [step, limitSteps, Nat.mul_lt_mul_left (twoPow_pos 2045),
        halfEven_lt_iff (Nat.mul_pos positive (twoPow_pos 2045)) (by decide) (twoPow_pos 53), halves,
        bound]
      omega

theorem ofRatio?_eq_none_iff {negative : Bool} (positive : 0 < denominator) :
    ofRatio? negative numerator denominator = none ↔ overflowBound * denominator ≤ numerator := by
  unfold ofRatio?
  rw [← Nat.not_lt, ← nearest_lt_limit_iff positive]
  by_cases finite : nearest numerator denominator < limit
  · rw [dif_pos finite]
    exact iff_of_false (fun failed => nomatch failed) (not_not.mpr finite)
  · rw [dif_neg finite]
    exact iff_of_true rfl finite

/-! ### In terms of exact values -/

theorem cast_twoPow (exponent : Nat) : (twoPow exponent : ℚ) = 2 ^ exponent := by
  unfold twoPow
  exact_mod_cast Nat.cast_pow 2 exponent

/-- The bound as an exact value. -/
theorem cast_overflowBound : (overflowBound : ℚ) = (2 ^ 1024 - 2 ^ 970) * one := by
  have parts : overflowBound + twoPow 970 * one = twoPow 1024 * one := by decide +kernel
  have castParts : (overflowBound : ℚ) + twoPow 970 * one = twoPow 1024 * one := by
    exact_mod_cast parts
  rw [sub_mul, ← cast_twoPow, ← cast_twoPow, ← castParts, add_sub_cancel_right]

theorem one_pos_rat : (0 : ℚ) < one := Nat.cast_pos.mpr (twoPow_pos oneExponent)

variable {first second : Double}

theorem abs_toRat (double : Double) : |double.toRat| = double.units / one := by
  unfold toRat
  rw [abs_div, Nat.abs_cast, ← natAbs_toInt, Nat.cast_natAbs, Int.cast_abs]

/-- **When doubles have no sum.** -/
theorem add?_eq_none_iff :
    add? first second = none ↔ 2 ^ 1024 - 2 ^ 970 ≤ |first.toRat + second.toRat| := by
  have sum : |first.toRat + second.toRat| = (first.toInt + second.toInt).natAbs / (one : ℚ) := by
    unfold toRat
    rw [← add_div, abs_div, Nat.abs_cast, Nat.cast_natAbs, Int.cast_abs, Int.cast_add]
  unfold add? ofInt?
  rw [ofRatio?_eq_none_iff Nat.one_pos, Nat.mul_one, sum, le_div_iff₀ one_pos_rat,
    ← cast_overflowBound, Nat.cast_le]

/-- **When doubles have no difference.** -/
theorem sub?_eq_none_iff :
    sub? first second = none ↔ 2 ^ 1024 - 2 ^ 970 ≤ |first.toRat - second.toRat| := by
  unfold sub?
  rw [add?_eq_none_iff, toRat_neg, sub_eq_add_neg first.toRat]

/-- **When doubles have no product.** -/
theorem mul?_eq_none_iff :
    mul? first second = none ↔ 2 ^ 1024 - 2 ^ 970 ≤ |first.toRat * second.toRat| := by
  have onePositive : 0 < one := twoPow_pos oneExponent
  unfold mul?
  rw [ofRatio?_eq_none_iff onePositive, abs_mul, abs_toRat, abs_toRat,
    div_mul_div_comm, le_div_iff₀ (mul_pos one_pos_rat one_pos_rat), ← mul_assoc,
    ← cast_overflowBound]
  exact_mod_cast Iff.rfl

/-- **Doubles have a remainder but for a zero divisor**: it is no greater than the dividend. -/
theorem rem?_eq_none_iff : rem? first second = none ↔ second.toRat = 0 := by
  have finite : nearest (first.units % second.units) 1 < limit := by
    calc nearest (first.units % second.units) 1
        ≤ nearest first.units 1 := nearest_le_nearest (Nat.mod_le _ _)
      _ = first.units := nearest_of_onGrid first.onGrid
      _ < limit := first.finite
  rw [toRat_eq_zero_iff, ← Int.natAbs_eq_zero, natAbs_toInt]
  unfold rem?
  by_cases zero : second.units = 0
  · rw [if_pos zero]
    exact iff_of_true rfl zero
  · rw [if_neg zero, ofRatio?, dif_pos finite]
    exact iff_of_false (fun failed => nomatch failed) zero

end Double

namespace Number

variable {first second : Number}

/-- Whether a step of arithmetic leaves the range of numbers: the exact result of two whole numbers is
none of 64 bits, or that of two doubles is so large that the nearest double would be infinite. -/
def Overflows (exact : ℚ → ℚ → ℚ) : Number → Number → Prop
  | .whole first, .whole second =>
    ¬ ∃ result : Whole, (result.toInt : ℚ) = exact first.toInt second.toInt
  | first, second => 2 ^ 1024 - 2 ^ 970 ≤ |exact first.toDouble.toRat second.toDouble.toRat|

/-- **When a step of arithmetic on numbers has no result.** -/
theorem combine?_eq_none_iff {operation : Int → Int → Int}
    {onDoubles : Double → Double → Option Double} {exact : ℚ → ℚ → ℚ}
    (wholly : ∀ left right : Int, ((operation left right : Int) : ℚ) = exact left right)
    (doubly : ∀ left right, onDoubles left right = none ↔
      2 ^ 1024 - 2 ^ 970 ≤ |exact left.toRat right.toRat|) :
    combine? (fun left right => Whole.ofInt? (operation left.toInt right.toInt)) onDoubles first
      second = none ↔ Overflows exact first second := by
  have asDoubles : (onDoubles first.toDouble second.toDouble).map Number.double = none ↔
      2 ^ 1024 - 2 ^ 970 ≤ |exact first.toDouble.toRat second.toDouble.toRat| := by
    rw [Option.map_eq_none_iff, doubly]
  cases first with
  | double left => exact asDoubles
  | whole left =>
    cases second with
    | double right => exact asDoubles
    | whole right =>
      show (Whole.ofInt? (operation left.toInt right.toInt)).map Number.whole = none ↔
        ¬ ∃ result : Whole, (result.toInt : ℚ) = exact left.toInt right.toInt
      rw [Option.map_eq_none_iff, Option.eq_none_iff_forall_ne_some, ← wholly, not_exists]
      refine forall_congr' fun result => not_congr ?_
      rw [Whole.ofInt?_eq_some_iff, Int.cast_inj]

theorem add?_eq_none_iff : first.add? second = none ↔ Overflows (· + ·) first second :=
  combine?_eq_none_iff Int.cast_add fun _ _ => Double.add?_eq_none_iff

theorem sub?_eq_none_iff : first.sub? second = none ↔ Overflows (· - ·) first second :=
  combine?_eq_none_iff Int.cast_sub fun _ _ => Double.sub?_eq_none_iff

theorem mul?_eq_none_iff : first.mul? second = none ↔ Overflows (· * ·) first second :=
  combine?_eq_none_iff Int.cast_mul fun _ _ => Double.mul?_eq_none_iff

/-- **When numbers have no remainder**: the divisor is zero, or the quotient of two whole numbers is
the one that does not fit. -/
theorem rem?_eq_none_iff : first.rem? second = none ↔
    second.toRat = 0 ∨ (first = .whole .least ∧ second = .whole .minusOne) := by
  have asDoubles : (first.toDouble.rem? second.toDouble).map Number.double = none ↔
      second.toRat = 0 := by
    rw [Option.map_eq_none_iff, Double.rem?_eq_none_iff, toRat_toDouble_eq_zero_iff]
  cases first with
  | double left => exact asDoubles.trans (or_iff_left fun ⟨isLeast, _⟩ => nomatch isLeast).symm
  | whole left =>
    cases second with
    | double right => exact asDoubles.trans (or_iff_left fun ⟨_, isOne⟩ => nomatch isOne).symm
    | whole right =>
      show (left.rem? right).map Number.whole = none ↔ _
      rw [Option.map_eq_none_iff, Whole.rem?_eq_none_iff, Number.whole.injEq, Number.whole.injEq]
      exact or_congr_left Int.cast_eq_zero.symm

/-- **When a number has no absolute value**: only the least whole number has none. -/
theorem abs?_eq_none_iff {number : Number} : number.abs? = none ↔ number = .whole .least := by
  cases number with
  | double double => exact iff_of_false (fun failed => nomatch failed) fun same => nomatch same
  | whole whole =>
    show whole.abs?.map Number.whole = none ↔ _
    rw [Option.map_eq_none_iff, Whole.abs?_eq_none_iff, Number.whole.injEq]

end Number

end RuleAtoms
