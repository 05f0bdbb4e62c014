/-
**How far numbers are in order.**

Two whole numbers compare exactly, any other pair as doubles. Rounding keeps the order of whole
numbers, so every comparison agrees with the one of the doubles, except that it may tell whole numbers
apart that round to the same double. That is where the order fails to be transitive, and nowhere else:
from one whole number through a double to another, when both round to this double.

* `toInt_toDouble_le`: numbers in order are in order as doubles;
* `isLE_of_toInt_toDouble_le`: the converse, unless both are whole;
* `isLE_trans_iff`: **where the order is transitive**;
* `eq_trans_iff`: **where equality is**.
-/

import RuleAtoms.Number.Basic
import RuleAtoms.Proofs.Number.Nearest

namespace RuleAtoms

/-- Two whole numbers that a double does not tell apart: they differ, and both round to it. -/
structure Double.Blurs (double : Double) (first second : Whole) : Prop where
  different : first ≠ second
  nearFirst : (Double.ofWhole first).toInt = double.toInt
  nearSecond : (Double.ofWhole second).toInt = double.toInt

/-- Numbers below `2 ^ 53` are always told apart. -/
theorem Double.Blurs.large {double : Double} {first second : Whole}
    (blurs : double.Blurs first second) :
    twoPow 53 ≤ first.toInt.natAbs ∧ twoPow 53 ≤ second.toInt.natAbs :=
  large_of_toInt_ofWhole_eq blurs.different (blurs.nearFirst.trans blurs.nearSecond.symm)

theorem Double.Blurs.symm {double : Double} {first second : Whole}
    (blurs : double.Blurs first second) : double.Blurs second first :=
  ⟨blurs.different.symm, blurs.nearSecond, blurs.nearFirst⟩

namespace Number

variable {first second third : Number}

/-! ### Two numbers -/

theorem compare_swap (first second : Number) :
    first.compare second = (second.compare first).swap := by
  cases first <;> cases second <;> exact Std.OrientedOrd.eq_swap

theorem compare_self (number : Number) : number.compare number = .eq := by
  cases number <;> exact Std.ReflOrd.compare_self

/-- Numbers compare as equal when neither is greater. -/
theorem compare_eq_iff : first.compare second = .eq ↔
    (first.compare second).isLE = true ∧ (second.compare first).isLE = true := by
  rw [compare_swap second first]
  cases first.compare second <;> decide

/-- **Numbers in order are in order as doubles.** -/
theorem toInt_toDouble_le (order : (first.compare second).isLE = true) :
    first.toDouble.toInt ≤ second.toDouble.toInt := by
  cases first with
  | double firstDouble => cases second <;> exact Int.isLE_compare.mp order
  | whole firstWhole =>
    cases second with
    | double secondDouble => exact Int.isLE_compare.mp order
    | whole secondWhole => exact Double.toInt_ofWhole_le (Int.isLE_compare.mp order)

/-- Equal numbers are equal as doubles. -/
theorem toInt_toDouble_eq (same : first.compare second = .eq) :
    first.toDouble.toInt = second.toDouble.toInt := by
  obtain ⟨up, down⟩ := compare_eq_iff.mp same
  exact Int.le_antisymm (toInt_toDouble_le up) (toInt_toDouble_le down)

/-- Numbers whose doubles are in order are in order, unless they are whole numbers in the wrong order
with the same double. -/
theorem isLE_of_toInt_toDouble_le (order : first.toDouble.toInt ≤ second.toDouble.toInt) :
    (first.compare second).isLE = true ∨
      ∃ high low, first = .whole high ∧ second = .whole low ∧ low.toInt < high.toInt ∧
        (Double.ofWhole high).toInt = (Double.ofWhole low).toInt := by
  cases first with
  | double firstDouble => cases second <;> exact Or.inl (Int.isLE_compare.mpr order)
  | whole high =>
    cases second with
    | double secondDouble => exact Or.inl (Int.isLE_compare.mpr order)
    | whole low =>
      rcases Int.lt_or_le low.toInt high.toInt with above | below
      · have reverse := Double.toInt_ofWhole_le (Int.le_of_lt above)
        exact Or.inr ⟨high, low, rfl, rfl, above, Int.le_antisymm order reverse⟩
      · exact Or.inl (Int.isLE_compare.mpr below)

/-! ### Three numbers -/

/-- Whole numbers on both sides of a double that does not tell them apart. -/
def Blurred (first second third : Number) (left right : Whole) : Prop :=
  ∃ double, first = .whole left ∧ second = .double double ∧ third = .whole right ∧
    double.Blurs left right

theorem Blurred.symm {left right : Whole} (blurred : Blurred first second third left right) :
    Blurred third second first right left := by
  obtain ⟨double, isLeft, isDouble, isRight, blurs⟩ := blurred
  exact ⟨double, isRight, isDouble, isLeft, blurs.symm⟩

/-- **Where the order is transitive**: unless a greater number comes before a lesser one, and the
double between them does not tell them apart. -/
theorem isLE_trans_iff (firstOrder : (first.compare second).isLE = true)
    (secondOrder : (second.compare third).isLE = true) :
    (first.compare third).isLE = true ↔
      ¬ ∃ greater lesser, lesser.toInt < greater.toInt ∧
        Blurred first second third greater lesser := by
  have firstDoubles := toInt_toDouble_le firstOrder
  have secondDoubles := toInt_toDouble_le secondOrder
  constructor
  · rintro order ⟨greater, lesser, below, double, rfl, -, rfl, -⟩
    have notBelow : greater.toInt ≤ lesser.toInt := Int.isLE_compare.mp order
    omega
  · intro notBlurred
    rcases isLE_of_toInt_toDouble_le (Int.le_trans firstDoubles secondDoubles) with order |
      ⟨greater, lesser, rfl, rfl, below, same⟩
    · exact order
    · cases second with
      | whole middle =>
        have lower : greater.toInt ≤ middle.toInt := Int.isLE_compare.mp firstOrder
        have upper : middle.toInt ≤ lesser.toInt := Int.isLE_compare.mp secondOrder
        omega
      | double middle =>
        have lower : (Double.ofWhole greater).toInt ≤ middle.toInt := firstDoubles
        have upper : middle.toInt ≤ (Double.ofWhole lesser).toInt := secondDoubles
        have blurs : middle.Blurs greater lesser := by
          refine ⟨?_, by omega, by omega⟩
          rintro rfl
          exact Int.lt_irrefl _ below
        exact absurd ⟨greater, lesser, below, middle, rfl, rfl, rfl, blurs⟩ notBlurred

/-- **Where equality is transitive**: unless the double between two whole numbers does not tell them
apart. -/
theorem eq_trans_iff (firstEqual : first.compare second = .eq)
    (secondEqual : second.compare third = .eq) :
    first.compare third = .eq ↔ ¬ ∃ left right, Blurred first second third left right := by
  obtain ⟨firstUp, firstDown⟩ := compare_eq_iff.mp firstEqual
  obtain ⟨secondUp, secondDown⟩ := compare_eq_iff.mp secondEqual
  rw [compare_eq_iff, isLE_trans_iff firstUp secondUp, isLE_trans_iff secondDown firstDown]
  constructor
  · rintro ⟨notAbove, notBelow⟩ ⟨left, right, blurred⟩
    rcases Int.lt_trichotomy right.toInt left.toInt with above | same | below
    · exact notAbove ⟨left, right, above, blurred⟩
    · obtain ⟨double, -, -, -, blurs⟩ := blurred
      exact blurs.different (Whole.ext same.symm)
    · exact notBelow ⟨right, left, below, blurred.symm⟩
  · intro notBlurred
    constructor
    · rintro ⟨greater, lesser, -, blurred⟩
      exact notBlurred ⟨greater, lesser, blurred⟩
    · rintro ⟨greater, lesser, -, blurred⟩
      exact notBlurred ⟨lesser, greater, blurred.symm⟩

end Number

end RuleAtoms
