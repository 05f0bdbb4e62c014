/-
**The range of whole numbers.**

A whole number has 64 bits with a sign. Which integers fit is said once here, in terms of integers, and
which results of operations do.

* `ofInt?_eq_some_iff_and_fits`: what becomes of an integer;
* `fits_tdiv_iff`: only one truncated quotient does not fit;
* `rem?_eq_some_iff`, `rem?_eq_none_iff`: so there is a remainder but for that one and a zero divisor;
* `abs?_eq_none_iff`: and an absolute value but for the least whole number;
* `fits_of_small`: what 53 bits hold fits.
-/

import Mathlib.Tactic.ByContra
import RuleAtoms.Number.Power
import RuleAtoms.Number.Whole

namespace RuleAtoms

namespace Whole

/-- Whether an integer fits in 64 bits with a sign. -/
def Fits (value : Int) : Prop := -9223372036854775808 ≤ value ∧ value ≤ 9223372036854775807

instance (value : Int) : Decidable (Fits value) := inferInstanceAs (Decidable (_ ∧ _))

/-- The greatest whole number. -/
def greatest : Whole := ⟨9223372036854775807, by decide, by decide⟩

/-- The least whole number. -/
def least : Whole := ⟨-9223372036854775808, by decide, by decide⟩

/-- The whole number of an integer that fits. -/
def ofFits (value : Int) (fits : Fits value) : Whole := ⟨value, fits.1, fits.2⟩

def minusOne : Whole := ofFits (-1) (by decide)

theorem fits (value : Whole) : Fits value.toInt := ⟨value.lower, value.upper⟩

/-- An integer that fits is a whole number. -/
theorem exists_of_fits {value : Int} (fits : Fits value) :
    ∃ whole, ofInt? value = some whole ∧ whole.toInt = value :=
  ⟨ofFits value fits, ofInt?_eq_some_iff.mpr rfl, rfl⟩

theorem fits_of_ofInt? {value : Int} {whole : Whole} (isWhole : ofInt? value = some whole) :
    Fits value := ofInt?_eq_some_iff.mp isWhole ▸ whole.fits

theorem ofInt?_eq_some_iff_and_fits {value : Int} {whole : Whole} :
    ofInt? value = some whole ↔ whole.toInt = value ∧ Fits whole.toInt := by
  rw [ofInt?_eq_some_iff]
  exact ⟨fun same => ⟨same, whole.fits⟩, And.left⟩

/-- The truncated quotient of whole numbers fits, unless it is that of the least one by minus
one. -/
theorem fits_tdiv_iff {dividend divisor : Int} (fits : Fits dividend) (nonzero : divisor ≠ 0) :
    Fits (dividend.tdiv divisor) ↔ ¬ (dividend = -9223372036854775808 ∧ divisor = -1) := by
  unfold Fits at fits ⊢
  by_cases unit : divisor.natAbs = 1
  · obtain rfl | rfl : divisor = 1 ∨ divisor = -1 := by omega
    · rw [Int.tdiv_one]
      omega
    · rw [Int.tdiv_neg, Int.tdiv_one]
      omega
  · have halved : (dividend.tdiv divisor).natAbs ≤ dividend.natAbs / 2 := by
      rw [Int.natAbs_tdiv]
      exact Nat.div_le_div_left (by omega) (by decide)
    omega

/-- **The remainder** goes with the truncated quotient, wherever that fits. -/
theorem rem?_eq_some_iff {dividend divisor result : Whole} :
    dividend.rem? divisor = some result ↔
      divisor.toInt ≠ 0 ∧ ¬ (dividend.toInt = -9223372036854775808 ∧ divisor.toInt = -1) ∧
        dividend.toInt = divisor.toInt * dividend.toInt.tdiv divisor.toInt + result.toInt := by
  have division := Int.mul_tdiv_add_tmod dividend.toInt divisor.toInt
  unfold rem?
  by_cases zero : divisor.toInt = 0
  · rw [if_pos zero]
    exact ⟨fun failed => (nomatch failed), fun ⟨nonzero, _⟩ => absurd zero nonzero⟩
  · rw [if_neg zero, ← fits_tdiv_iff dividend.fits zero, Option.bind_eq_some_iff]
    constructor
    · rintro ⟨quotient, isQuotient, isRemainder⟩
      have same := ofInt?_eq_some_iff.mp isRemainder
      refine ⟨zero, fits_of_ofInt? isQuotient, ?_⟩
      rw [same, division]
    · rintro ⟨-, fits, isExact⟩
      obtain ⟨quotient, isQuotient, -⟩ := exists_of_fits fits
      refine ⟨quotient, isQuotient, ofInt?_eq_some_iff.mpr ?_⟩
      omega

theorem rem?_eq_none_iff {dividend divisor : Whole} :
    dividend.rem? divisor = none ↔
      divisor.toInt = 0 ∨ (dividend = least ∧ divisor = minusOne) := by
  rw [Whole.ext_iff, Whole.ext_iff]
  constructor
  · intro failed
    by_contra defined
    obtain ⟨nonzero, notLeast⟩ := not_or.mp defined
    have fits : Fits (dividend.toInt.tmod divisor.toInt) := by
      have bounded := divisor.fits
      have smaller : (dividend.toInt.tmod divisor.toInt).natAbs < divisor.toInt.natAbs := by
        rw [Int.natAbs_tmod]
        exact Nat.mod_lt _ (Int.natAbs_pos.mpr nonzero)
      unfold Fits at bounded ⊢
      omega
    obtain ⟨result, -, isResult⟩ := exists_of_fits fits
    have found : dividend.rem? divisor = some result := by
      refine rem?_eq_some_iff.mpr ⟨nonzero, notLeast, ?_⟩
      rw [isResult, Int.mul_tdiv_add_tmod]
    cases failed.symm.trans found
  · intro undefined
    refine Option.eq_none_iff_forall_ne_some.mpr fun result found => ?_
    obtain ⟨nonzero, notLeast, -⟩ := rem?_eq_some_iff.mp found
    exact undefined.elim nonzero notLeast

theorem abs?_eq_none_iff {value : Whole} : value.abs? = none ↔ value = least := by
  have bounded := value.fits
  unfold abs? ofInt?
  rw [Whole.ext_iff]
  unfold Fits at bounded
  split
  · rename_i fits
    refine iff_of_false (Option.some_ne_none _) fun isLeast => ?_
    rw [isLeast] at fits
    exact absurd fits (by decide)
  · rename_i outside
    refine iff_of_true rfl ?_
    show value.toInt = -9223372036854775808
    omega

/-- An integer of at most 53 bits fits. -/
theorem fits_of_small {value : Int} (small : value.natAbs ≤ twoPow 53) : Fits value := by
  have size : twoPow 53 = 9007199254740992 := rfl
  unfold Fits
  omega

end Whole

end RuleAtoms
