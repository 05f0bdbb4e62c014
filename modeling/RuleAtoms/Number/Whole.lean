/-
**Whole numbers of 64 bits.**

A `Whole` is an integer together with the proof that it fits in 64 bits with a sign. Arithmetic is
the arithmetic of the integers, and has no result when the exact value does not fit.

* `ofInt?_eq_some_iff`: which integers are whole numbers in this sense.
-/

namespace RuleAtoms

/-- An integer that fits in 64 bits with a sign. -/
@[ext] structure Whole where
  toInt : Int
  lower : -9223372036854775808 ≤ toInt
  upper : toInt ≤ 9223372036854775807
deriving DecidableEq

namespace Whole

/-- The whole number with the given value, if the value fits. -/
def ofInt? (value : Int) : Option Whole :=
  if fits : -9223372036854775808 ≤ value ∧ value ≤ 9223372036854775807 then
    some ⟨value, fits.1, fits.2⟩
  else none

theorem ofInt?_eq_some_iff {value : Int} {whole : Whole} :
    ofInt? value = some whole ↔ whole.toInt = value := by
  obtain ⟨number, lower, upper⟩ := whole
  simp only [ofInt?]
  split
  · simp [eq_comm]
  · rename_i outside
    constructor
    · simp
    · rintro rfl
      exact absurd ⟨lower, upper⟩ outside

@[simp] theorem ofInt?_toInt (whole : Whole) : ofInt? whole.toInt = some whole :=
  ofInt?_eq_some_iff.mpr rfl

def zero : Whole := ⟨0, by decide, by decide⟩

def add? (first second : Whole) : Option Whole := ofInt? (first.toInt + second.toInt)

def sub? (first second : Whole) : Option Whole := ofInt? (first.toInt - second.toInt)

def mul? (first second : Whole) : Option Whole := ofInt? (first.toInt * second.toInt)

/-- The remainder that goes with the quotient truncated toward zero; it has the sign of the
dividend. There is none for a zero divisor, nor when the quotient does not fit. -/
def rem? (dividend divisor : Whole) : Option Whole :=
  if divisor.toInt = 0 then none
  else (ofInt? (dividend.toInt.tdiv divisor.toInt)).bind fun _ =>
    ofInt? (dividend.toInt.tmod divisor.toInt)

def abs? (whole : Whole) : Option Whole := ofInt? whole.toInt.natAbs

end Whole

end RuleAtoms
