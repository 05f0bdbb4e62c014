/-
**Finite doubles.**

A `Double` is a finite binary64 number: a sign and a magnitude, counted in units of `2 ^ -1074`,
the least positive double. Zero has both signs. Each operation computes the exact result in these
units and rounds it once; where the rounded result would be infinite there is none.

* `toInt` is the value in units, so the order of doubles is the order of integers;
* `ofWhole` is the double nearest to a whole number.
-/

import RuleAtoms.Number.Rounding
import RuleAtoms.Number.Whole

namespace RuleAtoms

open Rounding

/-- The number one is this power of two, in units. -/
def Double.oneExponent : Nat := 1074

/-- The least power of two that is too large for a double, in units, has this exponent. -/
def Double.limitExponent : Nat := 2098

/-- The least power of two that is too large for a double, in units. -/
def Double.limit : Nat := twoPow Double.limitExponent

/-- A finite binary64 number. -/
@[ext] structure Double where
  negative : Bool
  /-- The magnitude in units of the least positive double. -/
  units : Nat
  onGrid : OnGrid units
  finite : units < Double.limit
deriving DecidableEq

namespace Double

/-- The number one in units. -/
def one : Nat := twoPow oneExponent

/-- The value in units. -/
def toInt (double : Double) : Int := if double.negative then -double.units else double.units

/-- The double nearest to a quotient of units, with a given sign. -/
def ofRatio? (negative : Bool) (numerator denominator : Nat) : Option Double :=
  if finite : nearest numerator denominator < limit then
    some ⟨negative, nearest numerator denominator, nearest_onGrid _ _, finite⟩
  else none

/-- The double nearest to an exact value in units. The sign is asked for zero only. -/
def ofInt? (zeroNegative : Bool) (value : Int) : Option Double :=
  ofRatio? (if value = 0 then zeroNegative else decide (value < 0)) value.natAbs 1

def neg (double : Double) : Double := { double with negative := !double.negative }

def abs (double : Double) : Double := { double with negative := false }

/-- A sum that vanishes is a positive zero, unless both summands are negative zeros. -/
def add? (first second : Double) : Option Double :=
  ofInt? (first.negative && second.negative) (first.toInt + second.toInt)

def sub? (first second : Double) : Option Double := add? first second.neg

def mul? (first second : Double) : Option Double :=
  ofRatio? (first.negative != second.negative) (first.units * second.units) one

/-- The exact remainder of the quotient truncated toward zero, with the sign of the dividend. There
is none for a zero divisor. -/
def rem? (dividend divisor : Double) : Option Double :=
  if divisor.units = 0 then none
  else ofRatio? dividend.negative (dividend.units % divisor.units) 1

/-- Doubles compare by value; the two zeros are equal. -/
def compare (first second : Double) : Ordering := Ord.compare first.toInt second.toInt

/-- Whether the value is a whole number. -/
def isWhole (double : Double) : Bool := double.units % one == 0

/-- The value, if it is a whole number of 64 bits. -/
def toWhole? (double : Double) : Option Whole :=
  if double.isWhole then Whole.ofInt? (double.toInt / one) else none

theorem twoPow_lt_limit {exponent : Nat} (small : exponent < limitExponent) :
    twoPow exponent < limit := twoPow_lt_twoPow small

theorem ofWhole_finite (whole : Whole) :
    nearest (whole.toInt.natAbs * one) 1 < limit := by
  have small : whole.toInt.natAbs < twoPow 64 := by
    have lower := whole.lower
    have upper := whole.upper
    have size : twoPow 64 = 18446744073709551616 := rfl
    omega
  have below : whole.toInt.natAbs * one / 1 < twoPow (64 + oneExponent) := by
    rw [Nat.div_one, twoPow_add, one]
    exact Nat.mul_lt_mul_of_pos_right small (twoPow_pos oneExponent)
  have large : 53 ≤ 64 + oneExponent := by decide
  have room : 64 + oneExponent < limitExponent := by decide
  exact Nat.lt_of_le_of_lt (nearest_le_twoPow large below) (twoPow_lt_limit room)

/-- The double nearest to a whole number. -/
def ofWhole (whole : Whole) : Double :=
  ⟨decide (whole.toInt < 0), nearest (whole.toInt.natAbs * one) 1, nearest_onGrid _ _,
    ofWhole_finite whole⟩

end Double

end RuleAtoms
