/-
**The shortest decimal that reads back.**

Among the decimals that round to a given double, `Double.shortest` takes one with the fewest
digits, and of those the nearest; of two equally near ones the one farther from zero. On each
decimal grid only the two neighbours of the value have to be tried.
-/

import RuleAtoms.Number.Decimal

namespace RuleAtoms.Double

/-- The exponent of the leading decimal digit of a positive magnitude. -/
def leadingExponent (units : Nat) : Int :=
  (Nat.toDigits 10 (units * tenPow 324 / one)).length - 325

/-- The value of a magnitude in the unit `10 ^ exponent`, as numerator and denominator. -/
def inUnitsOfTen (units : Nat) (exponent : Int) : Nat × Nat :=
  if exponent < 0 then (units * tenPow (-exponent).toNat, one)
  else (units, one * tenPow exponent.toNat)

/-- Whether a decimal rounds to the double. -/
def readsBack (double : Double) (decimal : Decimal) : Bool := decimal.toDouble? == some double

/-- The decimals of some length on both sides of a value. -/
structure Neighbours where
  below : Decimal
  above : Decimal
  /-- Whether the value is nearer to the one below than to the one above. -/
  belowNearer : Bool

/-- The decimal next to a value that passes, the nearer one if both do. -/
def Neighbours.choose? (neighbours : Neighbours) (passes : Decimal → Bool) : Option Decimal :=
  match passes neighbours.below, passes neighbours.above with
  | true, true => some (if neighbours.belowNearer then neighbours.below else neighbours.above)
  | true, false => some neighbours.below
  | false, true => some neighbours.above
  | false, false => none

/-- The exponent of the last of so many digits. -/
def lastExponent (double : Double) (length : Nat) : Int :=
  leadingExponent double.units - length + 1

/-- The decimals of so many digits next to a double. -/
def neighbours (double : Double) (length : Nat) : Neighbours :=
  let exponent := double.lastExponent length
  let quotient := inUnitsOfTen double.units exponent
  let floor := quotient.1 / quotient.2
  { below := ⟨double.negative, floor, exponent⟩
    above :=
      if floor + 1 = tenPow length then ⟨double.negative, tenPow (length - 1), exponent + 1⟩
      else ⟨double.negative, floor + 1, exponent⟩
    belowNearer := 2 * (quotient.1 % quotient.2) < quotient.2 }

/-- The decimal of so many digits that reads back and is nearest to the value, if there is one. -/
def decimalOfLength? (double : Double) (length : Nat) : Option Decimal :=
  (double.neighbours length).choose? double.readsBack

/-- A decimal with the fewest digits that reads back as the double. Seventeen digits always do. -/
def shortest (double : Double) : Decimal :=
  if double.units = 0 then ⟨double.negative, 0, 0⟩
  else
    ((List.range' 1 17).findSome? double.decimalOfLength?).getD
      ⟨double.negative, double.units / one, 0⟩

/-- The text of a double: its shortest decimal, without an exponent. -/
def text (double : Double) : List Char := double.shortest.positional

/-- The text of a whole-valued double with one decimal place: all of its digits, then `.0`. -/
def wholeText (double : Double) : List Char :=
  (if double.negative then ['-'] else []) ++ Nat.toDigits 10 (double.units / one) ++ ['.', '0']

end RuleAtoms.Double
