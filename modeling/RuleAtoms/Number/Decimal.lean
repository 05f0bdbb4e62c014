/-
**Decimal numbers with a fraction and an exponent.**

A decimal text is an optional sign, digits with an optional point among or beside them, and an
optional exponent to the base ten. Its value is exact; `toDouble?` rounds it once.
-/

import RuleAtoms.Number.Digits
import RuleAtoms.Number.Double

namespace RuleAtoms

/-- The number `± digits · 10 ^ exponent`. -/
structure Decimal where
  negative : Bool
  digits : Nat
  exponent : Int
deriving DecidableEq

namespace Decimal

/-- Reads a decimal text: `12`, `12.`, `.5`, `-1.5e+3`. -/
def read? (text : List Char) : Option Decimal :=
  let (negative, body) := Number.splitSign text
  let isExponentMark := fun c => c == 'e' || c == 'E'
  let mantissa := body.takeWhile (!isExponentMark ·)
  let whole := mantissa.takeWhile (· != '.')
  let fraction := (mantissa.dropWhile (· != '.')).drop 1
  let exponent? :=
    match body.dropWhile (!isExponentMark ·) with
    | [] => some 0
    | _ :: signed => Number.readInt? signed
  match Number.readDigits? (whole ++ fraction), exponent? with
  | some digits, some exponent => some ⟨negative, digits, exponent - fraction.length⟩
  | _, _ => none

/-- The double nearest to the decimal. There is none beyond the largest double. Exponents so large
or small that the digits cannot make up for them are decided without computing the power. -/
def toDouble? (decimal : Decimal) : Option Double :=
  let size : Int := decimal.digits.log2 + 1
  if decimal.digits = 0 ∨ decimal.exponent + size < -400 then
    Double.ofRatio? decimal.negative 0 1
  else if 400 < decimal.exponent then none
  else if decimal.exponent < 0 then
    Double.ofRatio? decimal.negative (decimal.digits * Double.one)
      (tenPow (-decimal.exponent).toNat)
  else
    Double.ofRatio? decimal.negative (decimal.digits * tenPow decimal.exponent.toNat * Double.one) 1

/-- The value written with a point where one is needed and without an exponent. -/
def positional (decimal : Decimal) : List Char :=
  let sign := if decimal.negative then ['-'] else []
  if decimal.exponent < 0 then
    let places := (-decimal.exponent).toNat
    let digits := Nat.toDigits 10 decimal.digits
    let padded := List.replicate (places + 1 - digits.length) '0' ++ digits
    sign ++ padded.take (padded.length - places) ++ '.' :: padded.drop (padded.length - places)
  else sign ++ Nat.toDigits 10 (decimal.digits * tenPow decimal.exponent.toNat)

end Decimal

end RuleAtoms
