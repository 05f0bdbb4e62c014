/-
**Powers of two and ten.**

Magnitudes of doubles are measured by powers of two, decimals by powers of ten.
-/

namespace RuleAtoms

/-- A power of two. -/
def twoPow (exponent : Nat) : Nat := Nat.pow 2 exponent

/-- A power of ten. -/
def tenPow (exponent : Nat) : Nat := Nat.pow 10 exponent

theorem twoPow_pos (exponent : Nat) : 0 < twoPow exponent := Nat.two_pow_pos exponent

theorem twoPow_add (first second : Nat) :
    twoPow (first + second) = twoPow first * twoPow second := Nat.pow_add 2 first second

theorem twoPow_succ (exponent : Nat) : twoPow (exponent + 1) = 2 * twoPow exponent :=
  Nat.pow_succ'

theorem twoPow_le_twoPow {small large : Nat} (order : small ≤ large) :
    twoPow small ≤ twoPow large := Nat.pow_le_pow_right (by decide) order

theorem twoPow_lt_twoPow {small large : Nat} (order : small < large) :
    twoPow small < twoPow large := Nat.pow_lt_pow_right (by decide) order

theorem twoPow_dvd_twoPow {small large : Nat} (order : small ≤ large) :
    twoPow small ∣ twoPow large := Nat.pow_dvd_pow 2 order

theorem log2_twoPow (exponent : Nat) : (twoPow exponent).log2 = exponent := Nat.log2_two_pow

theorem log2_lt_iff {value bound : Nat} (positive : 0 < value) :
    value.log2 < bound ↔ value < twoPow bound := Nat.log2_lt (Nat.pos_iff_ne_zero.mp positive)

theorem lt_twoPow_log2 (value : Nat) : value < twoPow (value.log2 + 1) := Nat.lt_log2_self

end RuleAtoms
