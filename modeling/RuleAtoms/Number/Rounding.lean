/-
**Rounding to 53 significant bits.**

A magnitude is a quotient of naturals, in units of the least positive double. The doubles nearby
stand `spacing` apart: one unit below `2 ^ 53`, and then ever twice as far each time the magnitude
doubles. `nearest` picks the double nearest to a quotient, and of two equally near ones the one
with an even count of spacings.

* `nearest_onGrid`: the result is a magnitude that a double can have;
* `nearest_le_twoPow`: rounding passes at most to the next power of two;
* `nearest_of_onGrid`: a magnitude that a double has is its own nearest one.
-/

import RuleAtoms.Number.Power

namespace RuleAtoms.Rounding

/-- The quotient rounded to the nearest natural, a half to the even neighbour. -/
def halfEven (numerator denominator : Nat) : Nat :=
  let quotient := numerator / denominator
  let remainder := numerator % denominator
  if 2 * remainder < denominator ∨ (2 * remainder = denominator ∧ quotient % 2 = 0) then quotient
  else quotient + 1

/-- The distance between the doubles at a magnitude of so many units. -/
def spacing (units : Nat) : Nat := twoPow (units.log2 - 52)

/-- The magnitudes that have at most 53 significant bits. -/
def OnGrid (units : Nat) : Prop := spacing units ∣ units

instance (units : Nat) : Decidable (OnGrid units) :=
  inferInstanceAs (Decidable (spacing units ∣ units))

/-- The magnitude on the grid nearest to a quotient. -/
def nearest (numerator denominator : Nat) : Nat :=
  let step := spacing (numerator / denominator)
  step * halfEven numerator (denominator * step)

/-! ### Bounds -/

theorem halfEven_le (numerator denominator : Nat) :
    halfEven numerator denominator ≤ numerator / denominator + 1 := by
  simp only [halfEven]
  split <;> omega

theorem le_halfEven (numerator denominator : Nat) :
    numerator / denominator ≤ halfEven numerator denominator := by
  simp only [halfEven]
  split <;> omega

@[simp] theorem halfEven_mul (count : Nat) {denominator : Nat} (positive : 0 < denominator) :
    halfEven (denominator * count) denominator = count := by
  simp [halfEven, Nat.mul_div_cancel_left count positive, positive]

theorem spacing_pos (units : Nat) : 0 < spacing units := twoPow_pos _

/-- Above the first binade, a magnitude holds between `2 ^ 52` and `2 ^ 53` spacings. -/
theorem spacing_count_lt (units : Nat) : units / spacing units < twoPow 53 := by
  rw [Nat.div_lt_iff_lt_mul (spacing_pos units), spacing, ← twoPow_add]
  exact Nat.lt_of_lt_of_le (lt_twoPow_log2 units) (twoPow_le_twoPow (by omega))

/-- Every multiple of a power of two that is small enough to have that spacing is on the grid. -/
theorem onGrid_of_le {exponent count : Nat} (small : count ≤ twoPow 53) :
    OnGrid (twoPow exponent * count) := by
  rcases Nat.eq_zero_or_pos count with rfl | positive
  · simp [OnGrid]
  rcases Nat.lt_or_eq_of_le small with below | rfl
  · have logBound : (twoPow exponent * count).log2 < 53 + exponent := by
      rw [log2_lt_iff (Nat.mul_pos (twoPow_pos _) positive), twoPow_add, Nat.mul_comm]
      exact Nat.mul_lt_mul_of_pos_right below (twoPow_pos _)
    exact Nat.dvd_trans (twoPow_dvd_twoPow (by omega)) (Nat.dvd_mul_right _ count)
  · rw [← twoPow_add, OnGrid, spacing, log2_twoPow]
    exact twoPow_dvd_twoPow (by omega)

theorem nearest_count_le (numerator denominator : Nat) :
    halfEven numerator (denominator * spacing (numerator / denominator)) ≤ twoPow 53 := by
  have bound := halfEven_le numerator (denominator * spacing (numerator / denominator))
  rw [← Nat.div_div_eq_div_mul] at bound
  have below := spacing_count_lt (numerator / denominator)
  omega

theorem nearest_onGrid (numerator denominator : Nat) : OnGrid (nearest numerator denominator) :=
  onGrid_of_le (nearest_count_le numerator denominator)

theorem nearest_le_twoPow {numerator denominator bound : Nat} (large : 53 ≤ bound)
    (below : numerator / denominator < twoPow bound) :
    nearest numerator denominator ≤ twoPow bound := by
  have count := nearest_count_le numerator denominator
  have logBound : (numerator / denominator).log2 < bound := by
    rcases Nat.eq_zero_or_pos (numerator / denominator) with zero | positive
    · rw [zero, Nat.log2_zero]; omega
    · exact (log2_lt_iff positive).mpr below
  calc nearest numerator denominator
      ≤ spacing (numerator / denominator) * twoPow 53 := Nat.mul_le_mul_left _ count
    _ = twoPow ((numerator / denominator).log2 - 52 + 53) := by rw [spacing, ← twoPow_add]
    _ ≤ twoPow bound := twoPow_le_twoPow (by omega)

theorem nearest_of_onGrid {units : Nat} (grid : OnGrid units) : nearest units 1 = units := by
  obtain ⟨count, same⟩ := grid
  simp only [nearest, Nat.div_one, Nat.one_mul]
  generalize spacing units = step at same ⊢
  rcases Nat.eq_zero_or_pos step with rfl | positive
  · simpa using same.symm
  · rw [same, halfEven_mul count positive]

end RuleAtoms.Rounding
