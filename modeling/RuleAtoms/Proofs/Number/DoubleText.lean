/-
**The texts of doubles.**

A double has two texts: its shortest decimal, and for a whole value all of its digits with one
decimal place. Both denote a number, but they are never the same: the digits of a whole value read
back before there are any decimal places, so its shortest decimal has none.

* `exists_toDouble?_shortest`: the shortest decimal denotes a double;
* `exponent_shortest_nonneg`: that of a whole value has no decimal places;
* `isSome_read?_text`, `isSome_read?_wholeText`: both texts denote a number;
* `text_ne_wholeText`: the texts of a whole value differ.
-/

import RuleAtoms.Proofs.Number.DecimalText

namespace RuleAtoms.Double

open Rounding

variable {double : Double}

/-- A magnitude on the grid is not rounded. -/
theorem ofRatio?_units (double : Double) :
    ofRatio? double.negative double.units 1 = some double := by
  have same : nearest double.units 1 = double.units := nearest_of_onGrid double.onGrid
  unfold ofRatio?
  rw [dif_pos (lt_of_eq_of_lt same double.finite), Option.some.injEq]
  exact Double.ext rfl same

/-- The whole part of a double denotes a double. -/
theorem exists_toDouble?_whole (double : Double) :
    ∃ other, Decimal.toDouble? ⟨double.negative, double.units / one, 0⟩ = some other := by
  have finite : nearest (double.units / one * one) 1 < limit := by
    calc nearest (double.units / one * one) 1
        ≤ nearest double.units 1 := nearest_le_nearest (Nat.div_mul_le_self double.units one)
      _ = double.units := nearest_of_onGrid double.onGrid
      _ < limit := double.finite
  rw [Decimal.toDouble?_integer]
  exact ⟨_, dif_pos finite⟩

/-- A whole value is its whole part. -/
theorem units_of_isWhole (isWhole : double.isWhole = true) :
    double.units / one * one = double.units :=
  Nat.div_mul_cancel (Nat.dvd_of_mod_eq_zero (beq_iff_eq.mp isWhole))

theorem toDouble?_whole (isWhole : double.isWhole = true) :
    Decimal.toDouble? ⟨double.negative, double.units / one, 0⟩ = some double := by
  rw [Decimal.toDouble?_integer, units_of_isWhole isWhole, ofRatio?_units]

theorem toDouble?_wholeTenths (isWhole : double.isWhole = true) :
    Decimal.toDouble? ⟨double.negative, double.units / one * 10, -1⟩ = some double := by
  rw [Decimal.toDouble?_tenths, units_of_isWhole isWhole, ofRatio?_units]

/-! ### The shortest decimal -/

/-- What is chosen passes, and is one of the two. -/
theorem Neighbours.of_choose? {neighbours : Neighbours} {passes : Decimal → Bool}
    {decimal : Decimal} (chosen : neighbours.choose? passes = some decimal) :
    passes decimal = true ∧ (decimal = neighbours.below ∨ decimal = neighbours.above) := by
  unfold choose? at chosen
  split at chosen
  · rename_i belowPasses abovePasses
    split at chosen <;> cases chosen
    · exact ⟨belowPasses, .inl rfl⟩
    · exact ⟨abovePasses, .inr rfl⟩
  · rename_i belowPasses _
    cases chosen
    exact ⟨belowPasses, .inl rfl⟩
  · rename_i _ abovePasses
    cases chosen
    exact ⟨abovePasses, .inr rfl⟩
  · cases chosen

theorem Neighbours.isSome_choose? {neighbours : Neighbours} {passes : Decimal → Bool}
    (belowPasses : passes neighbours.below = true) : (neighbours.choose? passes).isSome = true := by
  unfold choose?
  rw [belowPasses]
  cases passes neighbours.above <;> rfl

theorem lastExponent_le_above (double : Double) (length : Nat) :
    double.lastExponent length ≤ (double.neighbours length).above.exponent := by
  unfold neighbours
  dsimp only
  split
  · exact Int.le_add_of_nonneg_right (by decide)
  · exact Int.le_refl _

/-- What is found reads back and has no more decimal places than its length. -/
theorem of_decimalOfLength? {length : Nat} {decimal : Decimal}
    (found : double.decimalOfLength? length = some decimal) :
    decimal.toDouble? = some double ∧ double.lastExponent length ≤ decimal.exponent := by
  obtain ⟨reads, isNeighbour⟩ := Neighbours.of_choose? found
  refine ⟨beq_iff_eq.mp reads, ?_⟩
  rcases isNeighbour with rfl | rfl
  · exact Int.le_refl _
  · exact lastExponent_le_above double length

/-- A whole value is found as a decimal as soon as the length takes in all of its digits. -/
theorem isSome_decimalOfLength? (isWhole : double.isWhole = true) {length : Nat}
    (isLast : double.lastExponent length = 0) : (double.decimalOfLength? length).isSome = true := by
  have isBelow : (double.neighbours length).below = ⟨double.negative, double.units / one, 0⟩ := by
    unfold neighbours
    dsimp only
    rw [isLast]
    unfold inUnitsOfTen
    rw [if_neg (Int.lt_irrefl 0)]
    have power : tenPow (0 : Int).toNat = 1 := rfl
    rw [power, Nat.mul_one]
  refine Neighbours.isSome_choose? ?_
  rw [isBelow]
  exact beq_iff_eq.mpr (toDouble?_whole isWhole)

theorem lt_length_toDigits {count magnitude : Nat} (positive : 0 < count)
    (large : tenPow count ≤ magnitude) : count < (Nat.toDigits 10 magnitude).length := by
  rw [← Nat.not_le, Nat.length_toDigits_le_iff (by decide) positive, Nat.not_lt]
  exact large

/-- A positive whole value has a digit in front of the point. -/
theorem leadingExponent_nonneg (isWhole : double.isWhole = true) (positive : 0 < double.units) :
    0 ≤ leadingExponent double.units := by
  have atLeastOne : one ≤ double.units :=
    Nat.le_of_dvd positive (Nat.dvd_of_mod_eq_zero (beq_iff_eq.mp isWhole))
  have onePositive : 0 < one := twoPow_pos oneExponent
  have scaled : tenPow 324 ≤ double.units * tenPow 324 / one := by
    rw [Nat.le_div_iff_mul_le onePositive, Nat.mul_comm]
    exact Nat.mul_le_mul_right _ atLeastOne
  have long := lt_length_toDigits (by decide) scaled
  unfold leadingExponent
  omega

/-- **The shortest decimal of a double denotes a double.** -/
theorem exists_toDouble?_shortest (double : Double) :
    ∃ other, double.shortest.toDouble? = some other := by
  unfold shortest
  split
  · rename_i zero
    have none : double.units / one = 0 := by rw [zero, Nat.zero_div]
    have whole := exists_toDouble?_whole double
    rwa [none] at whole
  · cases found : (List.range' 1 17).findSome? double.decimalOfLength? with
    | none => exact exists_toDouble?_whole double
    | some decimal =>
      obtain ⟨length, -, isFound⟩ := List.exists_of_findSome?_eq_some found
      exact ⟨double, (of_decimalOfLength? isFound).1⟩

/-- What is smaller than an item of an increasing list stands in front of it. -/
theorem mem_front_of_lt {front back : List Nat} {item other : Nat}
    (increasing : (front ++ item :: back).Pairwise (· < ·)) (member : other ∈ front ++ item :: back)
    (smaller : other < item) : other ∈ front := by
  refine (List.mem_append.mp member).resolve_right fun notInFront => ?_
  rcases List.mem_cons.mp notInFront with same | inBack
  · exact Nat.ne_of_lt smaller same
  · have behind := (List.pairwise_append.mp increasing).2.1
    exact Nat.lt_asymm smaller ((List.pairwise_cons.mp behind).1 other inBack)

/-- The first length at which a decimal is found does not exceed the digits of a whole value. -/
theorem lastExponent_nonneg_of_findSome? (isWhole : double.isWhole = true)
    (positive : 0 < double.units) {earlier later : List Nat} {length : Nat}
    (lengths : List.range' 1 17 = earlier ++ length :: later)
    (noneEarlier : ∀ other ∈ earlier, double.decimalOfLength? other = none) :
    0 ≤ double.lastExponent length := by
  by_contra negativeExponent
  have leading := leadingExponent_nonneg isWhole positive
  let enough := (leadingExponent double.units + 1).toNat
  have isLast : double.lastExponent enough = 0 := by
    unfold lastExponent
    omega
  have shorter : enough < length := by
    unfold lastExponent at negativeExponent
    omega
  have inRange : enough ∈ earlier ++ length :: later := by
    have member : length ∈ List.range' 1 17 := by
      rw [lengths]
      exact List.mem_append_right _ List.mem_cons_self
    rw [← lengths]
    rw [List.mem_range'_1] at member ⊢
    omega
  have isEarlier : enough ∈ earlier :=
    mem_front_of_lt (lengths ▸ List.pairwise_lt_range' 1) inRange shorter
  have found := isSome_decimalOfLength? isWhole isLast
  rw [noneEarlier enough isEarlier] at found
  cases found

/-- **The shortest decimal of a whole value has no decimal places.** -/
theorem exponent_shortest_nonneg (isWhole : double.isWhole = true) :
    0 ≤ double.shortest.exponent := by
  unfold shortest
  split
  · exact Int.le_refl 0
  · rename_i nonzero
    cases found : (List.range' 1 17).findSome? double.decimalOfLength? with
    | none => exact Int.le_refl 0
    | some decimal =>
      obtain ⟨earlier, length, later, lengths, isFound, noneEarlier⟩ :=
        List.findSome?_eq_some_iff.mp found
      exact Int.le_trans
        (lastExponent_nonneg_of_findSome? isWhole (Nat.pos_of_ne_zero nonzero) lengths noneEarlier)
        (of_decimalOfLength? isFound).2

/-! ### The two texts of a double -/

/-- A text without blanks that reads as a decimal in the range of doubles denotes a number. -/
theorem isSome_read?_of_decimal {text : List Char} {decimal : Decimal}
    (noBlank : ∀ c ∈ text, Text.isBlank c = false) (isDecimal : Decimal.read? text = some decimal)
    (isDouble : decimal.toDouble? = some double) : (Number.read? text).isSome = true := by
  unfold Number.read?
  rw [Text.trim_of_forall noBlank]
  dsimp only
  split
  · rfl
  · rw [isDecimal, Option.bind_some, isDouble]
    rfl

/-- **The shortest text of a double denotes a number.** -/
theorem isSome_read?_text (double : Double) : (Number.read? double.text).isSome = true := by
  obtain ⟨other, isDouble⟩ := exists_toDouble?_shortest double
  obtain ⟨decimal, isDecimal, same⟩ := Decimal.exists_read?_positional isDouble
  exact isSome_read?_of_decimal (fun c => Decimal.isBlank_of_mem_positional) isDecimal same

theorem wholeText_eq_mantissa (double : Double) :
    double.wholeText = Decimal.signText double.negative ++
      Decimal.mantissa (Nat.toDigits 10 (double.units / one)) ['0'] := List.append_assoc _ _ _

theorem isDigit_of_mem_wholeText {c : Char}
    (member : c ∈ Nat.toDigits 10 (double.units / one) ++ ['0']) : c.isDigit = true := by
  rcases List.mem_append.mp member with digit | zero
  · exact Decimal.isDigit_of_mem_toDigits digit
  · rw [List.mem_singleton.mp zero]
    decide

theorem read?_wholeText (double : Double) :
    Decimal.read? double.wholeText = some ⟨double.negative, double.units / one * 10, -1⟩ := by
  have value : Nat.ofDigitChars 10 (Nat.toDigits 10 (double.units / one) ++ ['0']) 0 =
      double.units / one * 10 := by
    rw [Nat.ofDigitChars_append, Nat.ofDigitChars_toDigits (by decide) (by decide), Nat.mul_comm]
    rfl
  rw [wholeText_eq_mantissa,
    Decimal.read?_mantissa Nat.toDigits_ne_nil fun c => isDigit_of_mem_wholeText, value]
  rfl

/-- **The text of a whole value with one decimal place denotes a number.** -/
theorem isSome_read?_wholeText (isWhole : double.isWhole = true) :
    (Number.read? double.wholeText).isSome = true := by
  refine isSome_read?_of_decimal (fun c member => ?_) (read?_wholeText double)
    (toDouble?_wholeTenths isWhole)
  rw [wholeText_eq_mantissa] at member
  exact Decimal.isBlank_of_mem_mantissa (fun c => isDigit_of_mem_wholeText) member

/-- **The two texts of a whole value differ**: only one of them has a point. -/
theorem text_ne_wholeText (isWhole : double.isWhole = true) : double.text ≠ double.wholeText := by
  intro same
  have withPoint : '.' ∈ double.wholeText := by
    unfold wholeText
    exact List.mem_append_right _ List.mem_cons_self
  rw [← same, text, Decimal.positional_of_nonneg (exponent_shortest_nonneg isWhole)] at withPoint
  rcases List.mem_append.mp withPoint with inSign | inDigits
  · unfold Decimal.signText at inSign
    split at inSign
    · exact absurd (List.mem_singleton.mp inSign) (by decide)
    · cases inSign
  · exact absurd (Decimal.isDigit_of_mem_toDigits inDigits) (by decide)

end RuleAtoms.Double
