/-
**The texts of decimals.**

A decimal is written without an exponent: digits, and a point among them if it has decimal places.
Where there are too few digits, zeros are put in front. Reading takes the text apart at the point
again.

* `read?_mantissa`: what digits with further digits behind a point are read as;
* `read?_positional_of_neg`, `read?_positional_of_nonneg`: so a decimal is read as it was written,
  or in full if it has no decimal places;
* `exists_read?_positional`: in either case it is read as the same double.
-/

import RuleAtoms.Proofs.Number.ExactArithmetic
import RuleAtoms.Proofs.Number.WholeText

namespace RuleAtoms.Decimal

/-! ### Digits around a point -/

/-- The text of a sign: only a minus sign is written. -/
def signText (negative : Bool) : List Char := if negative then ['-'] else []

/-- Digits, and behind a point further digits, if there are any. -/
def mantissa (whole fraction : List Char) : List Char :=
  if fraction = [] then whole else whole ++ '.' :: fraction

variable {negative : Bool} {whole fraction : List Char} {decimal : Decimal} {double : Double}

theorem mem_mantissa {c : Char} (member : c ∈ mantissa whole fraction) :
    c ∈ whole ++ fraction ∨ c = '.' := by
  unfold mantissa at member
  split at member
  · exact .inl (List.mem_append_left _ member)
  · rcases List.mem_append.mp member with inWhole | behind
    · exact .inl (List.mem_append_left _ inWhole)
    · rcases List.mem_cons.mp behind with isPoint | inFraction
      · exact .inr isPoint
      · exact .inl (List.mem_append_right _ inFraction)

theorem splitSign_signText {c : Char} {rest : List Char} (digit : c.isDigit = true) :
    Number.splitSign (signText negative ++ c :: rest) = (negative, c :: rest) := by
  cases negative with
  | false => exact Number.splitSign_of_isDigit digit
  | true => rfl

theorem exists_mantissa_cons (fraction : List Char) (nonempty : whole ≠ []) :
    ∃ c rest, mantissa whole fraction = c :: rest ∧ c ∈ whole := by
  obtain ⟨first, others, rfl⟩ := List.exists_cons_of_ne_nil nonempty
  unfold mantissa
  split
  · exact ⟨first, others, rfl, List.mem_cons_self⟩
  · exact ⟨first, _, rfl, List.mem_cons_self⟩

theorem takeWhile_mantissa (noPoint : ∀ c ∈ whole, (c != '.') = true) :
    (mantissa whole fraction).takeWhile (· != '.') = whole := by
  unfold mantissa
  split
  · exact List.takeWhile_eq_self_iff.mpr noPoint
  · exact Text.takeWhile_run noPoint (Text.ends_cons (by decide))

theorem dropWhile_mantissa (noPoint : ∀ c ∈ whole, (c != '.') = true) :
    ((mantissa whole fraction).dropWhile (· != '.')).drop 1 = fraction := by
  unfold mantissa
  split
  · rename_i isEmpty
    rw [List.dropWhile_eq_nil_iff.mpr noPoint, isEmpty, List.drop_nil]
  · rw [Text.dropWhile_run noPoint (Text.ends_cons (by decide)), List.drop_one, List.tail_cons]

/-- **What digits with further digits behind a point are read as.** -/
theorem read?_mantissa (nonempty : whole ≠ [])
    (areDigits : ∀ c ∈ whole ++ fraction, c.isDigit = true) :
    read? (signText negative ++ mantissa whole fraction) =
      some ⟨negative, Nat.ofDigitChars 10 (whole ++ fraction) 0, -fraction.length⟩ := by
  have noPoint : ∀ c ∈ whole, (c != '.') = true := by
    intro c member
    rw [bne_iff_ne]
    rintro rfl
    exact absurd (areDigits '.' (List.mem_append_left _ member)) (by decide)
  have noMark : ∀ c ∈ mantissa whole fraction, (!(c == 'e' || c == 'E')) = true := by
    intro c member
    rw [Bool.not_eq_true', Bool.or_eq_false_iff, beq_eq_false_iff_ne, beq_eq_false_iff_ne]
    rcases mem_mantissa member with isDigit | rfl
    · constructor <;> rintro rfl <;> exact absurd (areDigits _ isDigit) (by decide)
    · decide
  have signed : Number.splitSign (signText negative ++ mantissa whole fraction) =
      (negative, mantissa whole fraction) := by
    obtain ⟨c, rest, same, member⟩ := exists_mantissa_cons fraction nonempty
    rw [same]
    exact splitSign_signText (areDigits c (List.mem_append_left _ member))
  have digits : Number.readDigits? (whole ++ fraction) =
      some (Nat.ofDigitChars 10 (whole ++ fraction) 0) :=
    if_pos ⟨List.append_ne_nil_of_left_ne_nil nonempty _, List.all_eq_true.mpr areDigits⟩
  unfold read?
  simp only [signed, List.takeWhile_eq_self_iff.mpr noMark, List.dropWhile_eq_nil_iff.mpr noMark,
    takeWhile_mantissa noPoint, dropWhile_mantissa noPoint, digits, Int.zero_sub]

/-! ### Decimals without an exponent -/

theorem isDigit_of_mem_toDigits {magnitude : Nat} {c : Char}
    (member : c ∈ Nat.toDigits 10 magnitude) : c.isDigit = true :=
  Nat.isDigit_of_mem_toDigits (by decide) (by decide) member

/-- Leading zeros do not change what digits denote. -/
theorem ofDigitChars_replicate_append (count : Nat) (digits : List Char) :
    Nat.ofDigitChars 10 (List.replicate count '0' ++ digits) 0 = Nat.ofDigitChars 10 digits 0 := by
  induction count with
  | zero => rfl
  | succ count ih =>
    rw [List.replicate_succ, List.cons_append, Nat.ofDigitChars_cons]
    exact ih

/-- The number of decimal places. -/
def places (decimal : Decimal) : Nat := (-decimal.exponent).toNat

/-- The digits with as many zeros in front as leave one digit before the decimal places. -/
def padded (decimal : Decimal) : List Char :=
  List.replicate (decimal.places + 1 - (Nat.toDigits 10 decimal.digits).length) '0' ++
    Nat.toDigits 10 decimal.digits

theorem places_lt_length_padded (decimal : Decimal) : decimal.places < decimal.padded.length := by
  unfold padded
  rw [List.length_append, List.length_replicate]
  omega

theorem isDigit_of_mem_padded {c : Char} (member : c ∈ decimal.padded) : c.isDigit = true := by
  rcases List.mem_append.mp member with padding | digit
  · rw [List.eq_of_mem_replicate padding]
    decide
  · exact isDigit_of_mem_toDigits digit

theorem ofDigitChars_padded (decimal : Decimal) :
    Nat.ofDigitChars 10 decimal.padded 0 = decimal.digits := by
  unfold padded
  rw [ofDigitChars_replicate_append, Nat.ofDigitChars_toDigits (by decide) (by decide)]

/-- A text with decimal places has at least one digit in front of them. -/
theorem exists_positional_of_neg (negativeExponent : decimal.exponent < 0) :
    ∃ whole fraction, decimal.positional = signText decimal.negative ++ mantissa whole fraction ∧
      whole ≠ [] ∧ whole ++ fraction = decimal.padded ∧ fraction.length = decimal.places := by
  have long := decimal.places_lt_length_padded
  have isPlaces : (decimal.places : Int) = -decimal.exponent := Int.toNat_of_nonneg (by omega)
  have fractionLength : (decimal.padded.drop (decimal.padded.length - decimal.places)).length =
      decimal.places := by
    rw [List.length_drop]
    omega
  refine ⟨decimal.padded.take (decimal.padded.length - decimal.places),
    decimal.padded.drop (decimal.padded.length - decimal.places), ?_, ?_,
    List.take_append_drop _ _, fractionLength⟩
  · unfold positional mantissa
    rw [if_pos negativeExponent, if_neg (List.ne_nil_of_length_pos (by omega))]
    exact List.append_assoc _ _ _
  · refine List.ne_nil_of_length_pos ?_
    rw [List.length_take]
    omega

/-- **A decimal with decimal places is read from its text as it is.** -/
theorem read?_positional_of_neg (negativeExponent : decimal.exponent < 0) :
    read? decimal.positional = some decimal := by
  obtain ⟨whole, fraction, isText, nonempty, parts, fractionLength⟩ :=
    exists_positional_of_neg negativeExponent
  have exponent : -(fraction.length : Int) = decimal.exponent := by
    unfold places at fractionLength
    omega
  rw [isText, read?_mantissa nonempty (parts ▸ fun c => isDigit_of_mem_padded), parts,
    ofDigitChars_padded, exponent]

theorem positional_of_nonneg (nonnegative : 0 ≤ decimal.exponent) :
    decimal.positional = signText decimal.negative ++
      mantissa (Nat.toDigits 10 (decimal.digits * tenPow decimal.exponent.toNat)) [] :=
  if_neg (Int.not_lt.mpr nonnegative)

/-- A decimal without decimal places is written in full. -/
theorem read?_positional_of_nonneg (nonnegative : 0 ≤ decimal.exponent) :
    read? decimal.positional =
      some ⟨decimal.negative, decimal.digits * tenPow decimal.exponent.toNat, 0⟩ := by
  let whole := Nat.toDigits 10 (decimal.digits * tenPow decimal.exponent.toNat)
  have noFraction : whole ++ [] = whole := List.append_nil whole
  rw [positional_of_nonneg nonnegative,
    read?_mantissa Nat.toDigits_ne_nil (noFraction ▸ fun c => isDigit_of_mem_toDigits), noFraction,
    Nat.ofDigitChars_toDigits (by decide) (by decide)]
  rfl

theorem isBlank_of_mem_mantissa (areDigits : ∀ c ∈ whole ++ fraction, c.isDigit = true) {c : Char}
    (member : c ∈ signText negative ++ mantissa whole fraction) : Text.isBlank c = false := by
  rcases List.mem_append.mp member with inSign | inMantissa
  · unfold signText at inSign
    split at inSign
    · rw [List.mem_singleton.mp inSign]
      decide
    · cases inSign
  · rcases mem_mantissa inMantissa with isDigit | rfl
    · exact Text.isBlank_of_isDigit (areDigits c isDigit)
    · decide

theorem isBlank_of_mem_positional {c : Char} (member : c ∈ decimal.positional) :
    Text.isBlank c = false := by
  rcases Int.lt_or_le decimal.exponent 0 with negativeExponent | nonnegative
  · obtain ⟨whole, fraction, isText, -, parts, -⟩ := exists_positional_of_neg negativeExponent
    rw [isText] at member
    exact isBlank_of_mem_mantissa (parts ▸ fun c => isDigit_of_mem_padded) member
  · rw [positional_of_nonneg nonnegative] at member
    refine isBlank_of_mem_mantissa (fun other isDigit => ?_) member
    rw [List.append_nil] at isDigit
    exact isDigit_of_mem_toDigits isDigit

/-! ### What decimals denote -/

theorem toDouble?_zero (negative : Bool) (exponent : Int) :
    toDouble? ⟨negative, 0, exponent⟩ = Double.ofRatio? negative 0 1 := by
  unfold toDouble?
  rw [if_pos (Or.inl rfl)]

theorem toDouble?_of_nonneg (nonzero : decimal.digits ≠ 0) (nonnegative : 0 ≤ decimal.exponent)
    (notLarge : decimal.exponent ≤ 400) :
    decimal.toDouble? = Double.ofRatio? decimal.negative
      (decimal.digits * tenPow decimal.exponent.toNat * Double.one) 1 := by
  have notSmall : ¬ (decimal.digits = 0 ∨
      decimal.exponent + ((decimal.digits.log2 : Int) + 1) < -400) := by omega
  unfold toDouble?
  rw [if_neg notSmall, if_neg (by omega), if_neg (by omega)]

/-- An integer as a decimal. -/
theorem toDouble?_integer (negative : Bool) (digits : Nat) :
    toDouble? ⟨negative, digits, 0⟩ = Double.ofRatio? negative (digits * Double.one) 1 := by
  rcases eq_or_ne digits 0 with rfl | nonzero
  · rw [toDouble?_zero, Nat.zero_mul]
  · have power : tenPow (0 : Int).toNat = 1 := rfl
    rw [toDouble?_of_nonneg nonzero (Int.le_refl 0) (Int.zero_le_ofNat 400), power, Nat.mul_one]

/-- An integer as a decimal with one decimal place. -/
theorem toDouble?_tenths (negative : Bool) (digits : Nat) :
    toDouble? ⟨negative, digits * 10, -1⟩ = Double.ofRatio? negative (digits * Double.one) 1 := by
  rcases eq_or_ne digits 0 with rfl | nonzero
  · rw [Nat.zero_mul, Nat.zero_mul, toDouble?_zero]
  · have notSmall : ¬ (digits * 10 = 0 ∨ (-1 : Int) + (((digits * 10).log2 : Int) + 1) < -400) := by
      omega
    have power : tenPow (-(-1 : Int)).toNat = 10 := rfl
    have notLarge : ¬ (400 : Int) < -1 := by decide
    have negativeExponent : (-1 : Int) < 0 := by decide
    unfold toDouble?
    rw [if_neg notSmall, if_neg notLarge, if_pos negativeExponent, power, Nat.mul_right_comm]
    exact Double.ofRatio?_mul_right negative (digits * Double.one) 1 (by decide)

/-- A decimal without decimal places denotes the same in full. -/
theorem toDouble?_in_full (nonnegative : 0 ≤ decimal.exponent)
    (isDouble : decimal.toDouble? = some double) :
    toDouble? ⟨decimal.negative, decimal.digits * tenPow decimal.exponent.toNat, 0⟩ =
      some double := by
  obtain ⟨negative, digits, exponent⟩ := decimal
  change 0 ≤ exponent at nonnegative
  rw [toDouble?_integer]
  rcases eq_or_ne digits 0 with rfl | nonzero
  · rw [toDouble?_zero] at isDouble
    rw [Nat.zero_mul, Nat.zero_mul, isDouble]
  · have notLarge : exponent ≤ 400 := by
      by_contra large
      have notSmall : ¬ (digits = 0 ∨ exponent + ((digits.log2 : Int) + 1) < -400) := by omega
      have none : toDouble? ⟨negative, digits, exponent⟩ = none := by
        unfold toDouble?
        rw [if_neg notSmall, if_pos (Int.not_le.mp large)]
      cases none.symm.trans isDouble
    rw [← isDouble, toDouble?_of_nonneg nonzero nonnegative notLarge]

/-- **The text of a decimal is read as the same double as the decimal.** -/
theorem exists_read?_positional (isDouble : decimal.toDouble? = some double) :
    ∃ other, read? decimal.positional = some other ∧ other.toDouble? = some double := by
  rcases Int.lt_or_le decimal.exponent 0 with negativeExponent | nonnegative
  · exact ⟨decimal, read?_positional_of_neg negativeExponent, isDouble⟩
  · exact ⟨_, read?_positional_of_nonneg nonnegative, toDouble?_in_full nonnegative isDouble⟩

end RuleAtoms.Decimal
