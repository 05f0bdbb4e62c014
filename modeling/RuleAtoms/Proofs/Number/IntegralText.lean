/-
**What integral datatypes write.**

An integral datatype writes a number by its exact value, be it a whole number or a double: an integer
within the bounds as its canonical text, and nothing else. The value goes through a whole number of 64
bits. The bounds of most datatypes stay within those; `unsignedLong` alone admits greater integers, and
these are not written although doubles have them.

* `render?_eq_some_iff_whole`: an integral datatype writes the whole number that a number is;
* `fits_iff_of_holds`: the bounds of all datatypes but `unsignedLong` are those of whole numbers, or
  narrower;
* `render?_eq_some_iff`: **what an integral datatype writes**.
-/

import RuleAtoms.Proofs.Number.ExactValue
import RuleAtoms.Proofs.Number.WholeRange
import RuleAtoms.Proofs.Number.WholeText

namespace RuleAtoms.NumericType

variable {type : NumericType} {number : Number} {text : List Char} {value : Int}

theorem render?_eq_bind (integral : type.isIntegral = true) (number : Number) :
    type.render? number = number.toWhole?.bind fun whole => type.render? (.whole whole) := by
  unfold render?
  simp only [if_pos integral]
  rfl

/-- An integral datatype writes the whole numbers within its bounds. -/
theorem render?_eq_some_iff_whole (integral : type.isIntegral = true) :
    type.render? number = some text ↔ ∃ whole : Whole, number.toRat = whole.toInt ∧
      type.Holds whole.toInt ∧ text = Number.intText whole.toInt := by
  rw [render?_eq_bind integral, Option.bind_eq_some_iff]
  simp only [Number.toWhole?_eq_some_iff, render?_whole_eq_some_iff integral]

/-- Only `unsignedLong` admits integers that are no whole numbers of 64 bits. -/
theorem fits_iff_of_holds (holds : type.Holds value) :
    Whole.Fits value ↔ (type = unsignedLong → value ≤ 9223372036854775807) := by
  unfold Holds at holds
  unfold Whole.Fits
  cases type <;> simp only [bounds] at holds <;> simp <;> omega

/-- **What an integral datatype writes.** It writes the numbers whose exact value is an integer within
its bounds, and writes the canonical text of the integer; an `unsignedLong` has to fit in 64 bits with
a sign besides. -/
theorem render?_eq_some_iff (integral : type.isIntegral = true) :
    type.render? number = some text ↔
      ∃ value : Int, number.toRat = value ∧ type.Holds value ∧
        (type = unsignedLong → value ≤ 9223372036854775807) ∧ text = Number.intText value := by
  rw [render?_eq_some_iff_whole integral]
  constructor
  · rintro ⟨whole, isValue, holds, isText⟩
    exact ⟨whole.toInt, isValue, holds, (fits_iff_of_holds holds).mp whole.fits, isText⟩
  · rintro ⟨value, isValue, holds, notLarge, isText⟩
    obtain ⟨lower, upper⟩ := (fits_iff_of_holds holds).mpr notLarge
    exact ⟨⟨value, lower, upper⟩, isValue, holds, isText⟩

/-- The double `2 ^ 62` is written as an `unsignedLong`. -/
theorem render?_unsignedLong_twoPow62 :
    let number := Number.double (.ofWhole ⟨4611686018427387904, by decide, by decide⟩)
    unsignedLong.isIntegral = true ∧ number.toRat = (4611686018427387904 : Int) ∧
      unsignedLong.render? number = some "4611686018427387904".toList := by
  have isValue : (Double.ofWhole ⟨4611686018427387904, by decide, by decide⟩).toRat =
      (4611686018427387904 : Int) :=
    Double.toRat_eq_intCast_iff.mpr (by decide +kernel)
  exact ⟨rfl, isValue, (render?_eq_some_iff rfl).mpr
    ⟨4611686018427387904, isValue, by decide, by decide, by decide +kernel⟩⟩

/-- The double `2 ^ 63`. -/
def twoPow63 : Double := ⟨false, twoPow 1137, by decide +kernel, by decide +kernel⟩

/-- The double `2 ^ 63` lies within the bounds of an `unsignedLong` and is not written as one. -/
theorem render?_unsignedLong_twoPow63 :
    Number.read? "9223372036854775808".toList = some (.double twoPow63) ∧
      (Number.double twoPow63).toRat = (9223372036854775808 : Int) ∧
      unsignedLong.Holds 9223372036854775808 ∧
      unsignedLong.render? (.double twoPow63) = none := by
  have isValue : twoPow63.toRat = (9223372036854775808 : Int) :=
    Double.toRat_eq_intCast_iff.mpr (by decide +kernel)
  exact ⟨by decide +kernel, isValue, by decide, by decide +kernel⟩

end RuleAtoms.NumericType
