/-
**The texts of whole numbers.**

A whole number has one canonical text, and an integral datatype writes it as that text as long as it
lies within the bounds.

* `read?_intText`: the canonical text denotes the whole number;
* `render?_whole_eq_some_iff`: what an integral datatype writes for a whole number.
-/

import RuleAtoms.Number.NumericType
import RuleAtoms.Proofs.Text.Runs

namespace RuleAtoms

namespace Number

theorem isBlank_of_mem_intText {value : Int} {c : Char} (member : c ∈ intText value) :
    Text.isBlank c = false := by
  have inDigits : ∀ c ∈ Nat.toDigits 10 value.natAbs, Text.isBlank c = false :=
    fun c isDigit =>
      Text.isBlank_of_isDigit (Nat.isDigit_of_mem_toDigits (by decide) (by decide) isDigit)
  unfold intText at member
  split at member
  · rcases List.mem_cons.mp member with rfl | isDigit
    · decide
    · exact inDigits c isDigit
  · exact inDigits c member

/-- **The canonical text of a whole number denotes it.** -/
theorem read?_intText (value : Whole) : read? (intText value.toInt) = some (.whole value) := by
  unfold read?
  rw [Text.trim_of_forall fun c => isBlank_of_mem_intText]
  simp only [readWhole?_intText]

/-- Different integers have different texts. -/
theorem intText_inj {first second : Int} : intText first = intText second ↔ first = second := by
  refine ⟨fun same => ?_, congrArg intText⟩
  have read := congrArg readInt? same
  rwa [readInt?_intText, readInt?_intText, Option.some.injEq] at read

end Number

namespace NumericType

/-- Whether a value lies within the bounds of an integral datatype. -/
def Holds (type : NumericType) (value : Int) : Prop :=
  type.bounds.1 ≤ value ∧ value ≤ type.bounds.2

instance (type : NumericType) (value : Int) : Decidable (type.Holds value) :=
  inferInstanceAs (Decidable (_ ∧ _))

/-- **An integral datatype writes a whole number** within its bounds as the canonical text, and no
other. -/
theorem render?_whole_eq_some_iff {type : NumericType} (integral : type.isIntegral = true)
    {value : Whole} {text : List Char} :
    type.render? (.whole value) = some text ↔
      type.Holds value.toInt ∧ text = Number.intText value.toInt := by
  unfold render? Holds
  rw [if_pos integral]
  simp only [Number.toWhole?, Option.bind_some]
  split
  · rename_i inBounds
    rw [Option.some.injEq, eq_comm]
    exact ⟨fun same => ⟨inBounds, same⟩, And.right⟩
  · rename_i outside
    constructor
    · intro failed
      cases failed
    · exact fun ⟨inBounds, _⟩ => absurd inBounds outside

/-- A whole number lies within the bounds of the integral datatype without bounds of its own. -/
theorem holds_integer (value : Whole) : integer.Holds value.toInt := ⟨value.lower, value.upper⟩

end NumericType

end RuleAtoms
