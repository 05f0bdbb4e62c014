/-
**Sets of characters given by ranges of code points.**

The character classes of this library that go beyond ASCII are tables of ranges, one table a
module, named for the property it holds. `inRanges` is the only way they are read.
-/

namespace RuleAtoms.Text

/-- Whether a code point lies in one of the ranges. The ranges stand in increasing order, so the
search stops at the first one that begins behind the code point. -/
def inRanges : List (Nat × Nat) → Nat → Bool
  | [], _ => false
  | (first, last) :: rest, code =>
    decide (first ≤ code) && (decide (code ≤ last) || inRanges rest code)

end RuleAtoms.Text
