/-
**How far equality and order of literals are coherent.**

Literals compare as numbers when both denote one. Else they are equal when they are the same literal,
and in order when neither denotes a number and their lexical forms are in order. A chain of comparisons
never changes from one rule to the other, so what is left is where the comparison of numbers is
transitive.

* `areEqual_iff`, `lessThanOrEqual_iff`: what the two predicates say of two literals;
* `areEqual_trans_iff`, `lessThanOrEqual_trans_iff`: where they are transitive;
* `comparisons_coherent`: **equality is reflexive and symmetric, and both predicates are transitive but
  for doubles that do not tell two large whole numbers apart**.
-/

import RuleAtoms.Predicate.Comparison
import RuleAtoms.Proofs.Number.Order

namespace RuleAtoms.Comparison

variable {first second third : Literal}

/-! ### Two literals -/

theorem areEqual_iff : areEqual first second = true ↔
    first = second ∨ ∃ firstNumber secondNumber, first.number? = some firstNumber ∧
      second.number? = some secondNumber ∧ firstNumber.compare secondNumber = .eq := by
  unfold areEqual
  constructor
  · intro equal
    split at equal
    · rename_i firstNumber secondNumber isFirst isSecond
      exact Or.inr ⟨firstNumber, secondNumber, isFirst, isSecond, beq_iff_eq.mp equal⟩
    · exact Or.inl (beq_iff_eq.mp equal)
  · rintro (rfl | ⟨firstNumber, secondNumber, isFirst, isSecond, equal⟩)
    · split
      · rename_i firstNumber secondNumber isFirst isSecond
        obtain rfl := Option.some.inj (isFirst.symm.trans isSecond)
        exact beq_iff_eq.mpr (Number.compare_self firstNumber)
      · exact beq_self_eq_true first
    · rw [isFirst, isSecond]
      exact beq_iff_eq.mpr equal

theorem lessThanOrEqual_iff : lessThanOrEqual [first, second] = true ↔
    (∃ firstNumber secondNumber, first.number? = some firstNumber ∧
      second.number? = some secondNumber ∧ (firstNumber.compare secondNumber).isLE = true) ∨
    (first.number? = none ∧ second.number? = none ∧
      (Ord.compare first.lexical second.lexical).isLE = true) := by
  have isLE : ∀ order : Ordering,
      (some order == some .lt || some order == some .eq) = order.isLE := by decide
  show (order? first second == some .lt || order? first second == some .eq) = true ↔ _
  unfold order?
  cases isFirst : first.number? with
  | none =>
    cases isSecond : second.number? with
    | none => simp only [isLE]; simp
    | some secondNumber => simp
  | some firstNumber =>
    cases isSecond : second.number? with
    | none => simp
    | some secondNumber => simp only [isLE]; simp

/-! ### Three literals -/

/-- Whole numbers on both sides of a double that does not tell them apart, as literals. -/
def Blurred (first second third : Literal) (left right : Whole) : Prop :=
  ∃ double, first.number? = some (.whole left) ∧ second.number? = some (.double double) ∧
    third.number? = some (.whole right) ∧ double.Blurs left right

theorem blurred_iff {firstNumber secondNumber thirdNumber : Number} {left right : Whole}
    (isFirst : first.number? = some firstNumber) (isSecond : second.number? = some secondNumber)
    (isThird : third.number? = some thirdNumber) :
    Blurred first second third left right ↔
      Number.Blurred firstNumber secondNumber thirdNumber left right := by
  unfold Blurred Number.Blurred
  simp only [isFirst, isSecond, isThird, Option.some.injEq]

theorem areEqual_symm (first second : Literal) : areEqual first second = areEqual second first := by
  have symm : ∀ {first second : Literal}, areEqual first second = true →
      areEqual second first = true := by
    intro first second equal
    rcases areEqual_iff.mp equal with rfl | ⟨firstNumber, secondNumber, isFirst, isSecond, same⟩
    · exact equal
    · refine areEqual_iff.mpr (Or.inr ⟨secondNumber, firstNumber, isSecond, isFirst, ?_⟩)
      rw [Number.compare_swap, same]
      rfl
  exact Bool.eq_iff_iff.mpr ⟨symm, symm⟩

/-- **Where equality of literals is transitive.** A literal that is its own neighbour denotes no whole
number and a double at once. -/
theorem areEqual_trans_iff (firstEqual : areEqual first second = true)
    (secondEqual : areEqual second third = true) :
    areEqual first third = true ↔ ¬ ∃ left right, Blurred first second third left right := by
  rcases areEqual_iff.mp firstEqual with rfl | ⟨firstNumber, secondNumber, isFirst, isSecond, same⟩
  · refine iff_of_true secondEqual ?_
    rintro ⟨left, right, double, isWhole, isDouble, -⟩
    cases isWhole.symm.trans isDouble
  rcases areEqual_iff.mp secondEqual with rfl |
    ⟨otherNumber, thirdNumber, isOther, isThird, sameThird⟩
  · refine iff_of_true firstEqual ?_
    rintro ⟨left, right, double, -, isDouble, isWhole, -⟩
    cases isWhole.symm.trans isDouble
  obtain rfl := Option.some.inj (isOther.symm.trans isSecond)
  simp only [blurred_iff isFirst isSecond isThird]
  rw [← Number.eq_trans_iff same sameThird]
  constructor
  · intro equal
    rcases areEqual_iff.mp equal with rfl | ⟨left, right, isLeft, isRight, sameEnds⟩
    · obtain rfl := Option.some.inj (isFirst.symm.trans isThird)
      exact Number.compare_self firstNumber
    · obtain rfl := Option.some.inj (isFirst.symm.trans isLeft)
      obtain rfl := Option.some.inj (isThird.symm.trans isRight)
      exact sameEnds
  · intro equal
    exact areEqual_iff.mpr (Or.inr ⟨firstNumber, thirdNumber, isFirst, isThird, equal⟩)

/-- **Where the order of literals is transitive.** -/
theorem lessThanOrEqual_trans_iff (firstOrder : lessThanOrEqual [first, second] = true)
    (secondOrder : lessThanOrEqual [second, third] = true) :
    lessThanOrEqual [first, third] = true ↔
      ¬ ∃ greater lesser, lesser.toInt < greater.toInt ∧
        Blurred first second third greater lesser := by
  rcases lessThanOrEqual_iff.mp firstOrder with
    ⟨firstNumber, secondNumber, isFirst, isSecond, order⟩ | ⟨noFirst, noSecond, order⟩
  · rcases lessThanOrEqual_iff.mp secondOrder with
      ⟨otherNumber, thirdNumber, isOther, isThird, orderThird⟩ | ⟨noSecond, -, -⟩
    · obtain rfl := Option.some.inj (isOther.symm.trans isSecond)
      simp only [blurred_iff isFirst isSecond isThird]
      rw [← Number.isLE_trans_iff order orderThird, lessThanOrEqual_iff, isFirst, isThird]
      simp
    · cases noSecond.symm.trans isSecond
  · rcases lessThanOrEqual_iff.mp secondOrder with
      ⟨otherNumber, thirdNumber, isOther, -, -⟩ | ⟨-, noThird, orderThird⟩
    · cases noSecond.symm.trans isOther
    · refine iff_of_true ?_ ?_
      · exact lessThanOrEqual_iff.mpr
          (Or.inr ⟨noFirst, noThird, Std.TransOrd.isLE_trans order orderThird⟩)
      · rintro ⟨greater, lesser, -, double, isWhole, -⟩
        cases noFirst.symm.trans isWhole

/-- **Equality and order of literals are coherent, but for large whole numbers.** Equality is reflexive
and symmetric. Equality and order are transitive, whatever the literals denote, except from one whole
number through a double to another whole number when the double does not tell the two apart; both are
then `2 ^ 53` or more in size. -/
theorem comparisons_coherent (first second third : Literal) :
    equal [first, first] = true ∧
      equal [first, second] = equal [second, first] ∧
      (equal [first, second] = true → equal [second, third] = true →
        (equal [first, third] = true ↔
          ¬ ∃ left right, Blurred first second third left right)) ∧
      (lessThanOrEqual [first, second] = true → lessThanOrEqual [second, third] = true →
        (lessThanOrEqual [first, third] = true ↔
          ¬ ∃ greater lesser, lesser.toInt < greater.toInt ∧
            Blurred first second third greater lesser)) ∧
      ∀ left right, Blurred first second third left right →
        twoPow 53 ≤ left.toInt.natAbs ∧ twoPow 53 ≤ right.toInt.natAbs := by
  refine ⟨areEqual_iff.mpr (Or.inl rfl), areEqual_symm first second, areEqual_trans_iff,
    lessThanOrEqual_trans_iff, ?_⟩
  rintro left right ⟨double, -, -, -, blurs⟩
  exact blurs.large

/-- The double `2 ^ 53` equals the whole numbers `2 ^ 53 + 1` and `2 ^ 53`, but these are not equal,
nor is the first at most the second. -/
theorem comparisons_oddWhole :
    let oddWhole := Literal.plain "9007199254740993"
    let double := Literal.plain "9007199254740992.0"
    let evenWhole := Literal.plain "9007199254740992"
    equal [oddWhole, double] = true ∧ equal [double, evenWhole] = true ∧
      equal [oddWhole, evenWhole] = false ∧
      lessThanOrEqual [oddWhole, double] = true ∧ lessThanOrEqual [double, evenWhole] = true ∧
      lessThanOrEqual [oddWhole, evenWhole] = false := by
  decide +kernel

end RuleAtoms.Comparison
