/-
**How the six comparisons fit together.**

The comparisons by size all read one order. Two literals have it when both denote numbers or neither
does, and the literals the other way round have the reverse of it. Equality reads it too where both
denote numbers, and else asks whether the literals are the same.

* `order?_swap`: the order of two literals the other way round;
* `isSome_order?`: which literals have an order;
* `order?_eq_some_lt_iff`: the order of texts is that of their code points;
* `comparisons_fit`: **the six comparisons of two literals fit together**.
-/

import Mathlib.Data.String.Basic
import RuleAtoms.Proofs.Predicate.ComparisonOrder

namespace RuleAtoms.Comparison

variable {first second third : Literal}

/-- Whether both literals denote numbers or neither does. -/
def Alike (first second : Literal) : Prop := first.number?.isSome = second.number?.isSome

/-- A text comes before another one in the order of their code points. -/
def Precedes (first second : String) : Prop :=
  List.Lex (fun left right : Char => left.toNat < right.toNat) first.toList second.toList

/-! ### The order of two literals -/

theorem order?_swap (first second : Literal) :
    order? second first = (order? first second).map Ordering.swap := by
  unfold order?
  cases first.number? with
  | none =>
    cases second.number? with
    | none => exact congrArg some Std.OrientedOrd.eq_swap
    | some secondNumber => rfl
  | some firstNumber =>
    cases second.number? with
    | none => rfl
    | some secondNumber => exact congrArg some (Number.compare_swap secondNumber firstNumber)

theorem isSome_order? : (order? first second).isSome = true ↔ Alike first second := by
  unfold order? Alike
  cases first.number? <;> cases second.number? <;> simp

/-- Where both literals denote numbers, equality reads the order. -/
theorem areEqual_eq_order? (isFirst : first.number?.isSome = true)
    (isSecond : second.number?.isSome = true) :
    areEqual first second = (order? first second == some .eq) := by
  obtain ⟨firstNumber, denotesFirst⟩ := Option.isSome_iff_exists.mp isFirst
  obtain ⟨secondNumber, denotesSecond⟩ := Option.isSome_iff_exists.mp isSecond
  unfold areEqual order?
  rw [denotesFirst, denotesSecond]
  rfl

/-- A number is equal to no text. -/
theorem areEqual_of_not_alike (different : ¬ Alike first second) : areEqual first second = false := by
  rw [← Bool.not_eq_true, areEqual_iff]
  rintro (rfl | ⟨firstNumber, secondNumber, denotesFirst, denotesSecond, -⟩)
  · exact different rfl
  · exact different (by rw [Alike, denotesFirst, denotesSecond]; rfl)

/-! ### Comparisons by size -/

theorem lessThan_swap (first second : Literal) :
    lessThan [first, second] = greaterThan [second, first] := by
  show (order? first second == some .lt) = (order? second first == some .gt)
  rw [order?_swap first second]
  cases order? first second with
  | none => rfl
  | some order => cases order <;> rfl

theorem lessThanOrEqual_swap (first second : Literal) :
    lessThanOrEqual [first, second] = greaterThanOrEqual [second, first] := by
  show (order? first second == some .lt || order? first second == some .eq) =
    (order? second first == some .gt || order? second first == some .eq)
  rw [order?_swap first second]
  cases order? first second with
  | none => rfl
  | some order => cases order <;> rfl

/-- **Exactly one of less, greater and neither** holds of literals that have an order. -/
theorem exactlyOne_of_alike (alike : Alike first second) :
    [lessThan [first, second], greaterThan [first, second],
        lessThanOrEqual [first, second] && greaterThanOrEqual [first, second]].count true = 1 ∧
      lessThanOrEqual [first, second] = !greaterThan [first, second] := by
  obtain ⟨order, ordered⟩ := Option.isSome_iff_exists.mp (isSome_order?.mpr alike)
  unfold lessThan greaterThan lessThanOrEqual greaterThanOrEqual onPair
  simp only [ordered]
  cases order <;> decide

theorem bothWeak_eq_equal (isFirst : first.number?.isSome = true)
    (isSecond : second.number?.isSome = true) :
    (lessThanOrEqual [first, second] && greaterThanOrEqual [first, second]) =
      equal [first, second] := by
  show ((order? first second == some .lt || order? first second == some .eq) &&
    (order? first second == some .gt || order? first second == some .eq)) = areEqual first second
  rw [areEqual_eq_order? isFirst isSecond]
  cases order? first second with
  | none => rfl
  | some order => cases order <;> rfl

/-- **A number and a text** are in no order and not equal. -/
theorem none_of_not_alike (different : ¬ Alike first second) :
    lessThan [first, second] = false ∧ lessThanOrEqual [first, second] = false ∧
      greaterThan [first, second] = false ∧ greaterThanOrEqual [first, second] = false ∧
      notEqual [first, second] = true := by
  have unordered : order? first second = none := by
    rw [← Option.not_isSome_iff_eq_none, isSome_order?]
    exact different
  unfold lessThan greaterThan lessThanOrEqual greaterThanOrEqual notEqual onPair
  simp only [unordered, areEqual_of_not_alike different]
  decide

/-! ### Texts -/

/-- **Texts are in order** as their code points are. -/
theorem order?_eq_some_lt_iff (isFirst : first.number? = none) (isSecond : second.number? = none) :
    order? first second = some .lt ↔ Precedes first.lexical second.lexical := by
  unfold order?
  rw [isFirst, isSecond, Option.some.injEq]
  exact compareOfLessAndEq_eq_lt

theorem lessThan_iff_precedes (isFirst : first.number? = none) (isSecond : second.number? = none) :
    lessThan [first, second] = true ↔ first.lexical < second.lexical := by
  show (order? first second == some .lt) = true ↔ _
  rw [beq_iff_eq, order?_eq_some_lt_iff isFirst isSecond]
  rfl

/-! ### All six -/

/-- **How the six comparisons of two literals fit together.** Turned round, less becomes greater and
equality stays; inequality is the negation of equality. If both literals denote numbers or neither
does, exactly one of less, greater, and both of the weak comparisons holds, and each weak comparison
is the negation of the strict one the other way; of numbers, both weak comparisons hold when they are
equal. A number and a text are in no order and not equal. On texts, less is a strict total order of
the lexical forms by code points. On any other number of arguments than two all six fail. -/
theorem comparisons_fit (first second third : Literal) :
    lessThan [first, second] = greaterThan [second, first] ∧
      lessThanOrEqual [first, second] = greaterThanOrEqual [second, first] ∧
      equal [first, second] = equal [second, first] ∧
      notEqual [first, second] = !equal [first, second] ∧
      (Alike first second →
        [lessThan [first, second], greaterThan [first, second],
          lessThanOrEqual [first, second] && greaterThanOrEqual [first, second]].count true = 1 ∧
        lessThanOrEqual [first, second] = !greaterThan [first, second]) ∧
      (first.number?.isSome = true → second.number?.isSome = true →
        (lessThanOrEqual [first, second] && greaterThanOrEqual [first, second]) =
          equal [first, second]) ∧
      (¬ Alike first second →
        lessThan [first, second] = false ∧ lessThanOrEqual [first, second] = false ∧
        greaterThan [first, second] = false ∧ greaterThanOrEqual [first, second] = false ∧
        notEqual [first, second] = true) ∧
      (first.number? = none → second.number? = none → third.number? = none →
        (lessThan [first, second] = true ↔ Precedes first.lexical second.lexical) ∧
        lessThan [first, first] = false ∧
        (lessThan [first, second] = true → lessThan [second, third] = true →
          lessThan [first, third] = true) ∧
        (lessThan [first, second] = true ∨ first.lexical = second.lexical ∨
          lessThan [second, first] = true)) ∧
      ∀ arguments : List Literal, arguments.length ≠ 2 →
        ∀ comparison ∈ [equal, notEqual, lessThan, lessThanOrEqual, greaterThan, greaterThanOrEqual],
          comparison arguments = false := by
  refine ⟨lessThan_swap first second, lessThanOrEqual_swap first second, areEqual_symm first second,
    rfl, exactlyOne_of_alike, bothWeak_eq_equal, none_of_not_alike, ?_, ?_⟩
  · intro isFirst isSecond isThird
    rw [lessThan_iff_precedes isFirst isSecond, lessThan_iff_precedes isSecond isThird,
      lessThan_iff_precedes isFirst isThird, lessThan_iff_precedes isSecond isFirst,
      ← Bool.not_eq_true, lessThan_iff_precedes isFirst isFirst]
    exact ⟨Iff.rfl, String.lt_irrefl _, String.lt_trans, lt_trichotomy _ _⟩
  · intro arguments notTwo comparison member
    have fails : ∀ test, onPair test arguments = false := fun test => by
      unfold onPair
      split
      · exact absurd rfl notTwo
      · rfl
    simp only [List.mem_cons, List.not_mem_nil, or_false] at member
    rcases member with rfl | rfl | rfl | rfl | rfl | rfl <;> exact fails _

end RuleAtoms.Comparison
