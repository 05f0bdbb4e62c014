/-
**Arithmetic on whole numbers.**

`IsExactResult` says in terms of integers what the five arithmetic functions mean: the exact value,
provided that no intermediate result, from left to right, leaves the 64 bits. On operands that
denote whole numbers the functions compute just that (`ComputesExactly`): the exact result, as a
whole number, wherever there is one, and nothing elsewhere.

* `foldlM_whole_eq_some_iff`: the run of a checked operation over any number of operands, from what
  one step does;
* `foldsTo_sum`, `foldsTo_product`: so sums and products are the totals, as long as every part of
  the operands up to some operand has a total that fits;
* `exists_computesExactly`: every standard entry of an arithmetic predicate computes exactly.
-/

import Mathlib.Algebra.Ring.Int.Defs
import Mathlib.Data.List.Forall2
import Mathlib.Data.List.Infix
import RuleAtoms.Predicate.Registry
import RuleAtoms.Proofs.Number.WholeRange

namespace RuleAtoms

namespace Arithmetic

/-! ### Exact results -/

/-- The exact result of an arithmetic function on integers, as long as no intermediate result, from
left to right, leaves the 64 bits. The quotient of the least integer by minus one leaves them. -/
def IsExactResult : Predicate → List Int → Int → Prop
  | .mod, [dividend, divisor], result =>
    divisor ≠ 0 ∧ ¬ (dividend = -9223372036854775808 ∧ divisor = -1) ∧
      dividend = divisor * dividend.tdiv divisor + result
  | .add, operands, result =>
    result = operands.sum ∧ ∀ front, front <+: operands → Whole.Fits front.sum
  | .subtract, [first, second], result => result = first - second ∧ Whole.Fits result
  | .multiply, operands, result =>
    result = operands.prod ∧ ∀ front, front <+: operands → Whole.Fits front.prod
  | .abs, [operand], result => result = operand.natAbs ∧ Whole.Fits result
  | _, _, _ => False

/-- A literal that denotes a whole number. -/
def Denotes (literal : Literal) (value : Whole) : Prop := literal.number? = some (.whole value)

/-- On operands that denote whole numbers, in a number that the predicate accepts beside a result,
the exact result is computed, and nothing where there is none. -/
def ComputesExactly (predicate : Predicate) (compute? : List Literal → Option Number) : Prop :=
  ∀ operands values, List.Forall₂ Denotes operands values →
    predicate.arity.accepts (operands.length + 1) = true → ∀ number,
      compute? operands = some number ↔ ∃ result : Whole, number = .whole result ∧
        IsExactResult predicate (values.map Whole.toInt) result.toInt

/-! ### One step -/

section Steps

variable {operation : Number → Number → Option Number} {first second : Literal}
  {firstValue secondValue : Whole}

theorem map_whole_eq_some_iff {found : Option Whole} {number : Number} :
    found.map Number.whole = some number ↔
      ∃ result, number = .whole result ∧ found = some result := by
  rw [Option.map_eq_some_iff]
  exact ⟨fun ⟨result, isFound, same⟩ => ⟨result, same.symm, isFound⟩,
    fun ⟨result, same, isFound⟩ => ⟨result, isFound, same.symm⟩⟩

theorem onPair?_whole (isFirst : Denotes first firstValue) (isSecond : Denotes second secondValue) :
    onPair? operation [first, second] = operation (.whole firstValue) (.whole secondValue) := by
  change (first.number?.bind fun number => second.number?.bind (operation number)) = _
  rw [isFirst, isSecond]
  rfl

end Steps

/-! ### The functions of a fixed number of operands -/

theorem exists_single {operands : List Literal} {values : List Whole}
    (denote : List.Forall₂ Denotes operands values) (length : operands.length = 1) :
    ∃ operand value, operands = [operand] ∧ values = [value] ∧ Denotes operand value := by
  obtain ⟨operand, rfl⟩ := List.length_eq_one_iff.mp length
  obtain ⟨value, rest, isValue, isRest, rfl⟩ := List.forall₂_cons_left_iff.mp denote
  obtain rfl := List.forall₂_nil_left_iff.mp isRest
  exact ⟨operand, value, rfl, rfl, isValue⟩

theorem exists_pair {operands : List Literal} {values : List Whole}
    (denote : List.Forall₂ Denotes operands values) (length : operands.length = 2) :
    ∃ first second firstValue secondValue, operands = [first, second] ∧
      values = [firstValue, secondValue] ∧ Denotes first firstValue ∧
        Denotes second secondValue := by
  obtain ⟨first, second, rfl⟩ := List.length_eq_two.mp length
  obtain ⟨firstValue, rest, isFirst, isRest, rfl⟩ := List.forall₂_cons_left_iff.mp denote
  obtain ⟨_, secondValue, same, rfl, isSecond⟩ := exists_single isRest rfl
  cases same
  exact ⟨first, second, firstValue, secondValue, rfl, rfl, isFirst, isSecond⟩

theorem computesExactly_remainder : ComputesExactly .mod remainder? := by
  intro operands values denote accepted number
  have length : operands.length = 2 := by simpa [Predicate.arity, Arity.accepts] using accepted
  obtain ⟨first, second, dividend, divisor, rfl, rfl, isFirst, isSecond⟩ :=
    exists_pair denote length
  have step : remainder? [first, second] = (dividend.rem? divisor).map .whole :=
    onPair?_whole isFirst isSecond
  rw [step, map_whole_eq_some_iff]
  simp only [Whole.rem?_eq_some_iff, IsExactResult, List.map_cons, List.map_nil]

theorem computesExactly_difference : ComputesExactly .subtract difference? := by
  intro operands values denote accepted number
  have length : operands.length = 2 := by simpa [Predicate.arity, Arity.accepts] using accepted
  obtain ⟨first, second, minuend, subtrahend, rfl, rfl, isFirst, isSecond⟩ :=
    exists_pair denote length
  have step : difference? [first, second] = (minuend.sub? subtrahend).map .whole :=
    onPair?_whole isFirst isSecond
  rw [step, map_whole_eq_some_iff]
  exact exists_congr fun result => and_congr_right fun _ => Whole.ofInt?_eq_some_iff_and_fits

theorem computesExactly_absolute : ComputesExactly .abs absolute? := by
  intro operands values denote accepted number
  have length : operands.length = 1 := by simpa [Predicate.arity, Arity.accepts] using accepted
  obtain ⟨operand, value, rfl, rfl, isValue⟩ := exists_single denote length
  have step : absolute? [operand] = value.abs?.map .whole := by
    change operand.number?.bind Number.abs? = _
    rw [isValue]
    rfl
  rw [step, map_whole_eq_some_iff]
  exact exists_congr fun result => and_congr_right fun _ => Whole.ofInt?_eq_some_iff_and_fits

/-! ### The functions of any number of operands -/

/-- The numbers of operands that denote whole numbers. -/
theorem numbers?_whole {operands : List Literal} {values : List Whole}
    (denote : List.Forall₂ Denotes operands values) :
    numbers? operands = some (values.map .whole) := by
  induction denote with
  | nil => rfl
  | cons isValue _ ih =>
    unfold numbers? at ih ⊢
    rw [List.mapM_cons, isValue, ih]
    rfl

/-- What holds of every front part of a list holds of the empty one and of those that begin with the
first item. -/
theorem forall_prefix_cons_iff {holds : List Int → Prop} {first : Int} {rest : List Int} :
    (∀ front, front <+: first :: rest → holds front) ↔
      holds [] ∧ ∀ later, later <+: rest → holds (first :: later) := by
  constructor
  · intro all
    exact ⟨all [] List.nil_prefix,
      fun later isLater => all _ (List.prefix_cons_iff.mpr (.inr ⟨later, rfl, isLater⟩))⟩
  · rintro ⟨nothing, behind⟩ front isFront
    rcases List.prefix_cons_iff.mp isFront with rfl | ⟨later, rfl, isLater⟩
    · exact nothing
    · exact behind later isLater

/-- **A checked operation from left to right** over whole numbers computes the exact value, and
nothing as soon as the value of a part up to some operand does not fit. -/
theorem foldlM_whole_eq_some_iff {operation : Int → Int → Int}
    {onNumbers : Number → Number → Option Number}
    (step : ∀ first second : Whole, onNumbers (.whole first) (.whole second) =
      (Whole.ofInt? (operation first.toInt second.toInt)).map .whole)
    {first : Whole} {rest : List Whole} {number : Number} :
    (rest.map Number.whole).foldlM onNumbers (.whole first) = some number ↔
      ∃ result : Whole, number = .whole result ∧
        result.toInt = (rest.map Whole.toInt).foldl operation first.toInt ∧
          ∀ front, front <+: rest.map Whole.toInt →
            Whole.Fits (front.foldl operation first.toInt) := by
  induction rest generalizing first with
  | nil =>
    constructor
    · intro same
      refine ⟨first, (Option.some.inj same).symm, rfl, fun front isFront => ?_⟩
      rw [List.prefix_nil.mp isFront]
      exact first.fits
    · rintro ⟨result, rfl, same, -⟩
      rw [Whole.ext same]
      rfl
  | cons second others ih =>
    rw [List.map_cons, List.foldlM_cons, step]
    by_cases fits : Whole.Fits (operation first.toInt second.toInt)
    · obtain ⟨next, isNext, value⟩ := Whole.exists_of_fits fits
      rw [isNext, Option.map_some]
      change (others.map Number.whole).foldlM onNumbers (.whole next) = some number ↔ _
      rw [ih, value]
      refine exists_congr fun result => and_congr_right fun _ => and_congr_right fun _ => ?_
      rw [List.map_cons, forall_prefix_cons_iff]
      exact (and_iff_right first.fits).symm
    · have noNext : Whole.ofInt? (operation first.toInt second.toInt) = none := by
        rw [Option.eq_none_iff_forall_ne_some]
        exact fun next isNext => fits (Whole.fits_of_ofInt? isNext)
      rw [noNext]
      constructor
      · intro failed
        cases failed
      · rintro ⟨_, _, _, allFit⟩
        exact absurd (allFit [second.toInt] ⟨_, rfl⟩) fits

/-- A total of whole numbers, as an integer. -/
def exactTotal (total : List Int → Int) (values : List Whole) : Int :=
  total (values.map Whole.toInt)

/-- What folding an operation over one or more whole numbers comes to: their total, as long as the
total of every part of them up to some operand fits. -/
def FoldsTo (onNumbers : Number → Number → Option Number) (total : List Int → Int) : Prop :=
  ∀ operands values, List.Forall₂ Denotes operands values → operands ≠ [] → ∀ number,
    fold? onNumbers operands = some number ↔ ∃ result : Whole, number = .whole result ∧
      result.toInt = exactTotal total values ∧
        ∀ front, front <+: values.map Whole.toInt → Whole.Fits (total front)

/-- Folding an operation comes to the total, if the operation is that of the integers and the total
adds up alike. -/
theorem foldsTo_of_step {onNumbers : Number → Number → Option Number} {operation : Int → Int → Int}
    {total : List Int → Int}
    (step : ∀ first second : Whole, onNumbers (.whole first) (.whole second) =
      (Whole.ofInt? (operation first.toInt second.toInt)).map .whole)
    (totals : ∀ first rest, total (first :: rest) = rest.foldl operation first)
    (nothing : Whole.Fits (total [])) : FoldsTo onNumbers total := by
  intro operands values denote nonempty number
  obtain ⟨operand, others, rfl⟩ := List.exists_cons_of_ne_nil nonempty
  obtain ⟨first, rest, -, -, rfl⟩ := List.forall₂_cons_left_iff.mp denote
  have folded : fold? onNumbers (operand :: others) =
      (rest.map Number.whole).foldlM onNumbers (.whole first) := by
    unfold fold?
    rw [numbers?_whole denote]
    rfl
  rw [folded, foldlM_whole_eq_some_iff step]
  refine exists_congr fun result => and_congr_right fun _ => ?_
  rw [exactTotal, List.map_cons, totals]
  refine and_congr_right fun _ => ?_
  rw [forall_prefix_cons_iff, and_iff_right nothing]
  simp only [totals]

theorem foldsTo_sum : FoldsTo Number.add? List.sum :=
  foldsTo_of_step (fun _ _ => rfl)
    (fun first rest => by rw [List.sum_eq_foldl, List.foldl_cons, Int.zero_add]) (by decide)

theorem foldsTo_product : FoldsTo Number.mul? List.prod :=
  foldsTo_of_step (fun _ _ => rfl)
    (fun first rest => by rw [List.prod_eq_foldl, List.foldl_cons, Int.one_mul]) (by decide)

/-- A function that folds an operation over its operands computes exactly, if the exact results are
the totals. -/
theorem computesExactly_fold {predicate : Predicate} {onNumbers : Number → Number → Option Number}
    {total : List Int → Int} (folds : FoldsTo onNumbers total)
    (arity : predicate.arity = .atLeast 3)
    (isExact : ∀ operands result, IsExactResult predicate operands result ↔
      result = total operands ∧ ∀ front, front <+: operands → Whole.Fits (total front)) :
    ComputesExactly predicate (fold? onNumbers) := by
  intro operands values denote accepted number
  have nonempty : operands ≠ [] := by
    rintro rfl
    rw [arity] at accepted
    exact absurd accepted (by decide)
  rw [folds operands values denote nonempty]
  simp only [isExact, exactTotal]

theorem computesExactly_sum : ComputesExactly .add sum? :=
  computesExactly_fold foldsTo_sum rfl (fun _ _ => Iff.rfl)

theorem computesExactly_product : ComputesExactly .multiply product? :=
  computesExactly_fold foldsTo_product rfl (fun _ _ => Iff.rfl)

end Arithmetic

/-! ### Registry entries -/

/-- The predicates that compute with numbers. -/
def Predicate.arithmetic : List Predicate := [mod, add, subtract, multiply, abs]

/-- An arithmetic predicate takes a result and at least one operand. -/
theorem Predicate.one_lt_of_accepts {predicate : Predicate} {count : Nat}
    (isArithmetic : predicate ∈ Predicate.arithmetic)
    (accepted : predicate.arity.accepts count = true) : 1 < count := by
  have atLeastTwo : ∀ other ∈ Predicate.arithmetic,
      other.arity.accepts count = true → 1 < count := by
    simp only [Predicate.arithmetic, List.forall_mem_cons, Predicate.arity, Arity.accepts,
      beq_iff_eq, decide_eq_true_eq]
    refine ⟨?_, ?_, ?_, ?_, ?_, fun _ member => nomatch member⟩ <;> omega
  exact atLeastTwo predicate isArithmetic accepted

/-- The meaning of a function that computes a number. -/
def Meaning.ofNumber (compute? : List Literal → Option Number) : Meaning :=
  .function fun operands => (compute? operands).map .number

/-- **The standard entry of an arithmetic predicate computes exactly.** -/
theorem Spec.exists_computesExactly {spec : Spec} (standard : spec ∈ Spec.standard)
    (isArithmetic : spec.predicate ∈ Predicate.arithmetic) :
    ∃ compute?, spec.meaning = .ofNumber compute? ∧
      Arithmetic.ComputesExactly spec.predicate compute? := by
  have noTextual : ∀ other ∈ Spec.textual, other.predicate ∉ Predicate.arithmetic := by decide
  have numeric : ∀ other ∈ Spec.numeric, other.predicate ∈ Predicate.arithmetic →
      ∃ compute?, other.meaning = .ofNumber compute? ∧
        Arithmetic.ComputesExactly other.predicate compute? := by
    unfold Spec.numeric
    simp only [List.forall_mem_cons, Spec.ofNumbers, Spec.ofTest]
    refine ⟨fun _ => ⟨_, rfl, Arithmetic.computesExactly_remainder⟩,
      fun _ => ⟨_, rfl, Arithmetic.computesExactly_sum⟩,
      fun _ => ⟨_, rfl, Arithmetic.computesExactly_difference⟩,
      fun _ => ⟨_, rfl, Arithmetic.computesExactly_product⟩,
      fun _ => ⟨_, rfl, Arithmetic.computesExactly_absolute⟩, ?_, ?_, ?_, ?_, ?_, ?_, ?_⟩
    · exact fun isArithmetic => absurd isArithmetic (by decide)
    · exact fun isArithmetic => absurd isArithmetic (by decide)
    · exact fun isArithmetic => absurd isArithmetic (by decide)
    · exact fun isArithmetic => absurd isArithmetic (by decide)
    · exact fun isArithmetic => absurd isArithmetic (by decide)
    · exact fun isArithmetic => absurd isArithmetic (by decide)
    · exact fun _ member => nomatch member
  rcases List.mem_append.mp standard with inNumeric | inTextual
  · exact numeric spec inNumeric isArithmetic
  · exact absurd isArithmetic (noTextual spec inTextual)

end RuleAtoms
