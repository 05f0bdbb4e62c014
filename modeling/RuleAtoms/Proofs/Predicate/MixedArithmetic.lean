/-
**Sums and products with a double among the operands.**

An operation goes from left to right, and each step is one of doubles as soon as one of its two
numbers is a double. So the whole numbers in front of the first double are still combined as whole
numbers: their result may not fit, and it is rounded once and not at each step. From the first
double on, everything is done in doubles.

* `fold?_combine?`: the result, in terms of the whole numbers in front and of the doubles from there
  on;
* `fold?_combine?_eq_foldDoubles?`: it is the one of all operands as doubles, if doubles do the
  steps in front exactly, as they do up to `2 ^ 53`;
* `sum_product_of_double`: both for sums and products.
-/

import RuleAtoms.Proofs.Number.ExactArithmetic
import RuleAtoms.Proofs.Predicate.WholeArithmetic

namespace RuleAtoms.Arithmetic

/-- An operation from left to right over one or more doubles. -/
def foldDoubles? (onDoubles : Double → Double → Option Double) : List Double → Option Double
  | [] => none
  | first :: rest => rest.foldlM onDoubles first

/-- What the whole numbers in front of a double leave for the operation on doubles: nothing if there
are none, and else their own result, rounded. -/
def wholeFront? (onWholes : Whole → Whole → Option Whole) : List Whole → Option (List Double)
  | [] => some []
  | first :: rest => (rest.foldlM onWholes first).map fun result => [Double.ofWhole result]

theorem wholeFront?_cons (onWholes : Whole → Whole → Option Whole) (first : Whole)
    (others : List Whole) : wholeFront? onWholes (first :: others) =
      (others.foldlM onWholes first).map fun result => [Double.ofWhole result] := rfl

/-- What holds of each step from left to right: of the whole numbers so far and of the next one. -/
def EachStep (holds : List Whole → Whole → Prop) (wholes : List Whole) : Prop :=
  ∀ front next, front ≠ [] → front ++ [next] <+: wholes → holds front next

/-- Each step takes whole numbers up to `2 ^ 53` to one up to `2 ^ 53`. -/
def StaysSmall (total : List Int → Int) : List Whole → Prop :=
  EachStep fun front next =>
    (exactTotal total front).natAbs ≤ twoPow 53 ∧ next.toInt.natAbs ≤ twoPow 53 ∧
      (exactTotal total (front ++ [next])).natAbs ≤ twoPow 53

/-- No step over factors comes to zero with a negative one. -/
def AvoidsNegativeZero : List Whole → Prop :=
  EachStep fun front next => exactTotal List.prod (front ++ [next]) = 0 →
    0 ≤ exactTotal List.prod front ∧ 0 ≤ next.toInt

/-- There is one step over two whole numbers. -/
theorem eachStep_pair {holds : List Whole → Whole → Prop} {first second : Whole}
    (step : holds [first] second) : EachStep holds [first, second] := by
  intro front next nonempty isFront
  obtain ⟨head, others, rfl⟩ := List.exists_cons_of_ne_nil nonempty
  rw [List.cons_append, List.cons_prefix_cons] at isFront
  obtain ⟨rfl, behind⟩ := isFront
  cases others with
  | nil =>
    rw [List.nil_append, List.cons_prefix_cons] at behind
    rwa [behind.1]
  | cons other others =>
    rw [List.cons_append, List.cons_prefix_cons] at behind
    exact absurd (List.prefix_nil.mp behind.2) (List.concat_ne_nil next others)

/-! ### From the first double on -/

section Fold

variable {onWholes : Whole → Whole → Option Whole} {onDoubles : Double → Double → Option Double}
  {operands : List Literal} {wholes : List Whole} {double : Double} {rest : List Number}

/-- Whole numbers are combined as whole numbers. -/
theorem foldlM_combine?_whole (first : Whole) (others : List Whole) :
    (others.map Number.whole).foldlM (Number.combine? onWholes onDoubles) (.whole first) =
      (others.foldlM onWholes first).map .whole := by
  induction others generalizing first with
  | nil => rfl
  | cons second others ih =>
    rw [List.map_cons, List.foldlM_cons, List.foldlM_cons]
    change ((onWholes first second).map Number.whole >>= _) = _
    cases onWholes first second with
    | none => rfl
    | some result => exact ih result

/-- From a double on, everything is done in doubles. -/
theorem foldlM_combine?_double (double : Double) (rest : List Number) :
    rest.foldlM (Number.combine? onWholes onDoubles) (.double double) =
      ((rest.map Number.toDouble).foldlM onDoubles double).map .double := by
  induction rest generalizing double with
  | nil => rfl
  | cons next rest ih =>
    rw [List.map_cons, List.foldlM_cons, List.foldlM_cons]
    change ((onDoubles double next.toDouble).map Number.double >>= _) = _
    cases onDoubles double next.toDouble with
    | none => rfl
    | some result => exact ih result

/-- **The result of operands with a double among them**: the whole numbers in front of it are
combined first, and all that follows in doubles. -/
theorem fold?_combine?
    (coerce : numbers? operands = some (wholes.map Number.whole ++ .double double :: rest)) :
    fold? (Number.combine? onWholes onDoubles) operands =
      ((wholeFront? onWholes wholes).bind fun front =>
        foldDoubles? onDoubles (front ++ double :: rest.map Number.toDouble)).map .double := by
  unfold fold?
  rw [coerce]
  cases wholes with
  | nil => exact foldlM_combine?_double double rest
  | cons first others =>
    change (others.map Number.whole ++ .double double :: rest).foldlM _ (Number.whole first) = _
    rw [List.foldlM_append, foldlM_combine?_whole, wholeFront?_cons]
    cases others.foldlM onWholes first with
    | none => rfl
    | some result => exact foldlM_combine?_double (Double.ofWhole result) (.double double :: rest)

/-! ### All operands as doubles -/

/-- Each step comes to the exact total, whether it is done on whole numbers or on the doubles of
them. -/
def StepsAgree (onWholes : Whole → Whole → Option Whole)
    (onDoubles : Double → Double → Option Double) (total : List Int → Int) : List Whole → Prop :=
  EachStep fun front next =>
    ∀ sofar : Whole, sofar.toInt = exactTotal total front →
      ∃ result : Whole, result.toInt = exactTotal total (front ++ [next]) ∧
        onWholes sofar next = some result ∧
        onDoubles (.ofWhole sofar) (.ofWhole next) = some (.ofWhole result)

variable {total : List Int → Int}

/-- Whole numbers whose steps agree have a result, and the doubles of them have the same one. -/
theorem foldlM_ofWhole {front others : List Whole} {sofar : Whole}
    (agree : StepsAgree onWholes onDoubles total (front ++ others)) (nonempty : front ≠ [])
    (isTotal : sofar.toInt = exactTotal total front) :
    ∃ result, others.foldlM onWholes sofar = some result ∧
      (others.map Double.ofWhole).foldlM onDoubles (.ofWhole sofar) = some (.ofWhole result) := by
  induction others generalizing front sofar with
  | nil => exact ⟨sofar, rfl, rfl⟩
  | cons next others ih =>
    rw [List.append_cons] at agree
    obtain ⟨later, isLater, onWhole, onDouble⟩ :=
      agree front next nonempty (List.prefix_append _ _) sofar isTotal
    obtain ⟨result, wholly, doubly⟩ := ih agree (List.concat_ne_nil next front) isLater
    refine ⟨result, ?_, ?_⟩
    · rw [List.foldlM_cons, onWhole]
      exact wholly
    · rw [List.map_cons, List.foldlM_cons, onDouble]
      exact doubly

/-- **Operands whose whole numbers in front are combined alike as doubles** come to what all of them
come to as doubles. -/
theorem fold?_combine?_eq_foldDoubles? (single : ∀ value, total [value] = value)
    (coerce : numbers? operands = some (wholes.map Number.whole ++ .double double :: rest))
    (agree : StepsAgree onWholes onDoubles total wholes) :
    fold? (Number.combine? onWholes onDoubles) operands =
      (foldDoubles? onDoubles
        ((wholes.map Number.whole ++ .double double :: rest).map Number.toDouble)).map .double := by
  rw [fold?_combine? coerce, List.map_append, List.map_map]
  cases wholes with
  | nil => rfl
  | cons first others =>
    have agreeBehind : StepsAgree onWholes onDoubles total ([first] ++ others) := agree
    obtain ⟨result, wholly, doubly⟩ :=
      foldlM_ofWhole agreeBehind (List.cons_ne_nil _ _) (single first.toInt).symm
    rw [wholeFront?_cons, wholly]
    change ((double :: rest.map Number.toDouble).foldlM onDoubles _).map _ =
      ((others.map Double.ofWhole ++ double :: rest.map Number.toDouble).foldlM onDoubles
        (.ofWhole first)).map _
    rw [List.foldlM_append, doubly]
    rfl

end Fold

/-! ### Sums and products -/

theorem exactTotal_sum_concat (front : List Whole) (next : Whole) :
    exactTotal List.sum (front ++ [next]) = exactTotal List.sum front + next.toInt := by
  unfold exactTotal
  rw [List.map_append, List.sum_append, List.map_singleton, List.sum_singleton]

theorem exactTotal_product_concat (front : List Whole) (next : Whole) :
    exactTotal List.prod (front ++ [next]) = exactTotal List.prod front * next.toInt := by
  unfold exactTotal
  rw [List.map_append, List.prod_append, List.map_singleton, List.prod_singleton]

theorem stepsAgree_sum {wholes : List Whole} (small : StaysSmall List.sum wholes) :
    StepsAgree Whole.add? Double.add? List.sum wholes := by
  intro front next nonempty isFront sofar isTotal
  obtain ⟨frontSmall, nextSmall, sumSmall⟩ := small front next nonempty isFront
  obtain ⟨result, isResult, value⟩ := Whole.exists_of_fits (Whole.fits_of_small sumSmall)
  rw [exactTotal_sum_concat, ← isTotal] at value isResult
  refine ⟨result, by rw [exactTotal_sum_concat, ← isTotal, value], isResult, ?_⟩
  exact Double.add?_ofWhole (isTotal ▸ frontSmall) nextSmall value

theorem stepsAgree_product {wholes : List Whole} (small : StaysSmall List.prod wholes)
    (unsigned : AvoidsNegativeZero wholes) :
    StepsAgree Whole.mul? Double.mul? List.prod wholes := by
  intro front next nonempty isFront sofar isTotal
  obtain ⟨frontSmall, nextSmall, productSmall⟩ := small front next nonempty isFront
  obtain ⟨result, isResult, value⟩ := Whole.exists_of_fits (Whole.fits_of_small productSmall)
  have stepUnsigned : exactTotal List.prod (front ++ [next]) = 0 →
      0 ≤ exactTotal List.prod front ∧ 0 ≤ next.toInt := unsigned front next nonempty isFront
  rw [← value, ← isTotal] at stepUnsigned
  rw [exactTotal_product_concat, ← isTotal] at value isResult
  refine ⟨result, by rw [exactTotal_product_concat, ← isTotal, value], isResult, ?_⟩
  exact Double.mul?_ofWhole (isTotal ▸ frontSmall) nextSmall value stepUnsigned

/-- Numbers with a double among them begin with whole numbers up to the first double. -/
theorem exists_wholes_append_double {numbers : List Number}
    (mixed : ∃ double, Number.double double ∈ numbers) :
    ∃ (wholes : List Whole) (double : Double) (rest : List Number),
      numbers = wholes.map Number.whole ++ .double double :: rest := by
  induction numbers with
  | nil => exact absurd mixed.choose_spec List.not_mem_nil
  | cons first others ih =>
    cases first with
    | double double => exact ⟨[], double, others, rfl⟩
    | whole whole =>
      obtain ⟨member, isMember⟩ := mixed
      rcases List.mem_cons.mp isMember with same | inOthers
      · cases same
      · obtain ⟨wholes, double, rest, rfl⟩ := ih ⟨member, inOthers⟩
        exact ⟨whole :: wholes, double, rest, rfl⟩

/-- **Sums and products with a double among the operands.** The whole numbers in front of the first
double are combined as whole numbers, and from there on everything is done in doubles. The result is
the one of all operands as doubles if the whole numbers stay small and a product of them is no
negative zero. -/
theorem sum_product_of_double {operands : List Literal} {numbers : List Number}
    (coerce : numbers? operands = some numbers)
    (mixed : ∃ double, Number.double double ∈ numbers) :
    ∃ (wholes : List Whole) (double : Double) (rest : List Number),
      numbers = wholes.map Number.whole ++ .double double :: rest ∧
      sum? operands = ((wholeFront? Whole.add? wholes).bind fun front =>
        foldDoubles? Double.add? (front ++ double :: rest.map Number.toDouble)).map .double ∧
      product? operands = ((wholeFront? Whole.mul? wholes).bind fun front =>
        foldDoubles? Double.mul? (front ++ double :: rest.map Number.toDouble)).map .double ∧
      (StaysSmall List.sum wholes →
        sum? operands =
          (foldDoubles? Double.add? (numbers.map Number.toDouble)).map .double) ∧
      (StaysSmall List.prod wholes → AvoidsNegativeZero wholes →
        product? operands =
          (foldDoubles? Double.mul? (numbers.map Number.toDouble)).map .double) := by
  obtain ⟨wholes, double, rest, rfl⟩ := exists_wholes_append_double mixed
  refine ⟨wholes, double, rest, rfl, fold?_combine? coerce, fold?_combine? coerce, ?_, ?_⟩
  · intro small
    exact fold?_combine?_eq_foldDoubles? (fun value => List.sum_singleton) coerce
      (stepsAgree_sum small)
  · intro small unsigned
    exact fold?_combine?_eq_foldDoubles? (fun value => List.prod_singleton) coerce
      (stepsAgree_product small unsigned)

/-- The double one half. -/
def half : Double := ⟨false, twoPow 1073, by decide +kernel, by decide +kernel⟩

/-- Small whole numbers in front of a double, and a large one behind it. -/
def smallFront : List Literal :=
  [.plain "3", .plain "4", .plain "0.5", .plain "9223372036854775807"]

def smallFrontNumbers : List Number :=
  [.whole ⟨3, by decide, by decide⟩, .whole ⟨4, by decide, by decide⟩, .double half,
    .whole .greatest]

/-- The sum and the product of these are those of all of them as doubles. -/
theorem sum_product_smallFront :
    numbers? smallFront = some smallFrontNumbers ∧ Number.double half ∈ smallFrontNumbers ∧
      sum? smallFront =
        (foldDoubles? Double.add? (smallFrontNumbers.map Number.toDouble)).map .double ∧
      product? smallFront =
        (foldDoubles? Double.mul? (smallFrontNumbers.map Number.toDouble)).map .double := by
  have coerce : numbers? smallFront = some smallFrontNumbers := by decide +kernel
  have member : Number.double half ∈ smallFrontNumbers := by simp [smallFrontNumbers]
  obtain ⟨wholes, double, rest, split, -, -, asSum, asProduct⟩ :=
    sum_product_of_double coerce ⟨half, member⟩
  obtain rfl : wholes = [⟨3, by decide, by decide⟩, ⟨4, by decide, by decide⟩] := by
    rcases wholes with _ | ⟨first, _ | ⟨second, _ | ⟨third, others⟩⟩⟩ <;>
      simp_all [smallFrontNumbers]
  exact ⟨coerce, member, asSum (eachStep_pair (by decide)),
    asProduct (eachStep_pair (by decide)) (eachStep_pair (by decide))⟩

/-- The greatest whole number, one and one half have no sum, since the first two are added as whole
numbers; as doubles they have one. -/
theorem sum?_greatest_one_half :
    let operands : List Literal := [.plain "9223372036854775807", .plain "1", .plain "0.5"]
    let numbers : List Number :=
      [.whole .greatest, .whole ⟨1, by decide, by decide⟩, .double half]
    numbers? operands = some numbers ∧ sum? operands = none ∧
      foldDoubles? Double.add? (numbers.map Number.toDouble) = some (.ofWhole .greatest) := by
  decide +kernel

end RuleAtoms.Arithmetic
