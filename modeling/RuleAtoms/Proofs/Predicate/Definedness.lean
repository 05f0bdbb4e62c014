/-
**Where the functions have no result.**

The arity of a function leaves it as many operands as it needs, so that it never lacks a result for
their count. What is left is what the operands denote: the functions on numbers have no result when an
operand is no number, for a zero divisor, and when a step leaves the range of numbers; the functions on
texts always have one, but for a position that is no number.

* `foldlM_eq_none_iff`: a run from left to right has no result when it gets to a step that has none;
* `HasNoResult`, `Yields`: where a function has no result, and what its results are;
* `meets_mod`, `meets_add`, `meets_substring` and so on: the functions one by one;
* `compute?_eq_none_iff_hasNoResult`: **where the function of a standard entry has no result**.
-/

import Mathlib.Data.List.Basic
import RuleAtoms.Predicate.Registry
import RuleAtoms.Proofs.Number.Overflow

namespace RuleAtoms

namespace Arithmetic

variable {operation : Number → Number → Option Number} {operands : List Literal}

/-- **A run from left to right** has no result when it gets to a step that has none. -/
theorem foldlM_eq_none_iff {first : Number} {rest : List Number} :
    rest.foldlM operation first = none ↔ ∃ front next back sofar, rest = front ++ next :: back ∧
      front.foldlM operation first = some sofar ∧ operation sofar next = none := by
  induction rest generalizing first with
  | nil =>
    refine iff_of_false (fun failed => nomatch failed) ?_
    rintro ⟨front, next, back, sofar, parts, -⟩
    exact absurd parts.symm (List.append_ne_nil_of_right_ne_nil front (List.cons_ne_nil _ _))
  | cons second others ih =>
    rw [List.foldlM_cons]
    cases step : operation first second with
    | none => exact iff_of_true rfl ⟨[], second, others, first, rfl, rfl, step⟩
    | some later =>
      show others.foldlM operation later = none ↔ _
      rw [ih]
      constructor
      · rintro ⟨front, next, back, sofar, rfl, isSofar, fails⟩
        refine ⟨second :: front, next, back, sofar, rfl, ?_, fails⟩
        rw [List.foldlM_cons, step]
        exact isSofar
      · rintro ⟨front, next, back, sofar, parts, isSofar, fails⟩
        cases front with
        | nil =>
          obtain ⟨rfl, rfl⟩ := List.cons.inj parts
          obtain rfl := Option.some.inj isSofar
          cases step.symm.trans fails
        | cons other front =>
          obtain ⟨rfl, rfl⟩ := List.cons.inj parts
          rw [List.foldlM_cons, step] at isSofar
          exact ⟨front, next, back, sofar, rfl, isSofar, fails⟩

/-- Whether an operand is no number. -/
def HasNonNumber (operands : List Literal) : Prop := ∃ operand ∈ operands, operand.number? = none

theorem numbers?_eq_none_iff : numbers? operands = none ↔ HasNonNumber operands := by
  unfold numbers? HasNonNumber
  induction operands with
  | nil => simp
  | cons operand others ih =>
    simp only [List.mem_cons, exists_eq_or_imp]
    rw [List.mapM_cons, ← ih]
    cases operand.number? with
    | none => exact iff_of_true rfl (.inl rfl)
    | some number => cases others.mapM Literal.number? <;> simp

theorem numbers?_ne_nil (nonempty : operands ≠ []) : numbers? operands ≠ some [] := by
  obtain ⟨operand, others, rfl⟩ := List.exists_cons_of_ne_nil nonempty
  unfold numbers?
  rw [List.mapM_cons]
  cases operand.number? with
  | none => exact fun same => nomatch same
  | some number => cases others.mapM Literal.number? <;> simp

theorem numbers?_single (operand : Literal) :
    numbers? [operand] = operand.number?.map fun number => [number] := by
  unfold numbers?
  cases found : operand.number? <;> simp [found]

theorem numbers?_pair (first second : Literal) :
    numbers? [first, second] = first.number?.bind fun firstNumber =>
      second.number?.map fun secondNumber => [firstNumber, secondNumber] := by
  unfold numbers?
  cases isFirst : first.number? <;> cases isSecond : second.number? <;> simp [isFirst, isSecond]

/-- Whether some step from left to right leaves the range of numbers. -/
def SomeStepOverflows (operation : Number → Number → Option Number) (exact : ℚ → ℚ → ℚ) :
    List Number → Prop
  | [] => False
  | first :: rest => ∃ front next back sofar, rest = front ++ next :: back ∧
      front.foldlM operation first = some sofar ∧ sofar.Overflows exact next

/-- Whether an operation from left to right has no result: an operand is no number, or a step leaves
the range of numbers. -/
def Breaks (operation : Number → Number → Option Number) (exact : ℚ → ℚ → ℚ)
    (operands : List Literal) : Prop :=
  HasNonNumber operands ∨
    ∃ numbers, numbers? operands = some numbers ∧ SomeStepOverflows operation exact numbers

/-- **An operation over one or more operands** has no result exactly when it breaks. -/
theorem fold?_eq_none_iff {exact : ℚ → ℚ → ℚ} (nonempty : operands ≠ [])
    (step : ∀ {first second : Number},
      operation first second = none ↔ first.Overflows exact second) :
    fold? operation operands = none ↔ Breaks operation exact operands := by
  unfold fold? Breaks
  rw [← numbers?_eq_none_iff]
  cases found : numbers? operands with
  | none => exact iff_of_true rfl (.inl rfl)
  | some numbers =>
    cases numbers with
    | nil => exact absurd found (numbers?_ne_nil nonempty)
    | cons first rest =>
      show rest.foldlM operation first = none ↔ _
      rw [foldlM_eq_none_iff]
      simp only [step, SomeStepOverflows, reduceCtorEq, false_or, Option.some.injEq,
        exists_eq_left']

/-- An operation on two numbers is one from left to right. -/
theorem onPair?_eq_fold? (first second : Literal) :
    onPair? operation [first, second] = fold? operation [first, second] := by
  unfold onPair? fold? numbers?
  simp only [List.mapM_cons, List.mapM_nil]
  cases first.number? with
  | none => rfl
  | some firstNumber =>
    cases second.number? with
    | none => rfl
    | some secondNumber => exact (bind_pure (operation firstNumber secondNumber)).symm

end Arithmetic

namespace Predicate

open Arithmetic

/-- Where a function has no result for operands in a number that its arity leaves for them. A text that
fits in memory has a length that fits. -/
def HasNoResult : Predicate → List Literal → Prop
  | mod, operands =>
    HasNonNumber operands ∨ ∃ dividend divisor, numbers? operands = some [dividend, divisor] ∧
      (divisor.toRat = 0 ∨ (dividend = .whole .least ∧ divisor = .whole .minusOne))
  | add, operands => Breaks Number.add? (· + ·) operands
  | subtract, operands => Breaks Number.sub? (· - ·) operands
  | multiply, operands => Breaks Number.mul? (· * ·) operands
  | abs, operands => HasNonNumber operands ∨ numbers? operands = some [.whole .least]
  | substring, operands => HasNonNumber operands.tail
  | stringLength, operands => ∃ text ∈ operands, ¬ Whole.Fits text.lexical.length
  | _, _ => False

/-- What the results of a function are: a number, the number of characters, or a text. -/
def Yields : Predicate → List Literal → Outcome → Prop
  | mod, _, outcome | add, _, outcome | subtract, _, outcome | multiply, _, outcome
  | abs, _, outcome => ∃ number, outcome = .number number
  | stringLength, operands, outcome => ∃ text length, operands = [text] ∧
      outcome = .number (.whole length) ∧ length.toInt = text.lexical.length
  | _, _, outcome => ∃ text, outcome = .text text

/-- Whether a function has results where it should, and such as it should. -/
def Meets (predicate : Predicate) (compute? : List Literal → Option Outcome) : Prop :=
  ∀ operands, predicate.arity.accepts (operands.length + 1) = true →
    (compute? operands = none ↔ predicate.HasNoResult operands) ∧
      ∀ outcome, compute? operands = some outcome → predicate.Yields operands outcome

/-! ### Counts of operands -/

section counts

variable {predicate : Predicate} {operands : List Literal}

theorem exists_single_of_accepts (arity : predicate.arity = .exactly 2)
    (accepted : predicate.arity.accepts (operands.length + 1) = true) :
    ∃ operand, operands = [operand] := by
  rw [arity] at accepted
  exact List.length_eq_one_iff.mp (Nat.succ.inj (beq_iff_eq.mp accepted))

theorem exists_pair_of_accepts (arity : predicate.arity = .exactly 3)
    (accepted : predicate.arity.accepts (operands.length + 1) = true) :
    ∃ first second, operands = [first, second] := by
  rw [arity] at accepted
  exact List.length_eq_two.mp (Nat.succ.inj (beq_iff_eq.mp accepted))

/-- A function of two or more operands takes one at least. -/
theorem ne_nil_of_accepts (arity : predicate.arity = .atLeast 3)
    (accepted : predicate.arity.accepts (operands.length + 1) = true) : operands ≠ [] := by
  rintro rfl
  rw [arity] at accepted
  exact absurd accepted (by decide)

end counts

/-! ### Functions on numbers -/

section numbers

variable {predicate : Predicate} {compute? : List Literal → Option Number}

/-- A function that computes a number meets what is asked of it, if it has no result where it
should. -/
theorem meets_of_number (isNumber : ∀ operands number, predicate.Yields operands (.number number))
    (noResult : ∀ operands, predicate.arity.accepts (operands.length + 1) = true →
      (compute? operands = none ↔ predicate.HasNoResult operands)) :
    predicate.Meets fun operands => (compute? operands).map .number := by
  intro operands accepted
  refine ⟨Option.map_eq_none_iff.trans (noResult operands accepted), fun outcome found => ?_⟩
  obtain ⟨number, -, rfl⟩ := Option.map_eq_some_iff.mp found
  exact isNumber operands number

theorem meets_mod : mod.Meets fun operands => (remainder? operands).map .number := by
  refine meets_of_number (fun _ number => ⟨number, rfl⟩) fun operands accepted => ?_
  obtain ⟨first, second, rfl⟩ := exists_pair_of_accepts rfl accepted
  show (first.number?.bind fun dividend => second.number?.bind (Number.rem? dividend)) = none ↔
    HasNonNumber [first, second] ∨ ∃ dividend divisor, numbers? [first, second] =
      some [dividend, divisor] ∧ _
  rw [← numbers?_eq_none_iff, numbers?_pair]
  cases first.number? with
  | none => exact iff_of_true rfl (.inl rfl)
  | some dividend =>
    cases second.number? with
    | none => exact iff_of_true rfl (.inl rfl)
    | some divisor =>
      show dividend.rem? divisor = none ↔ _
      rw [Number.rem?_eq_none_iff]
      simp

theorem meets_abs : abs.Meets fun operands => (absolute? operands).map .number := by
  refine meets_of_number (fun _ number => ⟨number, rfl⟩) fun operands accepted => ?_
  obtain ⟨operand, rfl⟩ := exists_single_of_accepts rfl accepted
  show operand.number?.bind Number.abs? = none ↔
    HasNonNumber [operand] ∨ numbers? [operand] = some [.whole .least]
  rw [← numbers?_eq_none_iff, numbers?_single]
  cases operand.number? with
  | none => exact iff_of_true rfl (.inl rfl)
  | some number =>
    show number.abs? = none ↔ _
    rw [Number.abs?_eq_none_iff]
    simp

theorem meets_subtract : subtract.Meets fun operands => (difference? operands).map .number := by
  refine meets_of_number (fun _ number => ⟨number, rfl⟩) fun operands accepted => ?_
  obtain ⟨first, second, rfl⟩ := exists_pair_of_accepts rfl accepted
  show onPair? Number.sub? [first, second] = none ↔ _
  rw [onPair?_eq_fold?]
  exact fold?_eq_none_iff (List.cons_ne_nil _ _) Number.sub?_eq_none_iff

theorem meets_add : add.Meets fun operands => (sum? operands).map .number :=
  meets_of_number (fun _ number => ⟨number, rfl⟩) fun _ accepted =>
    fold?_eq_none_iff (ne_nil_of_accepts rfl accepted) Number.add?_eq_none_iff

theorem meets_multiply : multiply.Meets fun operands => (product? operands).map .number :=
  meets_of_number (fun _ number => ⟨number, rfl⟩) fun _ accepted =>
    fold?_eq_none_iff (ne_nil_of_accepts rfl accepted) Number.mul?_eq_none_iff

end numbers

/-! ### Functions on texts -/

section texts

variable {predicate : Predicate} {operands : List Literal}

/-- A function that computes a text whatever its operands are meets what is asked of it. -/
theorem meets_of_text {compute? : List Literal → Option String}
    (isText : ∀ operands text, predicate.Yields operands (.text text))
    (never : ∀ operands, ¬ predicate.HasNoResult operands)
    (defined : ∀ operands, predicate.arity.accepts (operands.length + 1) = true →
      ∃ text, compute? operands = some text) :
    predicate.Meets fun operands => (compute? operands).map .text := by
  intro operands accepted
  obtain ⟨text, computed⟩ := defined operands accepted
  simp only [computed]
  refine ⟨iff_of_false (fun failed => nomatch failed) (never operands), fun outcome found => ?_⟩
  obtain rfl := Option.some.inj found
  exact isText operands text

/-- A function of three arguments computes the first from two texts. -/
theorem exists_of_pair {compute : List Char × List Char → String}
    (arity : predicate.arity = .exactly 3)
    (accepted : predicate.arity.accepts (operands.length + 1) = true) :
    ∃ text, (TextFunctions.pair? operands).map compute = some text := by
  obtain ⟨first, second, rfl⟩ := exists_pair_of_accepts arity accepted
  exact ⟨_, rfl⟩

/-- A function of two arguments computes the first from one text. -/
theorem exists_of_single {compute : List Char → String} (arity : predicate.arity = .exactly 2)
    (accepted : predicate.arity.accepts (operands.length + 1) = true) :
    ∃ text, (TextFunctions.single? operands).map compute = some text := by
  obtain ⟨operand, rfl⟩ := exists_single_of_accepts arity accepted
  exact ⟨_, rfl⟩

theorem meets_substringBefore :
    substringBefore.Meets fun operands => (TextFunctions.substringBefore? operands).map .text :=
  meets_of_text (fun _ text => ⟨text, rfl⟩) (fun _ => id) fun _ => exists_of_pair rfl

theorem meets_substringAfter :
    substringAfter.Meets fun operands => (TextFunctions.substringAfter? operands).map .text :=
  meets_of_text (fun _ text => ⟨text, rfl⟩) (fun _ => id) fun _ => exists_of_pair rfl

theorem meets_stringConcat :
    stringConcat.Meets fun operands => (some (TextFunctions.concatenation operands)).map .text :=
  meets_of_text (fun _ text => ⟨text, rfl⟩) (fun _ => id) fun _ _ => ⟨_, rfl⟩

theorem meets_upperCase :
    upperCase.Meets fun operands => (TextFunctions.upperCase? operands).map .text :=
  meets_of_text (fun _ text => ⟨text, rfl⟩) (fun _ => id) fun _ => exists_of_single rfl

theorem meets_lowerCase :
    lowerCase.Meets fun operands => (TextFunctions.lowerCase? operands).map .text :=
  meets_of_text (fun _ text => ⟨text, rfl⟩) (fun _ => id) fun _ => exists_of_single rfl

/-- The number of characters is a result wherever 64 bits hold it. -/
theorem meets_stringLength :
    stringLength.Meets fun operands => (TextFunctions.length? operands).map .number := by
  intro operands accepted
  obtain ⟨operand, rfl⟩ := exists_single_of_accepts rfl accepted
  have computed : TextFunctions.length? [operand] =
      (Whole.ofInt? operand.lexical.length).map .whole := by
    rw [← String.length_toList]
    rfl
  simp only [computed, Option.map_map, Option.map_eq_none_iff, Option.map_eq_some_iff]
  constructor
  · show _ ↔ ∃ text ∈ [operand], ¬ Whole.Fits text.lexical.length
    rw [Option.eq_none_iff_forall_ne_some]
    simp only [List.mem_singleton, exists_eq_left]
    constructor
    · intro noWhole fits
      obtain ⟨length, isLength, -⟩ := Whole.exists_of_fits fits
      exact noWhole length isLength
    · intro tooLong length isLength
      exact tooLong (Whole.fits_of_ofInt? isLength)
  · rintro outcome ⟨length, isLength, rfl⟩
    exact ⟨operand, length, rfl, rfl, Whole.ofInt?_eq_some_iff.mp isLength⟩

/-- **A substring** lacks only the positions that its operands do not tell. -/
theorem meets_substring :
    substring.Meets fun operands => (TextFunctions.substring? operands).map .text := by
  intro operands accepted
  refine ⟨Option.map_eq_none_iff.trans ?_, fun outcome found => ?_⟩
  · show _ ↔ HasNonNumber operands.tail
    obtain ⟨least, most⟩ := (Bool.and_eq_true _ _).mp accepted
    match operands with
    | [] | [_] => exact absurd (of_decide_eq_true least) (by simp)
    | [text, start] =>
      show (TextFunctions.double? start).map _ = none ↔ _
      simp [TextFunctions.double?, HasNonNumber]
    | [text, start, length] =>
      show (TextFunctions.double? start).bind _ = none ↔ _
      cases found : start.number? with
      | none => simp [TextFunctions.double?, HasNonNumber, found]
      | some number => simp [TextFunctions.double?, HasNonNumber, found]
    | _ :: _ :: _ :: _ :: others =>
      exact absurd (of_decide_eq_true most) (by simp)
  · obtain ⟨text, -, rfl⟩ := Option.map_eq_some_iff.mp found
    exact ⟨text, rfl⟩

end texts

end Predicate

namespace Spec

/-- Whether the function of an entry, if it is one, meets what is asked of it. -/
def Meets (spec : Spec) : Prop :=
  ∀ compute?, spec.meaning = .function compute? → spec.predicate.Meets compute?

theorem meets_ofNumbers {predicate : Predicate} {description : String}
    {compute? : List Literal → Option Number}
    (meets : predicate.Meets fun operands => (compute? operands).map .number) :
    (ofNumbers predicate description compute?).Meets := by
  rintro _ isFunction
  obtain rfl := Meaning.function.inj isFunction
  exact meets

theorem meets_ofTexts {predicate : Predicate} {description : String}
    {compute? : List Literal → Option String}
    (meets : predicate.Meets fun operands => (compute? operands).map .text) :
    (ofTexts predicate description compute?).Meets := by
  rintro _ isFunction
  obtain rfl := Meaning.function.inj isFunction
  exact meets

theorem meets_ofTest {predicate : Predicate} {description : String}
    {holds : List Literal → Bool} : (ofTest predicate description holds).Meets :=
  fun _ isFunction => nomatch isFunction

theorem meets_of_mem_numeric : ∀ spec ∈ numeric, spec.Meets := by
  simp only [numeric, List.forall_mem_cons, meets_ofTest, true_and]
  exact ⟨meets_ofNumbers Predicate.meets_mod, meets_ofNumbers Predicate.meets_add,
    meets_ofNumbers Predicate.meets_subtract, meets_ofNumbers Predicate.meets_multiply,
    meets_ofNumbers Predicate.meets_abs, List.forall_mem_nil _⟩

theorem meets_of_mem_textual : ∀ spec ∈ textual, spec.Meets := by
  simp only [textual, List.forall_mem_cons, meets_ofTest, true_and]
  exact ⟨meets_ofTexts Predicate.meets_substringBefore,
    meets_ofTexts Predicate.meets_substringAfter, meets_ofTexts Predicate.meets_stringConcat,
    meets_ofNumbers Predicate.meets_stringLength, meets_ofTexts Predicate.meets_substring,
    meets_ofTexts Predicate.meets_upperCase, meets_ofTexts Predicate.meets_lowerCase,
    List.forall_mem_nil _⟩

/-- **Where the function of a standard entry has no result**: with as many operands as its arity leaves
for them, exactly where the operands themselves rule one out. -/
theorem compute?_eq_none_iff_hasNoResult {spec : Spec} (standard : spec ∈ Spec.standard)
    {compute? : List Literal → Option Outcome} (isFunction : spec.meaning = .function compute?)
    {operands : List Literal}
    (accepted : spec.predicate.arity.accepts (operands.length + 1) = true) :
    (compute? operands = none ↔ spec.predicate.HasNoResult operands) ∧
      ∀ outcome, compute? operands = some outcome → spec.predicate.Yields operands outcome := by
  have meets : spec.Meets := (List.mem_append.mp standard).elim (meets_of_mem_numeric spec)
    (meets_of_mem_textual spec)
  exact meets compute? isFunction operands accepted

/-- The least whole number has no remainder by minus one, though it has operands enough. -/
theorem remainder_least_minusOne :
    let operands : List Literal := [.plain "-9223372036854775808", .plain "-1"]
    Predicate.mod.arity.accepts (operands.length + 1) = true ∧
      (Arithmetic.remainder? operands).map Outcome.number = none := by
  intro operands
  have denote : Arithmetic.numbers? operands = some [.whole .least, .whole .minusOne] := by
    decide
  have accepted : Predicate.mod.arity.accepts (operands.length + 1) = true := rfl
  have defined :=
    compute?_eq_none_iff_hasNoResult (List.mem_append_left _ List.mem_cons_self) rfl accepted
  exact ⟨accepted, defined.1.mpr (.inr ⟨_, _, denote, .inr ⟨rfl, rfl⟩⟩)⟩

end Spec

end RuleAtoms
