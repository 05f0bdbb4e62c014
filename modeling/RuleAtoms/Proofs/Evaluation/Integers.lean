/-
**Arithmetic on tokens of integers.**

Where every argument of an arithmetic predicate is a canonical token of an integer, evaluating the
atom amounts to arithmetic on integers: which datatypes the tokens have, and that a row is compared
with the text that the result would have in the datatype of the first argument, is of no matter.

* `satisfies_iff_isExactResult`: such a row satisfies the atom exactly when its first integer is the
  exact result of the others;
* `run_filter_integers`: so filter mode keeps exactly these rows.
-/

import RuleAtoms.Proofs.Evaluation.Filter
import RuleAtoms.Proofs.Literal.IntegralToken
import RuleAtoms.Proofs.Predicate.WholeArithmetic

namespace RuleAtoms

/-- An argument whose value in a row is read from the canonical token of an integer. -/
def Argument.HasInteger (columns : List String) (cells : Row) (argument : Argument)
    (integer : Whole) : Prop :=
  ∃ token, argument.HasValue columns cells (.ofToken token) ∧ Literal.CanonicalToken integer token

namespace Evaluation

/-- A row of integers the first of which is the exact result of the others. -/
def HoldsExactly (columns : List String) (predicate : Predicate) (arguments : List Argument)
    (cells : Row) : Prop :=
  ∃ result operands,
    List.Forall₂ (Argument.HasInteger columns cells) arguments (result :: operands) ∧
      Arithmetic.IsExactResult predicate (operands.map Whole.toInt) result.toInt

section Integers

variable {relation : Relation} {cells : Row} {arguments : List Argument} {predicate : Predicate}
  {compute? : List Literal → Option Number}

/-- Arguments with integers have values, which are read from canonical tokens of these. -/
theorem exists_values {columns : List String} {integers : List Whole}
    (read : List.Forall₂ (Argument.HasInteger columns cells) arguments integers) :
    ∃ values, List.Forall₂ (Argument.HasValue columns cells) arguments values ∧
      List.Forall₂ (fun value integer =>
        ∃ token, value = Literal.ofToken token ∧ Literal.CanonicalToken integer token)
        values integers := by
  induction read with
  | nil => exact ⟨[], .nil, .nil⟩
  | cons hasInteger _ ih =>
    obtain ⟨token, isValue, canonical⟩ := hasInteger
    obtain ⟨values, areValues, areCanonical⟩ := ih
    exact ⟨.ofToken token :: values, .cons isValue areValues,
      .cons ⟨token, rfl, canonical⟩ areCanonical⟩

/-- **A row of integers satisfies the atom** exactly when the first one is the exact result of the
others. -/
theorem satisfies_iff_isExactResult {result : Whole} {operands : List Whole}
    (computes : Arithmetic.ComputesExactly predicate compute?)
    (accepted : predicate.arity.accepts arguments.length = true)
    (read : List.Forall₂ (Argument.HasInteger relation.columns cells) arguments
      (result :: operands)) :
    Satisfies relation.columns (.ofNumber compute?) arguments cells ↔
      Arithmetic.IsExactResult predicate (operands.map Whole.toInt) result.toInt := by
  obtain ⟨values, areValues, areCanonical⟩ := exists_values read
  have sameLength := read.length_eq
  obtain ⟨_, rest, ⟨token, rfl, canonical⟩, restCanonical, rfl⟩ :=
    List.forall₂_cons_right_iff.mp areCanonical
  have denote : List.Forall₂ Arithmetic.Denotes rest operands :=
    restCanonical.imp fun _ _ ⟨_, same, canonical⟩ => same ▸ canonical.wholeToken.number?
  rw [sameLength, List.length_cons, ← denote.length_eq] at accepted
  have computed := computes rest operands denote accepted
  rw [satisfies_iff_holds areValues]
  unfold Meaning.ofNumber
  rw [holds_function_iff]
  constructor
  · rintro ⟨outcome, isOutcome, agrees⟩
    obtain ⟨number, isNumber, rfl⟩ := Option.map_eq_some_iff.mp isOutcome
    obtain ⟨exact, rfl, isExact⟩ := (computed number).mp isNumber
    rwa [canonical.agrees_iff.mp agrees] at isExact
  · intro isExact
    have isNumber := (computed (.whole result)).mpr ⟨result, rfl, isExact⟩
    exact ⟨_, Option.map_eq_some_iff.mpr ⟨_, isNumber, rfl⟩, canonical.agrees_iff.mpr rfl⟩

/-- Where each argument has an integer, a row satisfies the atom exactly when it holds of these. -/
theorem satisfies_iff_holdsExactly
    (computes : Arithmetic.ComputesExactly predicate compute?)
    (accepted : predicate.arity.accepts arguments.length = true) (nonempty : arguments ≠ [])
    (integers : ∀ argument ∈ arguments, ∃ value,
      argument.HasInteger relation.columns cells value) :
    Satisfies relation.columns (.ofNumber compute?) arguments cells ↔
      HoldsExactly relation.columns predicate arguments cells := by
  unfold HoldsExactly
  constructor
  · intro satisfies
    obtain ⟨all, read⟩ := exists_forall₂ integers
    cases read with
    | nil => exact absurd rfl nonempty
    | cons isFirst isRest =>
      have read := List.Forall₂.cons isFirst isRest
      exact ⟨_, _, read, (satisfies_iff_isExactResult computes accepted read).mp satisfies⟩
  · rintro ⟨result, operands, read, isExact⟩
    exact (satisfies_iff_isExactResult computes accepted read).mpr isExact

end Integers

open Classical in
/-- **Filter mode does exact arithmetic on integers.** Where every argument of an arithmetic
predicate is a canonical token of an integer in every row, of whichever integral datatypes, exactly
the rows are kept whose first integer is the exact result of the others. -/
theorem run_filter_integers {registry : Registry} {atom : Atom} {spec : Spec} (relation : Relation)
    (registered : registry.get? atom.predicate = some spec) (standard : spec ∈ Spec.standard)
    (isArithmetic : spec.predicate ∈ Predicate.arithmetic)
    (accepted : spec.predicate.arity.accepts atom.arguments.length = true)
    (unmarked : ∀ wanted ∈ atom.variableList, Unmarked wanted.name)
    (integers : ∀ cells ∈ relation.rows, ∀ argument ∈ atom.arguments, ∃ value,
      argument.HasInteger relation.columns cells value) :
    ∃ outcome, run registry .filter atom relation.table = .ok outcome ∧
      outcome.relation.columns = relation.columns ∧
      outcome.relation.rows = relation.rows.filter
        (HoldsExactly relation.columns spec.predicate atom.arguments ·) := by
  obtain ⟨outcome, succeeds, sameColumns, rows⟩ :=
    run_table relation .filter registered accepted unmarked
  obtain ⟨compute?, meaning, computes⟩ := Spec.exists_computesExactly standard isArithmetic
  refine ⟨outcome, succeeds, sameColumns, ?_⟩
  have nonempty : atom.arguments ≠ [] := by
    have several := Predicate.one_lt_of_accepts isArithmetic accepted
    exact List.ne_nil_of_length_pos (by omega)
  rw [rows, filterMap_rowResult?_filter unmarked, meaning]
  refine List.filter_congr fun cells member => ?_
  rw [decide_eq_decide]
  exact satisfies_iff_holdsExactly computes accepted nonempty (integers cells member)

/-- Sums of two integers and minus one: one that is right, and one that is right in the end only,
because the two integers add up to more than fits. -/
def sums : Relation where
  columns := ["?S", "A", "?B"]
  rows :=
    [[some "300^^short", some "200^^xsd:unsignedByte", some "101^^int"],
      [some "9223372036854775807^^long", some "9223372036854775807^^integer", some "1^^byte"]]
  distinct := by decide
  rectangular := by decide

def sumAtom : Atom :=
  .ofPredicate .add
    [.variable ⟨"S"⟩, .variable ⟨"A"⟩, .variable ⟨"B"⟩,
      .literal (.ofToken "-1^^xsd:negativeInteger")]

def sumSpec : Spec :=
  .ofNumbers .add "add(r, a, b, ...) means r = a + b + ..." Arithmetic.sum?

/-- The arguments of the sums are integers, in every row. -/
theorem hasInteger_sums : ∀ cells ∈ sums.rows, ∀ argument ∈ sumAtom.arguments, ∃ integer,
    argument.HasInteger sums.columns cells integer := by
  have canonical : ∀ (value : Int) (datatype token : String) (type : NumericType),
      Whole.Fits value ∧ type.IsSpelling datatype ∧ type.Holds value ∧
        String.ofList (Number.intText value) ++ "^^" ++ datatype = token →
          ∃ integer, Literal.CanonicalToken integer token := by
    rintro value datatype _ type ⟨fits, spelling, holds, rfl⟩
    exact ⟨⟨value, fits.1, fits.2⟩, .intro datatype type spelling holds⟩
  have cell : ∀ (wanted : Variable) (index : Nat) (column token : String) (cells : Row),
      sums.columns[index]? = some column ∧ wanted.namesColumn column = true →
        cells[index]? = some (some token) → (∃ integer, Literal.CanonicalToken integer token) →
          ∃ integer, (Argument.variable wanted).HasInteger sums.columns cells integer := by
    rintro wanted index column token cells ⟨isColumn, named⟩ present ⟨integer, isToken⟩
    exact ⟨integer, token, .variable wanted index column token isColumn named present, isToken⟩
  have constant : ∀ cells, ∃ integer,
      (Argument.literal (.ofToken "-1^^xsd:negativeInteger")).HasInteger sums.columns cells
        integer := by
    intro cells
    obtain ⟨integer, isToken⟩ := canonical (-1) "xsd:negativeInteger" "-1^^xsd:negativeInteger"
      .negativeInteger (by decide)
    exact ⟨integer, _, .literal _, isToken⟩
  unfold sums sumAtom Atom.ofPredicate
  simp only [List.forall_mem_cons]
  refine ⟨⟨?_, ?_, ?_, constant _, fun _ member => nomatch member⟩,
    ⟨?_, ?_, ?_, constant _, fun _ member => nomatch member⟩, fun _ member => nomatch member⟩
  · exact cell _ 0 "?S" _ _ (by decide) rfl (canonical 300 "short" _ .short (by decide))
  · exact cell _ 1 "A" _ _ (by decide) rfl
      (canonical 200 "xsd:unsignedByte" _ .unsignedByte (by decide))
  · exact cell _ 2 "?B" _ _ (by decide) rfl (canonical 101 "int" _ .int (by decide))
  · exact cell _ 0 "?S" _ _ (by decide) rfl
      (canonical 9223372036854775807 "long" _ .long (by decide))
  · exact cell _ 1 "A" _ _ (by decide) rfl
      (canonical 9223372036854775807 "integer" _ .integer (by decide))
  · exact cell _ 2 "?B" _ _ (by decide) rfl (canonical 1 "byte" _ .byte (by decide))

open Classical in
/-- Of the sums, filter mode keeps the right one. -/
theorem run_filter_sums :
    Registry.standard.get? sumAtom.predicate = some sumSpec ∧ sumSpec ∈ Spec.standard ∧
      sumSpec.predicate ∈ Predicate.arithmetic ∧
      sumSpec.predicate.arity.accepts sumAtom.arguments.length = true ∧
      (∀ wanted ∈ sumAtom.variableList, Unmarked wanted.name) ∧
      (∀ cells ∈ sums.rows, ∀ argument ∈ sumAtom.arguments, ∃ integer,
        argument.HasInteger sums.columns cells integer) ∧
      ∃ outcome, run Registry.standard .filter sumAtom sums.table = .ok outcome ∧
        outcome.relation.rows =
          sums.rows.filter (HoldsExactly sums.columns sumSpec.predicate sumAtom.arguments ·) ∧
        outcome.relation.rows =
          [[some "300^^short", some "200^^xsd:unsignedByte", some "101^^int"]] := by
  have registered : Registry.standard.get? sumAtom.predicate = some sumSpec := rfl
  have standard : sumSpec ∈ Spec.standard := List.mem_append_left _ (.tail _ (.head _))
  have isArithmetic : sumSpec.predicate ∈ Predicate.arithmetic := by decide
  have accepted : sumSpec.predicate.arity.accepts sumAtom.arguments.length = true := by decide
  have unmarked : ∀ wanted ∈ sumAtom.variableList, Unmarked wanted.name := by decide
  obtain ⟨outcome, succeeds, -, rows⟩ :=
    run_filter_integers sums registered standard isArithmetic accepted unmarked hasInteger_sums
  refine ⟨registered, standard, isArithmetic, accepted, unmarked, hasInteger_sums, outcome,
    succeeds, rows, ?_⟩
  rw [(columns_rows_of_run succeeds registered accepted unmarked).2]
  decide

end Evaluation

end RuleAtoms
