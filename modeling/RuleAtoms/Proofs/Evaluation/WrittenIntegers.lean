/-
**Filtering integers that bind mode has written.**

Bind mode writes the integer that an arithmetic function computes in the datatype of the first
operand, and as an `xsd:integer` when it is out of the bounds of that. Either way the token is a
canonical one, even if those of the operands are not, so filtering again computes the same integer
and finds it written as it has to be.

* `Fills.satisfies_set_of_whole`: a row in which an integer was written satisfies the atom;
* `run_filter_run_bind_integers`: filtering again what bind mode has made changes nothing.
-/

import RuleAtoms.Proofs.Evaluation.WrittenResults
import RuleAtoms.Proofs.Literal.IntegralToken
import RuleAtoms.Proofs.Predicate.WholeArithmetic

namespace RuleAtoms

/-- An argument that is read from a token of a whole number in a row, unless it is absent. -/
def Argument.ReadsWhole (columns : List String) (cells : Row) (argument : Argument) : Prop :=
  ∀ value, argument.HasValue columns cells value →
    ∃ token integer, value = .ofToken token ∧ Literal.WholeToken integer token

namespace Evaluation

section Integers

variable {relation : Relation} {cells : Row} {operands : List Argument} {predicate : Predicate}
  {compute? : List Literal → Option Number}

/-- An argument that is read from a token of a whole number. -/
theorem readsWhole_of_hasValue {argument : Argument} {token : String} {integer : Whole}
    (isValue : argument.HasValue relation.columns cells (.ofToken token))
    (isToken : Literal.WholeToken integer token) :
    argument.ReadsWhole relation.columns cells :=
  fun _ other => ⟨token, integer, other.unique isValue, isToken⟩

/-- Operands that are read from tokens of whole numbers denote these. -/
theorem exists_denotes {values : List Literal}
    (read : List.Forall₂ (Argument.HasValue relation.columns cells) operands values)
    (whole : ∀ operand ∈ operands, operand.ReadsWhole relation.columns cells) :
    ∃ integers, List.Forall₂ Arithmetic.Denotes values integers := by
  induction read with
  | nil => exact ⟨[], .nil⟩
  | cons isValue _ ih =>
    obtain ⟨token, integer, rfl, isToken⟩ := whole _ List.mem_cons_self _ isValue
    obtain ⟨integers, denote⟩ :=
      ih fun operand member => whole operand (List.mem_cons_of_mem _ member)
    exact ⟨integer :: integers, .cons isToken.number? denote⟩

/-- **A row in which an integer was written** satisfies the atom. -/
theorem Fills.satisfies_set_of_whole {result : Variable} {index : Nat} {written : Literal}
    (computes : Arithmetic.ComputesExactly predicate compute?)
    (accepted : predicate.arity.accepts (operands.length + 1) = true) (nonempty : operands ≠ [])
    (whole : ∀ operand ∈ operands, operand.ReadsWhole relation.columns cells)
    (fills : Fills relation.columns cells (.ofNumber compute?) (.variable result :: operands) index
      written) :
    Satisfies relation.columns (.ofNumber compute?) (.variable result :: operands)
      (cells.set index (some written.token)) := by
  unfold Meaning.ofNumber at fills ⊢
  cases fills with
  | intro _ _ _ _ column values outcome isColumn named absent read computed =>
    rw [satisfies_set_iff_agrees isColumn named absent read computed]
    obtain ⟨number, isNumber, rfl⟩ := Option.map_eq_some_iff.mp computed
    obtain ⟨integers, denote⟩ := exists_denotes read whole
    rw [read.length_eq] at accepted
    obtain ⟨exact, rfl, -⟩ := (computes values integers denote accepted number).mp isNumber
    obtain ⟨first, others, rfl⟩ := List.exists_cons_of_ne_nil nonempty
    obtain ⟨value, _, isValue, -, rfl⟩ := List.forall₂_cons_left_iff.mp read
    obtain ⟨token, integer, rfl, isToken⟩ := whole first List.mem_cons_self value isValue
    cases isToken with
    | intro lexical datatype type spelling _ =>
      rw [List.head?_cons, Literal.ofToken_of_spelling spelling]
      exact (Literal.canonicalToken_toLiteral spelling lexical exact).agrees_iff.mpr rfl

end Integers

/-- **Filtering what bind mode has written** for an arithmetic predicate changes nothing, and keeps
every row that an integer was written to, where the operands that are present are read from tokens
of whole numbers. -/
theorem run_filter_run_bind_integers {registry : Registry} {atom : Atom} {spec : Spec}
    {result : Variable} {operands : List Argument} (relation : Relation)
    (registered : registry.get? atom.predicate = some spec) (standard : spec ∈ Spec.standard)
    (isArithmetic : spec.predicate ∈ Predicate.arithmetic)
    (accepted : spec.predicate.arity.accepts atom.arguments.length = true)
    (unmarked : ∀ wanted ∈ atom.variableList, Unmarked wanted.name)
    (arguments : atom.arguments = .variable result :: operands)
    (whole : ∀ cells ∈ relation.rows, ∀ operand ∈ operands,
      operand.ReadsWhole relation.columns cells) :
    ∃ bound again, run registry .bind atom relation.table = .ok bound ∧
      run registry .filter atom bound.relation.table = .ok again ∧
      again.relation = bound.relation ∧
      ∀ cells ∈ relation.rows, ∀ index written,
        Fills relation.columns cells spec.meaning atom.arguments index written →
          cells.set index (some written.token) ∈ again.relation.rows := by
  refine exists_run_filter_run_bind relation registered accepted unmarked
    fun cells member index written fills => ?_
  obtain ⟨compute?, meaning, computes⟩ := Spec.exists_computesExactly standard isArithmetic
  have several := Predicate.one_lt_of_accepts isArithmetic accepted
  rw [arguments, List.length_cons] at accepted several
  rw [meaning, arguments] at fills ⊢
  have nonempty : operands ≠ [] := List.ne_nil_of_length_pos (by omega)
  exact fills.satisfies_set_of_whole computes accepted nonempty (whole cells member)

/-- Products by eight whose results are absent: one within the bounds of the operand, one beyond
them, and one of an absent operand. -/
def products : Relation where
  columns := ["?P", "A"]
  rows := [[none, some "+05^^xsd:byte"], [none, some "16^^byte"], [none, none]]
  distinct := by decide
  rectangular := by decide

def productAtom : Atom :=
  .ofPredicate .multiply
    [.variable ⟨"P"⟩, .variable ⟨"A"⟩, .literal (.ofToken " 08^^unsignedByte")]

def productSpec : Spec :=
  .ofNumbers .multiply "multiply(r, a, b, ...) means r = a * b * ..." Arithmetic.product?

/-- The operands of the products that are present are whole numbers. -/
theorem readsWhole_products : ∀ cells ∈ products.rows, ∀ operand ∈ productAtom.arguments.tail,
    operand.ReadsWhole products.columns cells := by
  have five : Literal.WholeToken ⟨5, by decide, by decide⟩ "+05^^xsd:byte" :=
    .intro "+05" "xsd:byte" .byte (by decide) rfl
  have sixteen : Literal.WholeToken ⟨16, by decide, by decide⟩ "16^^byte" :=
    .intro "16" "byte" .byte (by decide) rfl
  have eight : Literal.WholeToken ⟨8, by decide, by decide⟩ " 08^^unsignedByte" :=
    .intro " 08" "unsignedByte" .unsignedByte (by decide) rfl
  have constant : ∀ cells, (Argument.literal (.ofToken " 08^^unsignedByte")).ReadsWhole
      products.columns cells := fun cells => readsWhole_of_hasValue (.literal _) eight
  have present : ∀ (cells : Row) (token : String) (integer : Whole),
      cells[1]? = some (some token) → Literal.WholeToken integer token →
        (Argument.variable ⟨"A"⟩).ReadsWhole products.columns cells :=
    fun cells token _ isCell => readsWhole_of_hasValue
      (.variable ⟨"A"⟩ 1 "A" token rfl (by decide) isCell)
  have absent : (Argument.variable ⟨"A"⟩).ReadsWhole products.columns [none, none] := by
    intro value isValue
    cases isValue with
    | «variable» _ index column token isColumn named present =>
      exact absurd (List.mem_of_getElem? present) (by simp)
  unfold products productAtom Atom.ofPredicate
  simp only [List.forall_mem_cons, List.tail_cons]
  refine ⟨⟨?_, constant _, fun _ member => nomatch member⟩,
    ⟨?_, constant _, fun _ member => nomatch member⟩,
    ⟨?_, constant _, fun _ member => nomatch member⟩, fun _ member => nomatch member⟩
  · exact present _ _ _ rfl five
  · exact present _ _ _ rfl sixteen
  · exact absent

/-- Filtering what was written into the products. -/
theorem run_filter_run_bind_products :
    Registry.standard.get? productAtom.predicate = some productSpec ∧
      productSpec ∈ Spec.standard ∧ productSpec.predicate ∈ Predicate.arithmetic ∧
      productSpec.predicate.arity.accepts productAtom.arguments.length = true ∧
      (∀ wanted ∈ productAtom.variableList, Unmarked wanted.name) ∧
      productAtom.arguments = .variable ⟨"P"⟩ :: productAtom.arguments.tail ∧
      (∀ cells ∈ products.rows, ∀ operand ∈ productAtom.arguments.tail,
        operand.ReadsWhole products.columns cells) ∧
      ∃ bound again, run Registry.standard .bind productAtom products.table = .ok bound ∧
        run Registry.standard .filter productAtom bound.relation.table = .ok again ∧
        again.relation = bound.relation ∧
        bound.relation.rows =
          [[some "40^^xsd:byte", some "+05^^xsd:byte"],
            [some "128^^http://www.w3.org/2001/XMLSchema#integer", some "16^^byte"]] := by
  have registered : Registry.standard.get? productAtom.predicate = some productSpec := rfl
  have standard : productSpec ∈ Spec.standard :=
    List.mem_append_left _ (.tail _ (.tail _ (.tail _ (.head _))))
  have isArithmetic : productSpec.predicate ∈ Predicate.arithmetic := by decide
  have accepted : productSpec.predicate.arity.accepts productAtom.arguments.length = true := by
    decide
  have unmarked : ∀ wanted ∈ productAtom.variableList, Unmarked wanted.name := by decide
  obtain ⟨bound, again, boundOk, againOk, same, -⟩ :=
    run_filter_run_bind_integers products registered standard isArithmetic accepted unmarked rfl
      readsWhole_products
  refine ⟨registered, standard, isArithmetic, accepted, unmarked, rfl, readsWhole_products, bound,
    again, boundOk, againOk, same, ?_⟩
  rw [(columns_rows_of_run boundOk registered accepted unmarked).2]
  decide

end Evaluation

end RuleAtoms
