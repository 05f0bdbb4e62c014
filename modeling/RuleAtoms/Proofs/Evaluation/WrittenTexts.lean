/-
**Filtering what bind mode has written.**

A result that bind mode writes is a token, and filtering again reads it. A text is then the result
of the same function again exactly when its literal reads back from its token, so filtering drops
the rows in which it does not, and no others.

* `run_filter_run_bind`: for the functions on texts, filtering again drops exactly the rows into
  which a literal without a faithful token was written;
* `run_filter_run_bind_ne`: there are such rows.
-/

import RuleAtoms.Proofs.Evaluation.WrittenResults
import RuleAtoms.Proofs.Literal.FaithfulToken

namespace RuleAtoms

/-- The predicates that compute a text. -/
def Predicate.textFunctions : List Predicate :=
  [substringBefore, substringAfter, stringConcat, substring, upperCase, lowerCase]

/-- The meaning of a function that computes a text. -/
def Meaning.ofText (compute? : List Literal → Option String) : Meaning :=
  .function fun operands => (compute? operands).map .text

/-- The standard entry of a predicate that computes a text means such a function. -/
theorem Spec.exists_meaning_ofText {spec : Spec} (standard : spec ∈ Spec.standard)
    (makesText : spec.predicate ∈ Predicate.textFunctions) :
    ∃ compute?, spec.meaning = .ofText compute? := by
  have noNumeric : ∀ other ∈ Spec.numeric, other.predicate ∉ Predicate.textFunctions := by decide
  have textual : ∀ other ∈ Spec.textual, other.predicate ∈ Predicate.textFunctions →
      ∃ compute?, other.meaning = .ofText compute? := by
    unfold Spec.textual
    simp only [List.forall_mem_cons, Spec.ofTexts, Spec.ofNumbers, Spec.ofTest]
    refine ⟨fun _ => ⟨_, rfl⟩, fun _ => ⟨_, rfl⟩, fun _ => ⟨_, rfl⟩, ?_, fun _ => ⟨_, rfl⟩,
      fun _ => ⟨_, rfl⟩, fun _ => ⟨_, rfl⟩, ?_, ?_, ?_, ?_⟩
    · exact fun makesText => absurd makesText (by decide)
    · exact fun makesText => absurd makesText (by decide)
    · exact fun makesText => absurd makesText (by decide)
    · exact fun makesText => absurd makesText (by decide)
    · exact fun _ member => nomatch member
  rcases List.mem_append.mp standard with inNumeric | inTextual
  · exact absurd makesText (noNumeric spec inNumeric)
  · exact textual spec inTextual makesText

namespace Evaluation

section Texts

variable {relation : Relation} {cells : Row} {compute? : List Literal → Option String}

/-- A text agrees with a literal when it is its lexical form. -/
theorem agrees_text_iff {text : String} {literal : Literal} :
    (RuleAtoms.Outcome.text text).agrees literal = true ↔ literal.lexical = text := by
  obtain ⟨lexical, kind⟩ := literal
  simpa [Outcome.agrees] using eq_comm

/-- **A written text holds again exactly when its literal has a faithful token.** -/
theorem Fills.satisfies_set_iff {arguments : List Argument} {index : Nat} {written : Literal}
    (fills : Fills relation.columns cells (.ofText compute?) arguments index written) :
    Satisfies relation.columns (.ofText compute?) arguments
        (cells.set index (some written.token)) ↔ written.HasFaithfulToken := by
  unfold Meaning.ofText at fills ⊢
  cases fills with
  | intro _ result operands _ column values outcome isColumn named absent read computed =>
    obtain ⟨text, -, rfl⟩ := Option.map_eq_some_iff.mp computed
    have lexical : ((Outcome.text text).toLiteral values.head?).lexical = text := by
      cases values.head? <;> rfl
    rw [satisfies_set_iff_agrees isColumn named absent read computed, agrees_text_iff,
      ← Literal.lexical_ofToken_token_iff, lexical]

/-- A row into which a literal was written whose token reads as another one. -/
def IsMisread (columns : List String) (meaning : Meaning) (arguments : List Argument)
    (before : List Row) (row : Row) : Prop :=
  ∃ cells ∈ before, ∃ index written, Fills columns cells meaning arguments index written ∧
    row = cells.set index (some written.token) ∧ ¬ written.HasFaithfulToken

/-- What comes out of bind mode satisfies the atom unless it is misread. -/
theorem satisfies_iff_not_isMisread {arguments : List Argument} {row : Row}
    (member : cells ∈ relation.rows)
    (yields : Yields .bind relation.columns (.ofText compute?) arguments cells row) :
    Satisfies relation.columns (.ofText compute?) arguments row ↔
      ¬ IsMisread relation.columns (.ofText compute?) arguments relation.rows row := by
  constructor
  · rintro satisfies ⟨other, -, index, written, fills, rfl, unfaithful⟩
    exact unfaithful (fills.satisfies_set_iff.mp satisfies)
  · intro notMisread
    rcases yields with ⟨satisfies, rfl⟩ | ⟨-, index, written, fills, rfl⟩
    · exact satisfies
    · rw [fills.satisfies_set_iff]
      by_contra unfaithful
      exact notMisread ⟨cells, member, index, written, fills, rfl, unfaithful⟩

end Texts

open Classical in
/-- **Filtering what bind mode has written** for a function on texts drops exactly the rows that are
misread. It drops none exactly when every literal that was written has a faithful token. -/
theorem run_filter_run_bind {registry : Registry} {atom : Atom} {spec : Spec} (relation : Relation)
    (registered : registry.get? atom.predicate = some spec) (standard : spec ∈ Spec.standard)
    (makesText : spec.predicate ∈ Predicate.textFunctions)
    (accepted : spec.predicate.arity.accepts atom.arguments.length = true)
    (unmarked : ∀ wanted ∈ atom.variableList, Unmarked wanted.name) :
    ∃ bound again, run registry .bind atom relation.table = .ok bound ∧
      run registry .filter atom bound.relation.table = .ok again ∧
      again.relation.columns = bound.relation.columns ∧
      again.relation.rows = bound.relation.rows.filter
        (¬ IsMisread relation.columns spec.meaning atom.arguments relation.rows ·) ∧
      (again.relation = bound.relation ↔
        ∀ cells ∈ relation.rows, ∀ index written,
          Fills relation.columns cells spec.meaning atom.arguments index written →
            written.HasFaithfulToken) := by
  obtain ⟨bound, boundOk, boundColumns, boundRows⟩ :=
    run_table relation .bind registered accepted unmarked
  obtain ⟨again, againOk, againColumns, againRows⟩ :=
    run_table bound.relation .filter registered accepted unmarked
  obtain ⟨compute?, isText⟩ := Spec.exists_meaning_ofText standard makesText
  rw [isText] at boundRows againRows ⊢
  rw [filterMap_rowResult?_filter unmarked, boundColumns] at againRows
  have comesOut : ∀ row, row ∈ bound.relation.rows ↔ ∃ cells ∈ relation.rows,
      Yields .bind relation.columns (.ofText compute?) atom.arguments cells row := by
    intro row
    rw [boundRows]
    exact mem_rowResults_iff unmarked
  refine ⟨bound, again, boundOk, againOk, againColumns, ?_, ?_, ?_⟩
  · rw [againRows]
    refine List.filter_congr fun row member => ?_
    obtain ⟨cells, isRow, yields⟩ := (comesOut row).mp member
    rw [decide_eq_decide]
    exact satisfies_iff_not_isMisread isRow yields
  · intro same cells member index written fills
    have written := (comesOut _).mpr ⟨cells, member, Or.inr ⟨rfl, index, written, fills, rfl⟩⟩
    rw [← same, againRows, List.mem_filter, decide_eq_true_eq] at written
    exact fills.satisfies_set_iff.mp written.2
  · intro faithful
    refine Relation.eq_of_columns_rows againColumns ?_
    rw [againRows, List.filter_eq_self]
    intro row member
    rw [decide_eq_true_eq]
    obtain ⟨cells, isRow, ⟨satisfies, rfl⟩ | ⟨-, index, written, fills, rfl⟩⟩ :=
      (comesOut row).mp member
    · exact satisfies
    · exact fills.satisfies_set_iff.mpr (faithful cells isRow index written fills)

/-- Texts with `en` behind them: two that are absent, one that is right and one that is wrong. -/
def concatenations : Relation where
  columns := ["?R", "?A"]
  rows :=
    [[none, some "a@"], [none, some "b"], [some "cen", some "c"], [some "x", some "c"]]
  distinct := by decide
  rectangular := by decide

def concatenationAtom : Atom :=
  .stringConcat (.variable ⟨"R"⟩) [.variable ⟨"A"⟩, .literal (.plain "en")]

def concatenationSpec : Spec :=
  .ofTexts .stringConcat "stringConcat(r, s1, ...) means r is the concatenation of s1, ..."
    fun operands => some (TextFunctions.concatenation operands)

open Classical in
/-- Filtering what was written into the concatenations. -/
theorem run_filter_run_bind_concatenations :
    Registry.standard.get? concatenationAtom.predicate = some concatenationSpec ∧
      concatenationSpec ∈ Spec.standard ∧
      concatenationSpec.predicate ∈ Predicate.textFunctions ∧
      concatenationSpec.predicate.arity.accepts concatenationAtom.arguments.length = true ∧
      (∀ wanted ∈ concatenationAtom.variableList, Unmarked wanted.name) ∧
      ∃ bound again,
        run Registry.standard .bind concatenationAtom concatenations.table = .ok bound ∧
        run Registry.standard .filter concatenationAtom bound.relation.table = .ok again ∧
        again.relation.columns = bound.relation.columns ∧
        again.relation.rows = bound.relation.rows.filter
          (¬ IsMisread concatenations.columns concatenationSpec.meaning
            concatenationAtom.arguments concatenations.rows ·) := by
  have registered :
      Registry.standard.get? concatenationAtom.predicate = some concatenationSpec := rfl
  have standard : concatenationSpec ∈ Spec.standard :=
    List.mem_append_right _ (.tail _ (.tail _ (.head _)))
  have makesText : concatenationSpec.predicate ∈ Predicate.textFunctions := by decide
  have accepted : concatenationSpec.predicate.arity.accepts concatenationAtom.arguments.length =
      true := by decide
  have unmarked : ∀ wanted ∈ concatenationAtom.variableList, Unmarked wanted.name := by decide
  obtain ⟨bound, again, boundOk, againOk, columns, rows, -⟩ :=
    run_filter_run_bind concatenations registered standard makesText accepted unmarked
  exact ⟨registered, standard, makesText, accepted, unmarked, bound, again, boundOk, againOk,
    columns, rows⟩

/-- **What bind mode writes may be dropped again**: the text `a@en`, made of `a@` and `en`, reads
back as `a` in English. -/
theorem run_filter_run_bind_ne :
    ∃ bound again,
      run Registry.standard .bind concatenationAtom concatenations.table = .ok bound ∧
      run Registry.standard .filter concatenationAtom bound.relation.table = .ok again ∧
      bound.relation.rows =
        [[some "a@en", some "a@"], [some "ben", some "b"], [some "cen", some "c"]] ∧
      again.relation.rows = [[some "ben", some "b"], [some "cen", some "c"]] ∧
      again.relation ≠ bound.relation := by
  have registered :
      Registry.standard.get? concatenationAtom.predicate = some concatenationSpec := rfl
  have accepted : concatenationSpec.predicate.arity.accepts concatenationAtom.arguments.length =
      true := by decide
  have unmarked : ∀ wanted ∈ concatenationAtom.variableList, Unmarked wanted.name := by decide
  obtain ⟨bound, boundOk, -⟩ := run_table concatenations .bind registered accepted unmarked
  obtain ⟨again, againOk, -⟩ := run_table bound.relation .filter registered accepted unmarked
  obtain ⟨columns, written⟩ := columns_rows_of_run boundOk registered accepted unmarked
  have boundRows : bound.relation.rows =
      [[some "a@en", some "a@"], [some "ben", some "b"], [some "cen", some "c"]] := by
    rw [written]
    decide
  have isRelation : bound.relation =
      ⟨["?R", "?A"], [[some "a@en", some "a@"], [some "ben", some "b"], [some "cen", some "c"]],
        by decide, by decide⟩ := Relation.eq_of_columns_rows columns boundRows
  have againRows : again.relation.rows = [[some "ben", some "b"], [some "cen", some "c"]] := by
    rw [(columns_rows_of_run againOk registered accepted unmarked).2, isRelation]
    decide
  refine ⟨bound, again, boundOk, againOk, boundRows, againRows, fun same => ?_⟩
  rw [same, boundRows] at againRows
  exact absurd againRows (by decide)

end Evaluation

end RuleAtoms
