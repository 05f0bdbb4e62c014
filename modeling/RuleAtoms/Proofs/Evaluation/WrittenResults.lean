/-
**What becomes of a written result.**

Bind mode writes the token of a result into the cell of the first argument and leaves the other
cells as they are. So filtering the written row computes the same outcome again, and holds it
against what the token reads as.

* `satisfies_set_iff_agrees`: a written row satisfies the atom exactly when the outcome agrees with
  the literal that is read back;
* `exists_run_filter_run_bind`: where every written row does, filtering what bind mode has made
  leaves it as it is.
-/

import RuleAtoms.Proofs.Evaluation.Filter

namespace RuleAtoms.Evaluation

section Written

variable {relation : Relation} {cells : Row} {compute? : List Literal → Option RuleAtoms.Outcome}

/-- Writing into an absent cell leaves the values of arguments as they are. -/
theorem hasValue_set {columns : List String} {argument : Argument} {value : Literal} {index : Nat}
    (isValue : argument.HasValue columns cells value) (absent : cells[index]? = some none)
    (cell : Option String) : argument.HasValue columns (cells.set index cell) value := by
  cases isValue with
  | literal value => exact .literal value
  | «variable» wanted other column token isColumn named present =>
    have apart : index ≠ other := by
      rintro rfl
      cases absent.symm.trans present
    refine .variable wanted other column token isColumn named ?_
    rw [List.getElem?_set_ne apart, present]

/-- **A row with a token in the cell of its result** satisfies the atom exactly when the outcome of the
operands agrees with what the token reads as. The operands keep their values, since none of them reads
that cell. -/
theorem satisfies_set_iff_agrees {result : Variable} {operands : List Argument} {index : Nat}
    {column : String} {values : List Literal} {outcome : RuleAtoms.Outcome}
    (isColumn : relation.columns[index]? = some column)
    (named : result.namesColumn column = true) (absent : cells[index]? = some none)
    (read : List.Forall₂ (Argument.HasValue relation.columns cells) operands values)
    (computed : compute? values = some outcome) (token : String) :
    Satisfies relation.columns (.function compute?) (.variable result :: operands)
        (cells.set index (some token)) ↔ outcome.agrees (.ofToken token) = true := by
  have inRow := (List.getElem?_eq_some_iff.mp absent).1
  have resultRead := Argument.HasValue.variable result index column token isColumn named
    (List.getElem?_set_self inRow)
  have operandsRead := read.imp fun _ _ isValue => hasValue_set isValue absent (some token)
  rw [satisfies_iff_holds (.cons resultRead operandsRead), holds_function_iff, computed]
  constructor
  · rintro ⟨other, same, agrees⟩
    rwa [Option.some.inj same]
  · exact fun agrees => ⟨outcome, rfl, agrees⟩

end Written

/-- **Filtering what bind mode has made** leaves it as it is, and so keeps every row that was
written to, where each of these satisfies the atom. -/
theorem exists_run_filter_run_bind {registry : Registry} {atom : Atom} {spec : Spec}
    (relation : Relation) (registered : registry.get? atom.predicate = some spec)
    (accepted : spec.predicate.arity.accepts atom.arguments.length = true)
    (unmarked : ∀ wanted ∈ atom.variableList, Unmarked wanted.name)
    (holdAgain : ∀ cells ∈ relation.rows, ∀ index written,
      Fills relation.columns cells spec.meaning atom.arguments index written →
        Satisfies relation.columns spec.meaning atom.arguments
          (cells.set index (some written.token))) :
    ∃ bound again, run registry .bind atom relation.table = .ok bound ∧
      run registry .filter atom bound.relation.table = .ok again ∧
      again.relation = bound.relation ∧
      ∀ cells ∈ relation.rows, ∀ index written,
        Fills relation.columns cells spec.meaning atom.arguments index written →
          cells.set index (some written.token) ∈ again.relation.rows := by
  classical
  obtain ⟨bound, boundOk, boundColumns, boundRows⟩ :=
    run_table relation .bind registered accepted unmarked
  obtain ⟨again, againOk, againColumns, againRows⟩ :=
    run_table bound.relation .filter registered accepted unmarked
  have comesOut : ∀ row, row ∈ bound.relation.rows ↔ ∃ cells ∈ relation.rows,
      Yields .bind relation.columns spec.meaning atom.arguments cells row := by
    intro row
    rw [boundRows]
    exact mem_rowResults_iff unmarked
  have same : again.relation = bound.relation := by
    refine Relation.eq_of_columns_rows againColumns ?_
    rw [againRows, filterMap_rowResult?_filter unmarked, boundColumns, List.filter_eq_self]
    intro row member
    rw [decide_eq_true_eq]
    obtain ⟨cells, isRow, ⟨satisfies, rfl⟩ | ⟨-, index, written, fills, rfl⟩⟩ :=
      (comesOut row).mp member
    · exact satisfies
    · exact holdAgain cells isRow index written fills
  refine ⟨bound, again, boundOk, againOk, same, fun cells member index written fills => ?_⟩
  rw [same, comesOut]
  exact ⟨cells, member, Or.inr ⟨rfl, index, written, fills, rfl⟩⟩

end RuleAtoms.Evaluation
