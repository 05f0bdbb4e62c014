/-
**Bind mode beside filter mode.**

Bind mode keeps the rows that filter mode keeps, and between them those in which just the result of
a function was absent and could be computed. `Refines` says how the rows of its result come from the
rows of the relation: along increasing positions, each row unchanged but for the one cell of the
result.

* `run_bind_refines_filter`: over a relation, bind mode refines filter mode, and agrees with it
  where there is no absent result to compute.
-/

import RuleAtoms.Proofs.Evaluation.Filter

namespace RuleAtoms.Evaluation

/-- Rows `after` come from the rows `before`, each from its source, by keeping some and filling in
the absent results of an atom; those that are not changed are the rows `kept`. -/
structure Refines (columns : List String) (meaning : Meaning) (arguments : List Argument)
    (before after kept : List Row) (source : Fin after.length → Fin before.length) : Prop where
  increasing : StrictMono source
  /-- Only the cell of the result of a function may change, from absent to present. -/
  changed : ∀ (place : Fin after.length) (index : Nat),
    after[place][index]? ≠ before[source place][index]? →
      before[source place][index]? = some none ∧
        (∃ token, after[place][index]? = some (some token)) ∧
          ∃ compute? result operands column, meaning = .function compute? ∧
            arguments = .variable result :: operands ∧ columns[index]? = some column ∧
            result.namesColumn column = true
  /-- The changed rows are those that lack just the result. -/
  changed_iff : ∀ row : Fin before.length,
    (∃ place, source place = row ∧ after[place] ≠ before[row]) ↔
      ∃ index written, Fills columns before[row] meaning arguments index written
  /-- What is written is the token of the literal that the outcome makes. -/
  written : ∀ (place : Fin after.length) (index : Nat) (literal : Literal),
    Fills columns before[source place] meaning arguments index literal →
      after[place] = before[source place].set index (some literal.token)
  /-- Without the changed rows, the others are left in order. -/
  unchanged : ((List.finRange after.length).filter fun place =>
      after[place] = before[source place]).map (after[·]) = kept

section Bind

variable {relation : Relation} {meaning : Meaning} {atom : Atom}

/-- A row that comes out changed has its result written, and only that. -/
theorem Yields.written_of_ne {mode : EvaluationMode} {columns : List String}
    {arguments : List Argument} {cells out : Row}
    (yields : Yields mode columns meaning arguments cells out) (different : out ≠ cells) :
    ∃ index written, Fills columns cells meaning arguments index written ∧
      out = cells.set index (some written.token) := by
  rcases yields with ⟨-, same⟩ | ⟨-, fills⟩
  · exact absurd same different
  · exact fills

/-- Writing a result changes its row. -/
theorem Fills.set_ne {columns : List String} {arguments : List Argument} {cells : Row}
    {index : Nat} {written : Literal}
    (fills : Fills columns cells meaning arguments index written) :
    cells.set index (some written.token) ≠ cells := by
  obtain ⟨_, _, _, _, -, -, -, -, absent⟩ := fills.absent
  intro same
  have isCell := congrArg (·[index]?) same
  simp only [List.getElem?_set_self (List.getElem?_eq_some_iff.mp absent).1, absent,
    Option.some.injEq] at isCell
  cases isCell

/-- In bind mode a row comes out as it is exactly when it satisfies the atom. -/
theorem yields_self_iff {mode : EvaluationMode} {columns : List String}
    {arguments : List Argument} {cells : Row} :
    Yields mode columns meaning arguments cells cells ↔
      Satisfies columns meaning arguments cells := by
  constructor
  · rintro (⟨satisfies, -⟩ | ⟨-, index, written, fills, same⟩)
    · exact satisfies
    · exact absurd same.symm fills.set_ne
  · exact fun satisfies => Or.inl ⟨satisfies, rfl⟩

open Classical in
/-- **The rows of bind mode refine those of filter mode.** -/
theorem exists_refines (unmarked : ∀ wanted ∈ atom.variableList, Unmarked wanted.name) :
    ∃ source, Refines relation.columns meaning atom.arguments relation.rows
      ((List.range relation.rows.length).filterMap (rowResult? relation .bind meaning atom))
      (relation.rows.filter (Satisfies relation.columns meaning atom.arguments ·)) source := by
  obtain ⟨source, increasing, kept, sources⟩ :=
    Positions.exists_sources (rowResult? relation .bind meaning atom) relation.rows.length
  have isRow : ∀ row : Fin relation.rows.length,
      relation.rows[row.val]? = some relation.rows[row] :=
    fun row => List.getElem?_eq_getElem row.isLt
  have yields := fun place =>
    (rowResult?_eq_some_iff (isRow (source place)) unmarked).mp (kept place)
  refine ⟨source, increasing, ?_, ?_, ?_, ?_⟩
  · intro place index different
    have changed := fun same => different (congrArg (·[index]?) same)
    obtain ⟨position, written, fills, out⟩ := (yields place).written_of_ne changed
    obtain ⟨compute?, result, operands, column, isFunction, arguments, isColumn, named, absent⟩ :=
      fills.absent
    have inRow := (List.getElem?_eq_some_iff.mp absent).1
    rw [out] at different ⊢
    by_cases here : position = index
    · subst here
      refine ⟨absent, ⟨written.token, List.getElem?_set_self inRow⟩, ?_⟩
      exact ⟨compute?, result, operands, column, isFunction, arguments, isColumn, named⟩
    · exact absurd (List.getElem?_set_ne here) different
  · intro row
    constructor
    · rintro ⟨place, rfl, different⟩
      obtain ⟨index, written, fills, -⟩ := (yields place).written_of_ne different
      exact ⟨index, written, fills⟩
    · rintro ⟨index, written, fills⟩
      have comesOut := (rowResult?_eq_some_iff (isRow row) unmarked).mpr
        (Or.inr ⟨rfl, index, written, fills, rfl⟩)
      have isSource : row.val ∈ (List.finRange _).map fun place => (source place : Nat) := by
        rw [sources, List.mem_filter, List.mem_range, comesOut]
        exact ⟨row.isLt, rfl⟩
      obtain ⟨place, -, same⟩ := List.mem_map.mp isSource
      obtain rfl := Fin.ext same
      refine ⟨place, rfl, ?_⟩
      rw [Option.some.inj ((kept place).symm.trans comesOut)]
      exact fills.set_ne
  · intro place index literal fills
    have comesOut := (rowResult?_eq_some_iff (isRow (source place)) unmarked).mpr
      (Or.inr ⟨rfl, index, literal, fills, rfl⟩)
    exact Option.some.inj ((kept place).symm.trans comesOut)
  · rw [Positions.map_filter_unchanged kept sources]
    refine Positions.filterMap_range_eq_filter fun row cells isCells => ?_
    rw [isCells]
    simp only [rowResult?_eq_some_iff isCells unmarked, yields_self_iff, decide_eq_true_eq]

/-- Where there is no result to compute, the two modes keep the same rows. -/
theorem rowResult?_bind_eq_filter
    (unmarked : ∀ wanted ∈ atom.variableList, Unmarked wanted.name)
    (complete : ∀ cells ∈ relation.rows, ∀ index written,
      ¬ Fills relation.columns cells meaning atom.arguments index written) :
    (List.range relation.rows.length).filterMap (rowResult? relation .bind meaning atom) =
      (List.range relation.rows.length).filterMap (rowResult? relation .filter meaning atom) := by
  refine List.filterMap_congr fun row inRange => ?_
  have isRow := List.getElem?_eq_getElem (List.mem_range.mp inRange)
  ext out
  rw [rowResult?_eq_some_iff isRow unmarked, rowResult?_eq_some_iff isRow unmarked]
  constructor
  · rintro (satisfies | ⟨-, index, written, fills, -⟩)
    · exact Or.inl satisfies
    · exact absurd fills (complete _ (List.mem_of_getElem? isRow) index written)
  · rintro (satisfies | ⟨isBind, -⟩)
    · exact Or.inl satisfies
    · cases isBind

end Bind

/-- **Bind mode refines filter mode.** Over a relation both succeed with its columns, the rows of bind
mode refine those of filter mode, and the two relations are the same for every test, for every first
argument that is a literal, and for every relation in which no result is absent. These are the cases
without a result to compute. -/
theorem run_bind_refines_filter {registry : Registry} {atom : Atom} {spec : Spec}
    (relation : Relation)
    (registered : registry.get? atom.predicate = some spec)
    (accepted : spec.predicate.arity.accepts atom.arguments.length = true)
    (unmarked : ∀ wanted ∈ atom.variableList, Unmarked wanted.name) :
    ∃ bound filtered, run registry .bind atom relation.table = .ok bound ∧
      run registry .filter atom relation.table = .ok filtered ∧
      bound.relation.columns = relation.columns ∧
      (∃ source, Refines relation.columns spec.meaning atom.arguments relation.rows
        bound.relation.rows filtered.relation.rows source) ∧
      ((∃ holds, spec.meaning = .test holds) → bound.relation = filtered.relation) ∧
      ((∃ value operands, atom.arguments = .literal value :: operands) →
        bound.relation = filtered.relation) ∧
      ((∀ result operands, atom.arguments = .variable result :: operands →
          ∀ (index : Nat) (column : String), relation.columns[index]? = some column →
            result.namesColumn column = true → ∀ cells ∈ relation.rows, cells[index]? ≠ some none) →
        bound.relation = filtered.relation) := by
  classical
  obtain ⟨bound, boundOk, boundColumns, boundRows⟩ :=
    run_table relation .bind registered accepted unmarked
  obtain ⟨filtered, filteredOk, filteredColumns, filteredRows⟩ :=
    run_table relation .filter registered accepted unmarked
  have agree : (∀ cells ∈ relation.rows, ∀ index written,
      ¬ Fills relation.columns cells spec.meaning atom.arguments index written) →
        bound.relation = filtered.relation := by
    intro complete
    refine Relation.eq_of_columns_rows (boundColumns.trans filteredColumns.symm) ?_
    rw [boundRows, filteredRows]
    exact rowResult?_bind_eq_filter unmarked complete
  refine ⟨bound, filtered, boundOk, filteredOk, boundColumns, ?_, ?_, ?_, ?_⟩
  · rw [filteredRows, filterMap_rowResult?_filter unmarked, boundRows]
    exact exists_refines unmarked
  · rintro ⟨holds, isTest⟩
    refine agree fun cells member index written fills => ?_
    obtain ⟨_, _, _, _, isFunction, -⟩ := fills.absent
    cases isTest.symm.trans isFunction
  · rintro ⟨value, operands, isLiteral⟩
    refine agree fun cells member index written fills => ?_
    obtain ⟨_, _, _, _, -, isVariable, -⟩ := fills.absent
    cases isLiteral.symm.trans isVariable
  · intro present
    refine agree fun cells member index written fills => ?_
    obtain ⟨_, result, operands, column, -, isVariable, isColumn, named, absent⟩ := fills.absent
    exact present result operands isVariable index column isColumn named cells member absent

/-- Of the remainders, bind mode keeps the right one and computes the one that just is absent. -/
theorem run_bind_remainders :
    Registry.standard.get? remainderAtom.predicate = some remainderSpec ∧
      remainderSpec.predicate.arity.accepts remainderAtom.arguments.length = true ∧
      (∀ wanted ∈ remainderAtom.variableList, Unmarked wanted.name) ∧
      ∃ bound filtered, run Registry.standard .bind remainderAtom remainders.table = .ok bound ∧
        run Registry.standard .filter remainderAtom remainders.table = .ok filtered ∧
        bound.relation.rows =
          [[some "3^^int", some "13^^int", some "5^^int"],
            [some "3^^int", some "13^^int", some "5^^int"]] ∧
        filtered.relation.rows = [[some "3^^int", some "13^^int", some "5^^int"]] ∧
        ∃ source, Refines remainders.columns remainderSpec.meaning remainderAtom.arguments
          remainders.rows bound.relation.rows filtered.relation.rows source := by
  have registered : Registry.standard.get? remainderAtom.predicate = some remainderSpec := rfl
  have accepted :
      remainderSpec.predicate.arity.accepts remainderAtom.arguments.length = true := by decide
  have unmarked : ∀ wanted ∈ remainderAtom.variableList, Unmarked wanted.name := by decide
  obtain ⟨bound, filtered, boundOk, filteredOk, -, refines, -⟩ :=
    run_bind_refines_filter remainders registered accepted unmarked
  refine ⟨registered, accepted, unmarked, bound, filtered, boundOk, filteredOk, ?_, ?_, refines⟩
  · rw [(columns_rows_of_run boundOk registered accepted unmarked).2]
    decide
  · rw [(columns_rows_of_run filteredOk registered accepted unmarked).2]
    decide

end RuleAtoms.Evaluation
