/-
**What an evaluation does with one row, and with all of them.**

* `evaluateRow_eq_ok_iff`: a row comes out unchanged when it satisfies the atom, and with one cell
  written in bind mode when it lacks just the result; otherwise it does not come out;
* `run_table`: over a relation, an evaluation of a registered predicate with an accepted number of
  arguments succeeds, and makes the columns of the relation and these rows in order. Stopping early,
  when a variable names no column, leaves out no row.
-/

import Mathlib.Data.List.Basic
import RuleAtoms.Proofs.Evaluation.Values

namespace RuleAtoms.Evaluation

section Rows

variable {relation : Relation} {row : Nat} {cells out : Row} {mode : EvaluationMode}
  {meaning : Meaning} {atom : Atom}

/-! ### The result that is written -/

theorem target?_eq_some_iff {table : BindingTable} {target : Target} :
    target? mode meaning atom table = some target ↔
      mode = .bind ∧ meaning = .function target.compute? ∧
        ∃ operands, atom.arguments = .variable target.result :: operands ∧
          table.hasVariable target.result = true := by
  unfold target?
  constructor
  · intro isTarget
    split at isTarget
    · rename_i compute? result operands same
      split at isTarget
      · rename_i hasColumn
        cases isTarget
        exact ⟨rfl, rfl, operands, same, hasColumn⟩
      · cases isTarget
    · cases isTarget
  · rintro ⟨rfl, rfl, operands, same, hasColumn⟩
    simp only [same, hasColumn, if_true]

/-- What is written goes into an absent cell of the column that the first argument names. -/
theorem Fills.absent {columns : List String} {arguments : List Argument} {index : Nat}
    {written : Literal} (fills : Fills columns cells meaning arguments index written) :
    ∃ compute? result operands column, meaning = .function compute? ∧
      arguments = .variable result :: operands ∧ columns[index]? = some column ∧
      result.namesColumn column = true ∧ cells[index]? = some none := by
  cases fills with
  | intro compute? result operands _ column values outcome isColumn named absent read computed =>
    exact ⟨compute?, result, operands, column, rfl, rfl, isColumn, named, absent⟩

/-- A row in which the first argument is absent does not satisfy the atom. -/
theorem not_satisfies_of_absent {result : Variable} {operands : List Argument} {index : Nat}
    {column : String} (isColumn : relation.columns[index]? = some column)
    (named : result.namesColumn column = true) (absent : cells[index]? = some none) :
    ¬ Satisfies relation.columns meaning (.variable result :: operands) cells := by
  rintro ⟨values, read, -⟩
  obtain ⟨value, others, isValue, -, -⟩ := List.forall₂_cons_left_iff.mp read
  cases isValue with
  | «variable» _ index' column' token isColumn' named' present =>
    have same := Relation.index_unique isColumn isColumn'
      ((Variable.namesColumn_iff.mp named).trans (Variable.namesColumn_iff.mp named').symm)
    rw [same, present] at absent
    cases absent

/-- What is written goes to the only position of the column that the first argument names. -/
theorem Fills.index_eq {result : Variable} {operands : List Argument} {index other : Nat}
    {column : String} {written : Literal}
    (fills : Fills relation.columns cells meaning (.variable result :: operands) other written)
    (isColumn : relation.columns[index]? = some column)
    (named : result.namesColumn column = true) : other = index := by
  obtain ⟨_, result', _, column', -, same, isColumn', named', -⟩ := fills.absent
  obtain ⟨sameResult, -⟩ := List.cons.inj same
  cases sameResult
  exact Relation.index_unique isColumn' isColumn
    ((Variable.namesColumn_iff.mp named').trans (Variable.namesColumn_iff.mp named).symm)

/-- The token of a result goes to the position of the column that its variable names. -/
theorem writeCell_of_column {result : Variable} {index : Nat} {column token : String}
    (unmarked : Unmarked result.name) (isColumn : relation.columns[index]? = some column)
    (named : result.namesColumn column = true) :
    writeCell relation.table.columns cells result.name token = cells.set index (some token) := by
  have position : relation.columnIndex? result.name = some index := by
    refine Relation.columnIndex?_eq_some_iff.mpr ⟨column, isColumn, ?_⟩
    rw [dropMarker_of_unmarked unmarked, Variable.namesColumn_iff.mp named]
  unfold writeCell
  unfold Relation.columnIndex? at position
  rw [show relation.table.columns = relation.columns from rfl, position]

/-! ### One row -/

/-- Without a result to be written, a row comes out unchanged or not at all. -/
theorem evaluateRow_none_eq_ok_iff (isRow : relation.rows[row]? = some cells)
    (unmarked : ∀ wanted, Argument.variable wanted ∈ atom.arguments → Unmarked wanted.name)
    {target : Option Target}
    (noTarget : target.filter
      (fun target => (relation.table.cell? row target.result.name).isNone) = none) :
    evaluateRow relation.table meaning target atom.arguments row = .ok out ↔
      Satisfies relation.columns meaning atom.arguments cells ∧ out = cells := by
  unfold evaluateRow
  rw [noTarget, Relation.row_table isRow, ← check_eq_ok_iff isRow unmarked]
  cases check relation.table meaning atom.arguments row with
  | error reason =>
    constructor
    · intro found
      cases found
    · rintro ⟨found, -⟩
      cases found
  | ok found =>
    constructor
    · intro same
      exact ⟨rfl, (Except.ok.inj same).symm⟩
    · rintro ⟨-, rfl⟩
      rfl

/-- With an absent result to be written, a row comes out with the result, if there is one. -/
theorem evaluateRow_some_eq_ok_iff {target : Target} {operands : List Argument} {index : Nat}
    {column : String} (isRow : relation.rows[row]? = some cells)
    (unmarked : ∀ wanted, Argument.variable wanted ∈ atom.arguments → Unmarked wanted.name)
    (arguments : atom.arguments = .variable target.result :: operands)
    (isColumn : relation.columns[index]? = some column)
    (named : target.result.namesColumn column = true) (absent : cells[index]? = some none) :
    evaluateRow relation.table (.function target.compute?) (some target) atom.arguments row =
        .ok out ↔
      ∃ written, Fills relation.columns cells (.function target.compute?) atom.arguments index
        written ∧ out = cells.set index (some written.token) := by
  have resultUnmarked : Unmarked target.result.name :=
    unmarked _ (arguments ▸ List.mem_cons_self)
  have operandsUnmarked : ∀ wanted, Argument.variable wanted ∈ operands → Unmarked wanted.name :=
    fun wanted member => unmarked wanted (arguments ▸ List.mem_cons_of_mem _ member)
  have isAbsent : (relation.table.cell? row target.result.name).isNone = true := by
    rw [cell?_variable isRow resultUnmarked isColumn named, absent]
    rfl
  have hasTarget : (some target).filter
      (fun target => (relation.table.cell? row target.result.name).isNone) = some target := by
    rw [Option.filter_some, if_pos isAbsent]
  unfold evaluateRow
  rw [hasTarget, Relation.row_table isRow]
  simp only [arguments, List.tail_cons,
    writeCell_of_column resultUnmarked isColumn named]
  constructor
  · intro made
    cases computed : computeCell relation.table target operands row with
    | error reason =>
      rw [computed] at made
      cases made
    | ok written =>
      rw [computed] at made
      obtain ⟨values, outcome, read, hasOutcome, rfl⟩ :=
        (computeCell_eq_ok_iff isRow operandsUnmarked).mp computed
      exact ⟨_, .intro target.compute? target.result operands index column values outcome isColumn
        named absent read hasOutcome, (Except.ok.inj made).symm⟩
  · rintro ⟨written, fills, rfl⟩
    cases fills with
    | intro _ _ _ _ _ values outcome _ _ _ read computed =>
      rw [(computeCell_eq_ok_iff isRow operandsUnmarked).mpr ⟨values, outcome, read, computed, rfl⟩]
      rfl

/-- The rows that a row may come out as: itself when it satisfies the atom, and in bind mode, when
it lacks just the result, itself with the result written into its cell. -/
def Yields (mode : EvaluationMode) (columns : List String) (meaning : Meaning)
    (arguments : List Argument) (cells out : Row) : Prop :=
  (Satisfies columns meaning arguments cells ∧ out = cells) ∨
    (mode = .bind ∧ ∃ index written, Fills columns cells meaning arguments index written ∧
      out = cells.set index (some written.token))

/-- **What comes out of a row.** -/
theorem evaluateRow_eq_ok_iff (isRow : relation.rows[row]? = some cells)
    (unmarked : ∀ wanted, Argument.variable wanted ∈ atom.arguments → Unmarked wanted.name) :
    evaluateRow relation.table meaning (target? mode meaning atom relation.table) atom.arguments
        row = .ok out ↔
      Yields mode relation.columns meaning atom.arguments cells out := by
  unfold Yields
  cases isTarget : (target? mode meaning atom relation.table).filter
      (fun target => (relation.table.cell? row target.result.name).isNone) with
  | none =>
    have noFill : ¬ (mode = .bind ∧ ∃ index written,
        Fills relation.columns cells meaning atom.arguments index written ∧
          out = cells.set index (some written.token)) := by
      rintro ⟨isBind, index, written, fills, -⟩
      obtain ⟨compute?, result, operands, column, isFunction, arguments, isColumn, named, absent⟩ :=
        fills.absent
      have hasColumn := Relation.hasVariable_table_iff.mpr ⟨index, column, isColumn, named⟩
      have found : target? mode meaning atom relation.table = some ⟨compute?, result⟩ :=
        target?_eq_some_iff.mpr ⟨isBind, isFunction, operands, arguments, hasColumn⟩
      have missing : relation.table.cell? row result.name = none := by
        rw [cell?_variable isRow (unmarked result (arguments ▸ List.mem_cons_self)) isColumn named,
          absent, Option.join_some]
      rw [found, Option.filter_some, missing] at isTarget
      cases isTarget
    rw [evaluateRow_none_eq_ok_iff isRow unmarked isTarget]
    exact ⟨Or.inl, fun yields => yields.resolve_right noFill⟩
  | some target =>
    obtain ⟨found, missing⟩ := Option.filter_eq_some_iff.mp isTarget
    obtain ⟨isBind, rfl, operands, arguments, hasColumn⟩ := target?_eq_some_iff.mp found
    obtain ⟨index, column, isColumn, named⟩ := Relation.hasVariable_table_iff.mp hasColumn
    have absent : cells[index]? = some none := by
      rw [cell?_variable isRow (unmarked target.result (arguments ▸ List.mem_cons_self)) isColumn
        named] at missing
      have inRow : index < cells.length := by
        rw [Relation.length_of_row isRow]
        exact (List.getElem?_eq_some_iff.mp isColumn).1
      rw [List.getElem?_eq_getElem inRow, Option.join_some, Option.isNone_iff_eq_none] at missing
      rw [List.getElem?_eq_getElem inRow, missing]
    rw [found, evaluateRow_some_eq_ok_iff isRow unmarked arguments isColumn named absent]
    constructor
    · rintro ⟨written, fills, same⟩
      exact Or.inr ⟨isBind, index, written, fills, same⟩
    · rintro (⟨satisfies, -⟩ | ⟨-, other, written, fills, same⟩)
      · rw [arguments] at satisfies
        exact absurd satisfies (not_satisfies_of_absent isColumn named absent)
      · rw [arguments] at fills
        rw [arguments, ← fills.index_eq isColumn named]
        exact ⟨written, fills, same⟩

/-- A variable that names no column leaves nothing to come out of any row. -/
theorem Yields.hasVariable {arguments : List Argument} {wanted : Variable}
    (yields : Yields mode relation.columns meaning arguments cells out)
    (member : Argument.variable wanted ∈ arguments) :
    relation.table.hasVariable wanted = true := by
  obtain ⟨⟨values, read, -⟩, -⟩ | ⟨-, index, written, fills, -⟩ := yields
  · exact hasVariable_of_values read member
  · cases fills with
    | intro compute? result operands _ column values outcome isColumn named absent read =>
      rcases List.mem_cons.mp member with same | inOperands
      · cases same
        exact Relation.hasVariable_table_iff.mpr ⟨index, column, isColumn, named⟩
      · exact hasVariable_of_values read inOperands

/-! ### All rows -/

/-- The row that comes out of the row with this number, if one does. -/
def rowResult? (relation : Relation) (mode : EvaluationMode) (meaning : Meaning) (atom : Atom)
    (row : Nat) : Option Row :=
  (evaluateRow relation.table meaning (target? mode meaning atom relation.table) atom.arguments
    row).toOption

theorem rowResult?_eq_some_iff (isRow : relation.rows[row]? = some cells)
    (unmarked : ∀ wanted ∈ atom.variableList, Unmarked wanted.name) :
    rowResult? relation mode meaning atom row = some out ↔
      Yields mode relation.columns meaning atom.arguments cells out := by
  have argumentsUnmarked : ∀ wanted, Argument.variable wanted ∈ atom.arguments →
      Unmarked wanted.name := fun wanted member => unmarked wanted (mem_variableList.mpr member)
  rw [← evaluateRow_eq_ok_iff isRow argumentsUnmarked]
  unfold rowResult?
  cases evaluateRow relation.table meaning (target? mode meaning atom relation.table)
      atom.arguments row with
  | error reason => exact ⟨fun found => (nomatch found), fun found => (nomatch found)⟩
  | ok other =>
    exact ⟨fun found => congrArg _ (Option.some.inj found),
      fun found => congrArg _ (Except.ok.inj found)⟩

/-- What comes out of the rows of a relation. -/
theorem mem_rowResults_iff (unmarked : ∀ wanted ∈ atom.variableList, Unmarked wanted.name) :
    out ∈ (List.range relation.rows.length).filterMap (rowResult? relation mode meaning atom) ↔
      ∃ cells ∈ relation.rows, Yields mode relation.columns meaning atom.arguments cells out := by
  rw [List.mem_filterMap]
  constructor
  · rintro ⟨row, inRange, result⟩
    have isRow := List.getElem?_eq_getElem (List.mem_range.mp inRange)
    exact ⟨_, List.mem_of_getElem? isRow, (rowResult?_eq_some_iff isRow unmarked).mp result⟩
  · rintro ⟨cells, member, yields⟩
    obtain ⟨row, isRow⟩ := List.mem_iff_getElem?.mp member
    have inRange := (List.getElem?_eq_some_iff.mp isRow).1
    exact ⟨row, List.mem_range.mpr inRange, (rowResult?_eq_some_iff isRow unmarked).mpr yields⟩

/-- The verdicts when every row is looked at, even if a variable names no column. -/
def scanVerdicts (spec : Spec) (mode : EvaluationMode) (atom : Atom) (table : BindingTable) :
    List (Except Exclusion Row) :=
  (List.range table.rowCount).map
    (evaluateRow table spec.meaning (target? mode spec.meaning atom table) atom.arguments)

theorem keptRows_scanVerdicts (spec : Spec) (mode : EvaluationMode) (atom : Atom)
    (relation : Relation) :
    keptRows (scanVerdicts spec mode atom relation.table) =
      (List.range relation.rows.length).filterMap
        (rowResult? relation mode spec.meaning atom) := by
  unfold keptRows scanVerdicts
  rw [List.filterMap_map]
  rfl

/-- **Stopping early leaves out no row**: the rows that are kept are those that come out when every
row is looked at. -/
theorem keptRows_verdicts {spec : Spec}
    (unmarked : ∀ wanted ∈ atom.variableList, Unmarked wanted.name) :
    keptRows (verdicts spec mode atom relation.table) =
      keptRows (scanVerdicts spec mode atom relation.table) := by
  by_cases allNamed : atom.variableList.all relation.table.hasVariable = true
  · unfold verdicts scanVerdicts
    rw [if_pos allNamed]
  · rw [keptRows_scanVerdicts]
    unfold keptRows verdicts
    rw [if_neg allNamed, List.filterMap_nil]
    symm
    rw [List.filterMap_eq_nil_iff]
    intro row inRange
    have isRow := List.getElem?_eq_getElem (List.mem_range.mp inRange)
    cases result : rowResult? relation mode spec.meaning atom row with
    | none => rfl
    | some out =>
      have yields := (rowResult?_eq_some_iff isRow unmarked).mp result
      refine absurd (List.all_eq_true.mpr fun wanted member => ?_) allNamed
      exact yields.hasVariable (mem_variableList.mp member)

/-- **An evaluation over a relation** of a registered predicate with an accepted number of arguments
succeeds, and makes what comes out of the rows, in order. -/
theorem run_table (relation : Relation) (mode : EvaluationMode) {registry : Registry} {spec : Spec}
    (registered : registry.get? atom.predicate = some spec)
    (accepted : spec.predicate.arity.accepts atom.arguments.length = true)
    (unmarked : ∀ wanted ∈ atom.variableList, Unmarked wanted.name) :
    ∃ outcome, run registry mode atom relation.table = .ok outcome ∧
      outcome.relation.columns = relation.columns ∧
      outcome.relation.rows =
        (List.range relation.rows.length).filterMap
          (rowResult? relation mode spec.meaning atom) := by
  have prepared : prepare registry atom = .ok spec := by
    unfold prepare Atom.checkCount
    rw [registered]
    simp only [accepted, if_true]
    rfl
  unfold run
  rw [prepared]
  simp only
  split
  · rename_i error failed
    obtain ⟨empty, made⟩ := relation.ofColumns_columns
    exact nomatch made.symm.trans failed
  · rename_i empty made
    have sameColumns : empty.columns = relation.columns := Relation.columns_ofColumns made
    refine ⟨_, rfl, sameColumns, ?_⟩
    exact (keptRows_verdicts unmarked).trans (keptRows_scanVerdicts spec mode atom relation)

/-- The columns and the rows that an evaluation over a relation makes. -/
theorem columns_rows_of_run {registry : Registry} {spec : Spec} {outcome : Outcome}
    (succeeds : run registry mode atom relation.table = .ok outcome)
    (registered : registry.get? atom.predicate = some spec)
    (accepted : spec.predicate.arity.accepts atom.arguments.length = true)
    (unmarked : ∀ wanted ∈ atom.variableList, Unmarked wanted.name) :
    outcome.relation.columns = relation.columns ∧
      outcome.relation.rows = keptRows (scanVerdicts spec mode atom relation.table) := by
  obtain ⟨other, otherOk, columns, rows⟩ := run_table relation mode registered accepted unmarked
  obtain rfl := Except.ok.inj (otherOk.symm.trans succeeds)
  exact ⟨columns, rows.trans (keptRows_scanVerdicts spec mode atom relation).symm⟩

end Rows

end RuleAtoms.Evaluation
