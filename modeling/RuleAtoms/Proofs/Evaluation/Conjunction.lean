/-
**Filters in any order.**

In filter mode a row is kept or left out for what stands in it under the columns of the table. The
other rows have no part in it, nor has its number. So evaluating one atom behind another leaves the
rows that both keep, whichever is the first.

* `exists_run_filter`: filter mode keeps the rows that are kept on their own (`isKept`), whatever
  the names of the variables are;
* `run_filter_both`: two atoms filter a relation to the same in either order, and one atom filters
  it no further the second time.
-/

import RuleAtoms.Proofs.Evaluation.EventLog

namespace RuleAtoms.Evaluation

/-- The table of one row alone. -/
def lone (columns : List String) (cells : Row) : BindingTable := .unchecked columns [cells]

/-- Whether an atom keeps a row: each variable names a column, each argument has a value in the
row, and the predicate holds for these. -/
def isKept (meaning : Meaning) (atom : Atom) (columns : List String) (cells : Row) : Bool :=
  atom.variableList.all (lone columns cells).hasVariable &&
    (resolveAll? (lone columns cells) 0 atom.arguments).any meaning.holds

section Rows

variable {relation : Relation} {row : Nat} {cells : Row} {meaning : Meaning} {atom : Atom}

/-! ### One row -/

/-- A row of a relation reads as it does alone. -/
theorem resolveAll?_lone (isRow : relation.rows[row]? = some cells) (arguments : List Argument) :
    resolveAll? relation.table row arguments =
      resolveAll? (lone relation.columns cells) 0 arguments := by
  have sameCell : ∀ name, relation.cell? row name = (lone relation.columns cells).cell? 0 name := by
    intro name
    unfold Relation.cell?
    rw [isRow]
    rfl
  have sameValue : resolve? relation.table row = resolve? (lone relation.columns cells) 0 := by
    funext argument
    cases argument with
    | «variable» wanted => exact congrArg (Option.map Literal.ofToken) (sameCell wanted.name)
    | literal value => rfl
  unfold resolveAll?
  rw [sameValue]

/-- Nothing is written in filter mode. -/
theorem not_fillable_filter {table : BindingTable}
    (compute? : List Literal → Option RuleAtoms.Outcome) (result : Variable)
    (operands : List Argument) :
    ¬ Fillable .filter meaning atom table row compute? result operands :=
  fun fillable => nomatch fillable.isBind

/-- The verdict on a row in filter mode is about the row alone. -/
theorem evaluateRow_filter (meaning : Meaning) (atom : Atom)
    (isRow : relation.rows[row]? = some cells) :
    (evaluateRow relation.table meaning (target? .filter meaning atom relation.table)
        atom.arguments row).toOption =
      if (resolveAll? (lone relation.columns cells) 0 atom.arguments).any meaning.holds then
        some cells
      else none := by
  have sameRow : relation.table.columns.map (relation.table.cell? row) = cells :=
    Relation.row_table isRow
  rw [evaluateRow_of_not_fillable not_fillable_filter, resolveAll?_lone isRow, sameRow]
  cases resolveAll? (lone relation.columns cells) 0 atom.arguments with
  | none => rfl
  | some values =>
    by_cases holds : meaning.holds values = true
    · simp only [holds, if_true, Option.any_some]
      rfl
    · simp only [holds, Option.any_some]
      rfl

/-! ### All rows -/

theorem isKept_eq_of_all (allNamed : atom.variableList.all relation.table.hasVariable = true) :
    isKept meaning atom relation.columns cells =
      (resolveAll? (lone relation.columns cells) 0 atom.arguments).any meaning.holds := by
  unfold isKept
  rw [show atom.variableList.all (lone relation.columns cells).hasVariable = true from allNamed,
    Bool.true_and]

theorem isKept_eq_false (notAll : ¬ atom.variableList.all relation.table.hasVariable = true) :
    isKept meaning atom relation.columns cells = false := by
  unfold isKept
  rw [show atom.variableList.all (lone relation.columns cells).hasVariable = false from
    Bool.not_eq_true _ ▸ notAll, Bool.false_and]

/-- The event about a row in filter mode tells whether it is kept on its own. -/
theorem kept_mem_rowEvents_iff {spec : Spec} :
    .kept row ∈ (verdicts spec .filter atom relation.table).mapIdx rowEvent ↔
      ∃ cells, relation.rows[row]? = some cells ∧
        isKept spec.meaning atom relation.columns cells = true := by
  rw [List.mem_iff_getElem?]
  by_cases allNamed : atom.variableList.all relation.table.hasVariable = true
  · have count : scannedCount atom relation.table = relation.rows.length := if_pos allNamed
    simp only [getElem?_rowEvents_eq_some_iff, count, isKept_eq_of_all allNamed]
    constructor
    · rintro ⟨place, inside, told⟩
      have isRow := List.getElem?_eq_getElem inside
      have verdict := evaluateRow_filter spec.meaning atom isRow
      cases evaluated : evaluateRow relation.table spec.meaning
          (target? .filter spec.meaning atom relation.table) atom.arguments place with
      | error reason =>
        rw [evaluated] at told
        cases told
      | ok out =>
        rw [evaluated] at told verdict
        cases told
        refine ⟨_, isRow, ?_⟩
        by_contra fails
        rw [if_neg fails] at verdict
        cases verdict
    · rintro ⟨cells, isRow, passes⟩
      have verdict := evaluateRow_filter spec.meaning atom isRow
      rw [if_pos passes] at verdict
      refine ⟨row, (List.getElem?_eq_some_iff.mp isRow).1, ?_⟩
      rw [eq_ok_of_toOption verdict]
      rfl
  · have nothing : verdicts spec .filter atom relation.table = [] := if_neg allNamed
    simp [nothing, isKept_eq_false allNamed]

/-- **What comes out in filter mode** are the rows that are kept on their own. -/
theorem keptRows_verdicts_filter (spec : Spec) :
    keptRows (verdicts spec .filter atom relation.table) =
      relation.rows.filter (isKept spec.meaning atom relation.columns) := by
  by_cases allNamed : atom.variableList.all relation.table.hasVariable = true
  · have count : scannedCount atom relation.table = relation.rows.length := if_pos allNamed
    rw [keptRows_eq_filterMap, count]
    refine Positions.filterMap_range_eq_filter fun index cells isRow => ?_
    rw [evaluateRow_filter spec.meaning atom isRow, isKept_eq_of_all allNamed]
  · have nothing : verdicts spec .filter atom relation.table = [] := if_neg allNamed
    have noneKept : relation.rows.filter (isKept spec.meaning atom relation.columns) = [] := by
      rw [List.filter_eq_nil_iff]
      intro cells _
      rw [isKept_eq_false allNamed]
      exact Bool.false_ne_true
    rw [nothing, noneKept]
    rfl

end Rows

section Run

variable {registry : Registry} {relation : Relation} {atom : Atom} {spec : Spec}
  {outcome : Outcome}

theorem prepare_of_run (succeeds : run registry .filter atom relation.table = .ok outcome) :
    ∃ spec, prepare registry atom = .ok spec := by
  cases prepared : prepare registry atom with
  | error error => cases succeeds.symm.trans (run_of_prepare_error prepared)
  | ok spec => exact ⟨spec, rfl⟩

/-- **Filter mode keeps the rows that are kept on their own**, for every accepted atom. -/
theorem exists_run_filter (relation : Relation) (prepared : prepare registry atom = .ok spec) :
    ∃ outcome, run registry .filter atom relation.table = .ok outcome ∧
      outcome.relation.columns = relation.columns ∧
      outcome.relation.rows =
        relation.rows.filter (isKept spec.meaning atom relation.columns) ∧
      ∀ row, .kept row ∈ outcome.events ↔ ∃ cells, relation.rows[row]? = some cells ∧
        isKept spec.meaning atom relation.columns cells = true := by
  obtain ⟨empty, made⟩ := relation.ofColumns_columns
  obtain ⟨outcome, succeeds, columns, rows, events⟩ :=
    @exists_run registry atom relation.table spec .filter empty prepared made
  refine ⟨outcome, succeeds, columns, rows.trans (keptRows_verdicts_filter spec), fun row => ?_⟩
  rw [← kept_mem_rowEvents_iff, events]
  simp

/-- Filtering a relation further keeps what it kept. -/
theorem exists_run_filter_of_rows {filtered : Relation} {test : Row → Bool}
    (columns : filtered.columns = relation.columns) (rows : filtered.rows = relation.rows.filter test)
    (prepared : prepare registry atom = .ok spec) :
    ∃ outcome, run registry .filter atom filtered.table = .ok outcome ∧
      outcome.relation.columns = relation.columns ∧
      outcome.relation.rows = relation.rows.filter fun cells =>
        isKept spec.meaning atom relation.columns cells && test cells := by
  obtain ⟨outcome, succeeds, sameColumns, keptRows, -⟩ := exists_run_filter filtered prepared
  refine ⟨outcome, succeeds, sameColumns.trans columns, ?_⟩
  rw [keptRows, columns, rows, List.filter_filter]

end Run

/-- **Filters in any order.** Over a relation over which two atoms can be evaluated, evaluating them
one behind the other makes the same relation in either order. It has the columns of the relation,
and its rows are those that both atoms keep, each in its place and as often as it is there. An atom
that is evaluated again keeps everything. -/
theorem run_filter_both {registry : Registry} {relation : Relation} {first second : Atom}
    {firstOutcome secondOutcome : Outcome}
    (firstSucceeds : run registry .filter first relation.table = .ok firstOutcome)
    (secondSucceeds : run registry .filter second relation.table = .ok secondOutcome) :
    ∃ both others again : Outcome,
      run registry .filter first secondOutcome.relation.table = .ok both ∧
      run registry .filter second firstOutcome.relation.table = .ok others ∧
      run registry .filter first firstOutcome.relation.table = .ok again ∧
      both.relation = others.relation ∧
      both.relation.columns = relation.columns ∧
      (both.relation.rows = relation.rows.filter fun cells =>
        cells ∈ firstOutcome.relation.rows ∧ cells ∈ secondOutcome.relation.rows) ∧
      (both.relation.rows = (List.range relation.rows.length).filterMap fun row =>
        if .kept row ∈ firstOutcome.events ∧ .kept row ∈ secondOutcome.events then
          relation.rows[row]?
        else none) ∧
      again.relation = firstOutcome.relation := by
  obtain ⟨firstSpec, firstPrepared⟩ := prepare_of_run firstSucceeds
  obtain ⟨secondSpec, secondPrepared⟩ := prepare_of_run secondSucceeds
  obtain ⟨outcome, succeeds, firstColumns, firstRows, firstEvents⟩ :=
    exists_run_filter relation firstPrepared
  obtain rfl := Except.ok.inj (succeeds.symm.trans firstSucceeds)
  obtain ⟨outcome', succeeds', secondColumns, secondRows, secondEvents⟩ :=
    exists_run_filter relation secondPrepared
  obtain rfl := Except.ok.inj (succeeds'.symm.trans secondSucceeds)
  obtain ⟨both, bothRun, bothColumns, bothRows⟩ :=
    exists_run_filter_of_rows secondColumns secondRows firstPrepared
  obtain ⟨others, othersRun, othersColumns, othersRows⟩ :=
    exists_run_filter_of_rows firstColumns firstRows secondPrepared
  obtain ⟨again, againRun, againColumns, againRows⟩ :=
    exists_run_filter_of_rows firstColumns firstRows firstPrepared
  refine ⟨both, others, again, bothRun, othersRun, againRun, ?_, bothColumns, ?_, ?_, ?_⟩
  · refine Relation.eq_of_columns_rows (bothColumns.trans othersColumns.symm) ?_
    rw [bothRows, othersRows]
    exact List.filter_congr fun cells _ => Bool.and_comm _ _
  · rw [bothRows, firstRows, secondRows]
    refine List.filter_congr fun cells member => ?_
    simp [List.mem_filter, member]
  · rw [bothRows]
    symm
    refine Positions.filterMap_range_eq_filter fun row cells isRow => ?_
    simp only [firstEvents, secondEvents, isRow, Option.some.injEq, exists_eq_left',
      Bool.and_eq_true]
  · refine Relation.eq_of_columns_rows (againColumns.trans firstColumns.symm) ?_
    rw [againRows, firstRows]
    simp only [Bool.and_self]

/-- Pairs of numbers, one of them twice and one without its first number. -/
def numberPairs : Relation where
  columns := ["?A", "B"]
  rows :=
    [[some "1", some "2"], [some "3", some "2"], [some "1", some "2"], [some "0", some "5"],
      [none, some "2"]]
  distinct := by decide
  rectangular := by decide

def increasing : Atom := .binary .lessThan (.variable ⟨"A"⟩) (.variable ⟨"B"⟩)

def endsInTwo : Atom := .binary .equal (.variable ⟨"B"⟩) (.literal (.plain "2"))

/-- The pair that is there twice is kept by both atoms, and so comes out twice. -/
theorem run_filter_both_numberPairs :
    ∃ firstOutcome secondOutcome both others again : Outcome,
      run Registry.standard .filter increasing numberPairs.table = .ok firstOutcome ∧
      run Registry.standard .filter endsInTwo numberPairs.table = .ok secondOutcome ∧
      firstOutcome.relation.rows =
        [[some "1", some "2"], [some "1", some "2"], [some "0", some "5"]] ∧
      secondOutcome.relation.rows =
        [[some "1", some "2"], [some "3", some "2"], [some "1", some "2"], [none, some "2"]] ∧
      run Registry.standard .filter increasing secondOutcome.relation.table = .ok both ∧
      run Registry.standard .filter endsInTwo firstOutcome.relation.table = .ok others ∧
      run Registry.standard .filter increasing firstOutcome.relation.table = .ok again ∧
      both.relation = others.relation ∧
      both.relation.rows = [[some "1", some "2"], [some "1", some "2"]] ∧
      again.relation = firstOutcome.relation := by
  have firstPrepared : prepare Registry.standard increasing =
      .ok (.ofTest .lessThan "lessThan(a, b) means a < b" Comparison.lessThan) := rfl
  have secondPrepared : prepare Registry.standard endsInTwo =
      .ok (.ofTest .equal "equal(a, b) holds when a and b are equal" Comparison.equal) := rfl
  obtain ⟨firstOutcome, firstSucceeds, -, firstRows, -⟩ :=
    exists_run_filter numberPairs firstPrepared
  obtain ⟨secondOutcome, secondSucceeds, -, secondRows, -⟩ :=
    exists_run_filter numberPairs secondPrepared
  have firstKept : firstOutcome.relation.rows =
      [[some "1", some "2"], [some "1", some "2"], [some "0", some "5"]] := by
    rw [firstRows]
    decide
  have secondKept : secondOutcome.relation.rows =
      [[some "1", some "2"], [some "3", some "2"], [some "1", some "2"], [none, some "2"]] := by
    rw [secondRows]
    decide
  obtain ⟨both, others, again, bothRun, othersRun, againRun, same, -, rows, -, unchanged⟩ :=
    run_filter_both firstSucceeds secondSucceeds
  refine ⟨firstOutcome, secondOutcome, both, others, again, firstSucceeds, secondSucceeds,
    firstKept, secondKept, bothRun, othersRun, againRun, same, ?_, unchanged⟩
  rw [rows, firstKept, secondKept]
  decide

end RuleAtoms.Evaluation
