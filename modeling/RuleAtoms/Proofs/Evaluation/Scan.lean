/-
**An evaluation row by row.**

An evaluation can be carried out as a loop: the result is made in a store that grows by one row at a
time, each row may be refused by the store, and events are told on the way. What has been told stays
told when the loop fails later.

* `scanRow_store`: one row is added to the store, or left out, as its verdict says, and its event is
  told; the store never refuses it;
* `foldlM_scanRow_store`: so it goes for any number of rows;
* `course_eq_run`: the loop makes the relation and tells the events of `run`, and where `run` fails it
  fails without having told anything.
-/

import RuleAtoms.Evaluation.Run
import RuleAtoms.Proofs.Table.Store

namespace RuleAtoms.Evaluation

/-! ### Telling events -/

/-- Work that tells events on the way, and may fail. -/
abbrev Telling := Work Error (List Event)

namespace Telling

variable {α ε : Type} {told : List Event}

/-- Tells an event. -/
def tell (event : Event) : Telling Unit := modify (· ++ [event])

/-- Fails with an error of one part of the work. -/
def require (asError : ε → Error) (part : Except ε α) : Telling α :=
  match part with
  | .ok value => pure value
  | .error error => throw (asError error)

@[simp] theorem after_tell (event : Event) :
    (tell event).after told = (.ok (), told ++ [event]) := rfl

@[simp] theorem after_require_ok (asError : ε → Error) (value : α) :
    (require asError (.ok value)).after told = (.ok value, told) := rfl

@[simp] theorem after_require_error (asError : ε → Error) (error : ε) :
    (require asError (.error error) : Telling α).after told = (.error (asError error), told) := rfl

end Telling

open Telling
open Work (after_pure after_bind_of_ok after_bind_of_error)

/-! ### The loop -/

/-- The cells of a row after a token has been written where the store keeps the column of a name, if
it keeps one. -/
def writeAt (made : Store) (cells : Row) (name token : String) : Row :=
  match made.columnIndex? name with
  | some index => cells.set index (some token)
  | none => cells

/-- What a row comes out as, or why it is left out. The result is written where the store that is
being made keeps its column. -/
def scanCells (table : BindingTable) (meaning : Meaning) (target? : Option Target)
    (arguments : List Argument) (made : Store) (row : Nat) : Except Exclusion Row :=
  match target?.filter fun target => (table.cell? row target.result.name).isNone with
  | some target =>
    (computeCell table target arguments.tail row).map fun literal =>
      writeAt made (table.row row) target.result.name literal.token
  | none => (check table meaning arguments row).map fun _ => table.row row

/-- Looks at one row and adds it to the store, unless it is left out. -/
def scanRow (table : BindingTable) (meaning : Meaning) (target? : Option Target)
    (arguments : List Argument) (made : Store) (row : Nat) : Telling Store :=
  match scanCells table meaning target? arguments made row with
  | .ok cells => do
    let longer ← require .table ((Store.pushRow cells).completed made)
    tell (.kept row)
    return longer
  | .error reason => do
    tell (.excluded row reason)
    return made

/-- Looks at all rows, one after another. When a variable names no column, no row is looked at. -/
def scan (registry : Registry) (mode : EvaluationMode) (atom : Atom) (table : BindingTable) :
    Telling Store := do
  let spec ← require .atom (prepare registry atom)
  let empty ← require .table (Store.ofColumns table.columns)
  tell (.start atom.predicate table.rowCount)
  if atom.variableList.all table.hasVariable then
    let made ← (List.range table.rowCount).foldlM
      (scanRow table spec.meaning (target? mode spec.meaning atom table) atom.arguments) empty
    tell (.complete atom.predicate made.rows.length)
    return made
  else
    tell (.complete atom.predicate 0)
    return empty

/-- What the loop makes, and all that it tells. -/
def course (registry : Registry) (mode : EvaluationMode) (atom : Atom) (table : BindingTable) :
    Except Error Store × List Event :=
  (scan registry mode atom table).after []

section Scan

variable {table : BindingTable} {meaning : Meaning} {target? : Option Target}
  {arguments : List Argument} {relation : Relation}

/-! ### One row -/

/-- The store keeps its columns in the order of the table, so the result is written in its place. -/
theorem scanCells_store {row : Nat} (sameColumns : relation.columns = table.columns) :
    scanCells table meaning target? arguments relation.store row =
      evaluateRow table meaning target? arguments row := by
  have written : ∀ cells name token, writeAt relation.store cells name token =
      writeCell table.columns cells name token := by
    intro cells name token
    unfold writeAt writeCell
    rw [Relation.columnIndex?_store, ← sameColumns]
    rfl
  unfold scanCells evaluateRow
  cases target?.filter fun target => (table.cell? row target.result.name).isNone with
  | none => rfl
  | some target =>
    refine congrArg (Except.map · (computeCell table target arguments.tail row)) ?_
    funext literal
    exact written _ _ _

/-- **One row of the loop**: it is added to the store or left out as its verdict says, and the event
is told. A row that comes out has a cell for each column, so the store does not refuse it. -/
theorem scanRow_store (row : Nat) (told : List Event)
    (sameColumns : relation.columns = table.columns) :
    ∃ longer : Relation,
      (scanRow table meaning target? arguments relation.store row).after told =
          (.ok longer.store,
            told ++ [rowEvent row (evaluateRow table meaning target? arguments row)]) ∧
        longer.columns = table.columns ∧
        longer.rows = relation.rows ++
          (evaluateRow table meaning target? arguments row).toOption.toList := by
  unfold scanRow
  rw [scanCells_store sameColumns]
  cases verdict : evaluateRow table meaning target? arguments row with
  | error reason =>
    refine ⟨relation, ?_, sameColumns, (List.append_nil _).symm⟩
    rw [after_bind_of_ok (after_tell _)]
    rfl
  | ok cells =>
    have fits : cells.length = relation.columns.length := by
      rw [length_of_evaluateRow verdict, sameColumns]
    obtain ⟨longer, pushed, longerColumns, longerRows⟩ := Store.exists_pushRow_store fits
    refine ⟨longer, ?_, longerColumns.trans sameColumns, longerRows⟩
    show (require .table ((Store.pushRow cells).completed relation.store) >>= _).after told = _
    rw [pushed, after_bind_of_ok (after_require_ok _ _), after_bind_of_ok (after_tell _)]
    rfl

/-! ### All rows -/

/-- **The rows of the loop**, by induction: the loop keeps the columns, and adds to the rows and to
what is told what each row adds. -/
theorem foldlM_scanRow_store (rows : List Nat) (told : List Event)
    (sameColumns : relation.columns = table.columns) :
    ∃ longer : Relation,
      Work.after (rows.foldlM (scanRow table meaning target? arguments) relation.store) told =
          (.ok longer.store, told ++ rows.map fun row =>
            rowEvent row (evaluateRow table meaning target? arguments row)) ∧
        longer.columns = table.columns ∧
        longer.rows = relation.rows ++ rows.filterMap fun row =>
          (evaluateRow table meaning target? arguments row).toOption := by
  induction rows generalizing relation told with
  | nil =>
    refine ⟨relation, ?_, sameColumns, (List.append_nil _).symm⟩
    rw [List.map_nil, List.append_nil]
    rfl
  | cons row rest ih =>
    obtain ⟨next, first, nextColumns, nextRows⟩ := scanRow_store row told sameColumns
    obtain ⟨longer, others, longerColumns, longerRows⟩ := ih _ nextColumns
    refine ⟨longer, ?_, longerColumns, ?_⟩
    · rw [List.foldlM_cons, after_bind_of_ok first, others, List.append_assoc]
      rfl
    · rw [longerRows, nextRows, List.append_assoc]
      rw [List.filterMap_cons]
      cases evaluateRow table meaning target? arguments row <;> rfl

/-- What is told about the rows, each with its number. -/
theorem mapIdx_rowEvent (count : Nat) (verdict : Nat → Except Exclusion Row) :
    ((List.range count).map verdict).mapIdx rowEvent =
      (List.range count).map fun row => rowEvent row (verdict row) := by
  refine List.ext_getElem (by simp) fun row _ _ => ?_
  simp

end Scan

/-! ### The evaluation -/

section Run

variable {registry : Registry} {atom : Atom} {table : BindingTable} {spec : Spec}

theorem run_of_prepare_error {mode : EvaluationMode} {error : Atom.Error}
    (refused : prepare registry atom = .error error) :
    run registry mode atom table = .error (.atom error) := by
  unfold run
  rw [refused]

theorem run_of_columns_error {mode : EvaluationMode} {error : Relation.Error}
    (prepared : prepare registry atom = .ok spec)
    (failed : Relation.ofColumns table.columns = .error error) :
    run registry mode atom table = .error (.table error) := by
  unfold run
  rw [prepared]
  simp only
  split
  · rename_i other failed'
    rw [Except.error.inj (failed'.symm.trans failed)]
  · rename_i empty made
    cases made.symm.trans failed

/-- What `run` makes and tells when nothing is broken. -/
theorem exists_run (mode : EvaluationMode) {empty : Relation}
    (prepared : prepare registry atom = .ok spec)
    (made : Relation.ofColumns table.columns = .ok empty) :
    ∃ outcome, run registry mode atom table = .ok outcome ∧
      outcome.relation.columns = table.columns ∧
      outcome.relation.rows = keptRows (verdicts spec mode atom table) ∧
      outcome.events = .start atom.predicate table.rowCount ::
        (verdicts spec mode atom table).mapIdx rowEvent ++
          [.complete atom.predicate outcome.relation.rows.length] := by
  unfold run
  rw [prepared]
  simp only
  split
  · rename_i error failed
    cases failed.symm.trans made
  · rename_i other made'
    refine ⟨_, rfl, ?_, rfl, rfl⟩
    exact (Relation.columns_ofColumns made' : other.columns = table.columns)

/-- What the loop makes and tells when nothing is broken. -/
theorem exists_course (mode : EvaluationMode) {empty : Relation}
    (prepared : prepare registry atom = .ok spec)
    (made : Relation.ofColumns table.columns = .ok empty) :
    ∃ result : Relation,
      course registry mode atom table = (.ok result.store,
        .start atom.predicate table.rowCount ::
          (verdicts spec mode atom table).mapIdx rowEvent ++
            [.complete atom.predicate result.rows.length]) ∧
      result.columns = table.columns ∧
      result.rows = keptRows (verdicts spec mode atom table) := by
  have sameColumns := Relation.columns_ofColumns made
  have noRows := Relation.rows_ofColumns made
  unfold course scan
  have stored : Store.ofColumns table.columns = .ok empty.store := by
    rw [Store.ofColumns_eq, made]
    rfl
  rw [prepared, stored, after_bind_of_ok (after_require_ok _ _),
    after_bind_of_ok (after_require_ok _ _), after_bind_of_ok (after_tell _)]
  unfold verdicts
  by_cases allNamed : atom.variableList.all table.hasVariable = true
  · rw [if_pos allNamed, if_pos allNamed]
    obtain ⟨result, looped, resultColumns, resultRows⟩ :=
      foldlM_scanRow_store (List.range table.rowCount)
        ([] ++ [.start atom.predicate table.rowCount]) sameColumns
    refine ⟨result, ?_, resultColumns, ?_⟩
    · rw [after_bind_of_ok looped, after_bind_of_ok (after_tell _), after_pure, mapIdx_rowEvent]
      rfl
    · rw [resultRows, noRows, List.nil_append]
      unfold keptRows
      rw [List.filterMap_map]
      rfl
  · rw [if_neg allNamed, if_neg allNamed]
    refine ⟨empty, ?_, sameColumns, noRows⟩
    rw [after_bind_of_ok (after_tell _), after_pure, noRows]
    rfl

end Run

/-- **The loop does what `run` says**: it makes the same relation and tells the same events, or fails
with the same error before anything has been told. -/
theorem course_eq_run (registry : Registry) (mode : EvaluationMode) (atom : Atom)
    (table : BindingTable) :
    course registry mode atom table =
      match run registry mode atom table with
      | .error error => (.error error, [])
      | .ok outcome => (.ok outcome.relation.store, outcome.events) := by
  cases prepared : prepare registry atom with
  | error error =>
    rw [run_of_prepare_error prepared]
    unfold course scan
    rw [prepared, after_bind_of_error (after_require_error _ _)]
  | ok spec =>
    cases made : Relation.ofColumns table.columns with
    | error error =>
      rw [run_of_columns_error prepared made]
      unfold course scan
      have stored : Store.ofColumns table.columns = .error error := by
        rw [Store.ofColumns_eq, made]
        rfl
      rw [prepared, stored, after_bind_of_ok (after_require_ok _ _),
        after_bind_of_error (after_require_error _ _)]
    | ok empty =>
      obtain ⟨outcome, succeeds, outcomeColumns, outcomeRows, events⟩ :=
        exists_run mode prepared made
      obtain ⟨result, looped, resultColumns, resultRows⟩ :=
        exists_course mode prepared made
      have same : result = outcome.relation :=
        Relation.eq_of_columns_rows (resultColumns.trans outcomeColumns.symm)
          (resultRows.trans outcomeRows.symm)
      rw [looped, succeeds, same, ← events]

end RuleAtoms.Evaluation
