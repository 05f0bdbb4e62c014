/-
**Evaluating atoms over tables.**

An evaluation looks at the rows of a table one by one. In filter mode a row is kept when each
argument has a value in it and the predicate holds for these values. In bind mode, a row in which
the result of a function is absent is kept when the function has a result, and the result is written
into its cell. What is kept forms a relation with the columns of the table.

The evaluation fails only for a broken atom or table: an unknown predicate, a wrong number of
arguments or repeated columns. Then nothing has been looked at, and no event is told.
-/

import RuleAtoms.Atom.Basic
import RuleAtoms.Evaluation.BindingTable
import RuleAtoms.Evaluation.Mode
import RuleAtoms.Literal.Token

namespace RuleAtoms.Evaluation

/-- Why a row is left out. -/
inductive Exclusion where
  /-- An argument that has to be read has no value in the row. -/
  | unbound
  /-- The predicate does not hold, or the function has no result. -/
  | failed
deriving DecidableEq

/-- What an evaluation tells about its progress. -/
inductive Event where
  | start (predicate : String) (rows : Nat)
  | kept (row : Nat)
  | excluded (row : Nat) (reason : Exclusion)
  | complete (predicate : String) (kept : Nat)
deriving DecidableEq

/-- Why an evaluation fails. -/
inductive Error where
  | atom (error : Atom.Error)
  | table (error : Relation.Error)
deriving DecidableEq

def Error.report : Error → Report
  | atom error => error.report
  | table error => error.report

/-- The relation that an evaluation makes, and what it told on the way. -/
structure Outcome where
  relation : Relation
  events : List Event

/-! ### One row -/

/-- The value of an argument in a row of a table. -/
def resolve? (table : BindingTable) (row : Nat) : Argument → Option Literal
  | .variable value => (table.cell? row value.name).map Literal.ofToken
  | .literal value => some value

/-- The values of all arguments in a row, if each has one. -/
def resolveAll? (table : BindingTable) (row : Nat) (arguments : List Argument) :
    Option (List Literal) :=
  arguments.mapM (resolve? table row)

/-- Whether an atom with a meaning holds in a row, or why the row is left out. -/
def check (table : BindingTable) (meaning : Meaning) (arguments : List Argument) (row : Nat) :
    Except Exclusion Unit :=
  match resolveAll? table row arguments with
  | none => .error .unbound
  | some values => if meaning.holds values then .ok () else .error .failed

/-- A result to be written: the function that computes it and the variable it is for. -/
structure Target where
  compute? : List Literal → Option RuleAtoms.Outcome
  result : Variable

/-- The result of a function in a row, as a literal. -/
def computeCell (table : BindingTable) (target : Target) (operands : List Argument) (row : Nat) :
    Except Exclusion Literal :=
  match resolveAll? table row operands with
  | none => .error .unbound
  | some values =>
    match target.compute? values with
    | none => .error .failed
    | some outcome => .ok (outcome.toLiteral values.head?)

/-- The cells of a row after a token has been written into the column of a name, if there is one. -/
def writeCell (columns : List String) (cells : Row) (name token : String) : Row :=
  match columns.findIdx? fun known => dropMarker known == dropMarker name with
  | some index => cells.set index (some token)
  | none => cells

/-- The cells that a row has in the result, or why it is left out. -/
def evaluateRow (table : BindingTable) (meaning : Meaning) (target? : Option Target)
    (arguments : List Argument) (row : Nat) : Except Exclusion Row :=
  let absent? := target?.filter fun target => (table.cell? row target.result.name).isNone
  match absent? with
  | some target =>
    (computeCell table target arguments.tail row).map fun literal =>
      writeCell table.columns (table.row row) target.result.name literal.token
  | none => (check table meaning arguments row).map fun _ => table.row row

theorem length_writeCell (columns : List String) (cells : Row) (name token : String) :
    (writeCell columns cells name token).length = cells.length := by
  unfold writeCell
  split <;> simp

/-- A row of the result has one cell for each column of the table. -/
theorem length_of_evaluateRow {table : BindingTable} {meaning : Meaning}
    {target? : Option Target} {arguments : List Argument} {row : Nat} {cells : Row}
    (kept : evaluateRow table meaning target? arguments row = .ok cells) :
    cells.length = table.columns.length := by
  unfold evaluateRow at kept
  simp only at kept
  split at kept
  · rename_i target _
    cases computed : computeCell table target arguments.tail row with
    | error reason => simp [computed, Except.map] at kept
    | ok literal =>
      simp only [computed, Except.map, Except.ok.injEq] at kept
      rw [← kept, length_writeCell]
      simp [BindingTable.row]
  · cases checked : check table meaning arguments row with
    | error reason => simp [checked, Except.map] at kept
    | ok found =>
      simp only [checked, Except.map, Except.ok.injEq] at kept
      rw [← kept]
      simp [BindingTable.row]

/-! ### All rows -/

/-- What is told about a row. -/
def rowEvent (row : Nat) : Except Exclusion Row → Event
  | .ok _ => .kept row
  | .error reason => .excluded row reason

/-- The registry entry for an atom that can be evaluated. -/
def prepare (registry : Registry) (atom : Atom) : Except Atom.Error Spec :=
  match registry.get? atom.predicate with
  | none => .error (.unknownPredicate atom.predicate)
  | some spec => (Atom.checkCount spec.predicate atom.arguments.length).map fun _ => spec

/-- The result that is written in a mode: only a function has one, and only for a first argument
that is a variable with a column. -/
def target? (mode : EvaluationMode) (meaning : Meaning) (atom : Atom) (table : BindingTable) :
    Option Target :=
  match mode, meaning, atom.arguments with
  | .bind, .function compute?, .variable result :: _ =>
    if table.hasVariable result then some ⟨compute?, result⟩ else none
  | _, _, _ => none

/-- The verdict on each row, in order. There is none when a variable has no column, because then no
row can be kept. -/
def verdicts (spec : Spec) (mode : EvaluationMode) (atom : Atom) (table : BindingTable) :
    List (Except Exclusion Row) :=
  if atom.variableList.all table.hasVariable then
    (List.range table.rowCount).map
      (evaluateRow table spec.meaning (target? mode spec.meaning atom table) atom.arguments)
  else []

/-- The rows that are kept. -/
def keptRows (verdicts : List (Except Exclusion Row)) : List Row :=
  verdicts.filterMap Except.toOption

theorem length_of_mem_keptRows {spec : Spec} {mode : EvaluationMode} {atom : Atom}
    {table : BindingTable} {cells : Row} (kept : cells ∈ keptRows (verdicts spec mode atom table)) :
    cells.length = table.columns.length := by
  obtain ⟨verdict, member, isRow⟩ := List.mem_filterMap.mp kept
  unfold verdicts at member
  split at member
  · obtain ⟨row, -, rfl⟩ := List.mem_map.mp member
    cases found : evaluateRow table spec.meaning (target? mode spec.meaning atom table)
        atom.arguments row with
    | error reason => simp [found, Except.toOption] at isRow
    | ok other =>
      simp only [found, Except.toOption, Option.some.injEq] at isRow
      rw [← isRow]
      exact length_of_evaluateRow found
  · simp at member

/-- Evaluates an atom over a table. -/
def run (registry : Registry) (mode : EvaluationMode) (atom : Atom) (table : BindingTable) :
    Except Error Outcome :=
  match prepare registry atom with
  | .error error => .error (.atom error)
  | .ok spec =>
    match columns : Relation.ofColumns table.columns with
    | .error error => .error (.table error)
    | .ok empty =>
      let verdicts := verdicts spec mode atom table
      let rows := keptRows verdicts
      .ok
        { relation := empty.withRows rows (by
            intro row member
            rw [Relation.columns_ofColumns columns]
            exact length_of_mem_keptRows member)
          events :=
            .start atom.predicate table.rowCount ::
              verdicts.mapIdx rowEvent ++ [.complete atom.predicate rows.length] }

end RuleAtoms.Evaluation
