/-
**Relations.**

A relation is a table with named columns. Each cell holds the token of a literal or nothing. Columns
are distinct up to their markers, and every row has one cell for each column; both are part of the
type, so a relation cannot be built otherwise.
-/

import RuleAtoms.Name.Variable
import RuleAtoms.Report.Basic

namespace RuleAtoms

/-- The cells of a row, some of them absent. -/
abbrev Row := List (Option String)

/-- A table with distinct columns and rows of one width. -/
structure Relation where
  columns : List String
  rows : List Row
  distinct : (columns.map dropMarker).Nodup
  rectangular : ∀ row ∈ rows, row.length = columns.length

namespace Relation

/-- Why a table is no relation. -/
inductive Error where
  | duplicateColumn (column : String)
  /-- The row with this index has another number of cells than the table has columns. -/
  | rowWidth (row cells columns : Nat)
deriving DecidableEq

def Error.report : Error → Report
  | duplicateColumn column =>
    (Report.new .duplicateColumn ("Column " ++ column ++ " appears more than once")).withField
      "column" column
  | rowWidth row cells columns =>
    .new .rowWidthMismatch
      ("Row " ++ toString row ++ " has " ++ toString cells ++ " cells but the relation has " ++
        toString columns ++ " columns")

/-! ### Building -/

/-- The first column that names the same as one before it, or as one of the names given. -/
def repeatedColumn? : List String → List String → Option String
  | _, [] => none
  | seen, column :: rest =>
    if dropMarker column ∈ seen then some column
    else repeatedColumn? (dropMarker column :: seen) rest

theorem nodup_of_repeatedColumn? {seen columns : List String}
    (noRepeat : repeatedColumn? seen columns = none) :
    (columns.map dropMarker).Nodup ∧ ∀ name ∈ columns.map dropMarker, name ∉ seen := by
  induction columns generalizing seen with
  | nil => simp
  | cons column rest ih =>
    simp only [repeatedColumn?] at noRepeat
    split at noRepeat
    · simp at noRepeat
    · rename_i fresh
      obtain ⟨restDistinct, restFresh⟩ := ih noRepeat
      refine ⟨List.nodup_cons.mpr ⟨fun member => ?_, restDistinct⟩, ?_⟩
      · exact restFresh _ member List.mem_cons_self
      · intro name member
        rcases List.mem_cons.mp member with rfl | inRest
        · exact fresh
        · exact fun seenBefore => restFresh name inRest (List.mem_cons_of_mem _ seenBefore)

/-- The relation with the given columns and no rows. -/
def ofColumns (columns : List String) : Except Error Relation :=
  match found : repeatedColumn? [] columns with
  | some column => .error (.duplicateColumn column)
  | none => .ok ⟨columns, [], (nodup_of_repeatedColumn? found).1, by simp⟩

theorem columns_ofColumns {columns : List String} {relation : Relation}
    (made : ofColumns columns = .ok relation) : relation.columns = columns := by
  unfold ofColumns at made
  split at made
  · simp at made
  · rw [← Except.ok.inj made]

/-- The relation without columns and rows. -/
def empty : Relation := ⟨[], [], List.nodup_nil, by simp⟩

/-- The relation with the same columns and no rows. -/
def emptyLike (relation : Relation) : Relation := { relation with rows := [], rectangular := by simp }

/-- The relation with the same columns and other rows. -/
def withRows (relation : Relation) (rows : List Row)
    (rectangular : ∀ row ∈ rows, row.length = relation.columns.length) : Relation :=
  { relation with rows, rectangular }

/-- The relation with one more row at the end. -/
def pushRow (relation : Relation) (row : Row) : Except Error Relation :=
  if fits : row.length = relation.columns.length then
    .ok (relation.withRows (relation.rows ++ [row]) (by
      intro other member
      rcases List.mem_append.mp member with old | new
      · exact relation.rectangular other old
      · rw [List.mem_singleton.mp new, fits]))
  else .error (.rowWidth relation.rows.length row.length relation.columns.length)

/-- The relation with one more row of tokens, all present. -/
def pushTokens (relation : Relation) (tokens : List String) : Except Error Relation :=
  relation.pushRow (tokens.map some)

/-- The relation with the given columns and rows. -/
def ofRows (columns : List String) (rows : List Row) : Except Error Relation :=
  (ofColumns columns).bind fun relation => rows.foldlM pushRow relation

/-! ### Looking things up -/

/-- The position of a column, whatever the markers. -/
def columnIndex? (relation : Relation) (column : String) : Option Nat :=
  relation.columns.findIdx? fun known => dropMarker known == dropMarker column

/-- The token in a row and a column; `none` also when there is no such row or column. -/
def cell? (relation : Relation) (row : Nat) (column : String) : Option String :=
  (relation.columnIndex? column).bind fun index =>
    (relation.rows[row]?).bind fun cells => (cells[index]?).join

/-- Two relations agree when they have the same columns, in whatever order, and the same rows. -/
def agrees (first second : Relation) : Bool :=
  first.columns.isPerm second.columns && first.rows == second.rows

end Relation

end RuleAtoms
