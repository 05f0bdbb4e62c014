/-
**Tables that can be evaluated over.**

A binding table answers three questions: which columns it has, how many rows, and what stands in a
cell. A relation is one; a table that obeys no rules is another.
-/

import RuleAtoms.Relation.Basic

namespace RuleAtoms

/-- A table as an evaluation sees it. -/
structure BindingTable where
  columns : List String
  rowCount : Nat
  /-- The token in a row and a column, by its name with or without a marker. -/
  cell? : Nat → String → Option String

namespace BindingTable

/-- Whether there is a column of this name, whatever the markers. -/
def hasColumn (table : BindingTable) (column : String) : Bool :=
  table.columns.any fun known => dropMarker known == dropMarker column

/-- Whether a variable names a column. -/
def hasVariable (table : BindingTable) (wanted : Variable) : Bool :=
  table.columns.any wanted.namesColumn

def isEmpty (table : BindingTable) : Bool := table.rowCount == 0

/-- The cells of a row, one for each column. -/
def row (table : BindingTable) (index : Nat) : Row := table.columns.map (table.cell? index)

/-- A table with columns and rows of any kind. A name means its first column. -/
def unchecked (columns : List String) (rows : List Row) : BindingTable where
  columns := columns
  rowCount := rows.length
  cell? := fun index column =>
    (columns.findIdx? fun known => dropMarker known == dropMarker column).bind fun position =>
      (rows[index]?).bind fun cells => (cells[position]?).join

end BindingTable

/-- A relation as a table to evaluate over. -/
def Relation.table (relation : Relation) : BindingTable :=
  ⟨relation.columns, relation.rows.length, relation.cell?⟩

end RuleAtoms
