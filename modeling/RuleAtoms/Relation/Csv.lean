/-
**Relations as comma-separated values.**

One line for the columns and one for each row, each with a line feed behind it. An absent cell is an
empty field. A field with a comma, a quote or a line end in it stands between quotes, and its quotes
are doubled.
-/

import RuleAtoms.Relation.Basic

namespace RuleAtoms.Relation

def isCsvSpecial (c : Char) : Bool := c == ',' || c == '"' || c == '\n' || c == '\r'

/-- One character between quotes. -/
def csvChar (c : Char) : List Char := if c == '"' then ['"', '"'] else [c]

/-- One field. -/
def csvField (text : List Char) : List Char :=
  if text.any isCsvSpecial then '"' :: text.flatMap csvChar ++ ['"'] else text

/-- One line with its line feed. -/
def csvLine (fields : List (List Char)) : List Char :=
  Text.join [','] (fields.map csvField) ++ ['\n']

/-- A cell as the text of a field. -/
def csvCell (cell : Option String) : List Char := (cell.getD "").toList

/-- The relation as comma-separated values. -/
def csv (relation : Relation) : List Char :=
  csvLine (relation.columns.map String.toList) ++
    relation.rows.flatMap fun row => csvLine (row.map csvCell)

end RuleAtoms.Relation
