/-
**Relations as aligned text.**

A header, a rule and one line for each row, in columns as wide as their widest entry. An absent cell
shows as a hyphen. The number of rows comes last.
-/

import RuleAtoms.Relation.Basic
import RuleAtoms.Text.Blank

namespace RuleAtoms.Relation

/-- A cell as it is shown. -/
def shownCell (cell : Option String) : List Char := (cell.getD "-").toList

/-- The number of characters of the widest entry in the column with an index. -/
def columnWidth (relation : Relation) (index : Nat) (column : String) : Nat :=
  relation.rows.foldl
    (fun width row => max width (row[index]?.elim 0 fun cell => (shownCell cell).length))
    column.length

def columnWidths (relation : Relation) : List Nat :=
  relation.columns.mapIdx relation.columnWidth

/-- A line of entries with blanks behind each up to the width of its column, but none at the end of
the line. -/
def alignedLine (widths : List Nat) (entries : List (List Char)) : List Char :=
  Text.trimEnd (Text.join [' ', '|', ' '] (List.zipWith (List.rightpad · ' ' ·) widths entries)) ++ ['\n']

/-- The relation as aligned text. -/
def aligned (relation : Relation) : List Char :=
  let widths := relation.columnWidths
  alignedLine widths (relation.columns.map String.toList) ++
    Text.join ['-', '+', '-'] (widths.map fun width => List.replicate width '-') ++ ['\n'] ++
    relation.rows.flatMap (fun row => alignedLine widths (row.map shownCell)) ++
    ("(" ++ toString relation.rows.length ++ " rows)").toList

end RuleAtoms.Relation
