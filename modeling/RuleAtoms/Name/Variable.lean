/-
**Variables and the columns they name.**

A variable or a column may be written with a leading question mark, its marker. One marker is
dropped before names are compared, so `?X` and `X` name the same column.
-/

import RuleAtoms.Text.Split

namespace RuleAtoms

/-- A name without its marker, if it begins with one. -/
def dropMarker (name : String) : String := String.ofList (Text.dropStart ['?'] name.toList)

/-- A variable of a rule, by its name without the marker. -/
structure Variable where
  name : String
deriving DecidableEq

namespace Variable

/-- The variable that a text denotes, with or without a marker. -/
def ofText (text : String) : Variable := ⟨dropMarker text⟩

/-- Whether the variable names a column. -/
def namesColumn (self : Variable) (column : String) : Bool := dropMarker column == self.name

/-- The variable with its marker. -/
def text (self : Variable) : String := "?" ++ self.name

end Variable

end RuleAtoms
