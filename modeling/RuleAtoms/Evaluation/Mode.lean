/-
**What to do with a row whose result cell is absent.**
-/

import RuleAtoms.Text.LetterCase

namespace RuleAtoms

/-- Two ways to evaluate an atom over a table. -/
inductive EvaluationMode where
  /-- Every argument must be known, or the row is dropped. -/
  | filter
  /-- The result of a function is computed and written into its absent cell. -/
  | bind
deriving DecidableEq

namespace EvaluationMode

def all : List EvaluationMode := [filter, bind]

def name : EvaluationMode → String
  | filter => "filter"
  | bind => "bind"

/-- The mode with exactly this name. -/
def ofName? (name : String) : Option EvaluationMode := all.find? (·.name == name)

/-- The mode that a word denotes, in capital or small letters. -/
def ofWord? (word : String) : Option EvaluationMode :=
  ofName? (String.ofList (Text.lowerCase word.toList))

end EvaluationMode

end RuleAtoms
