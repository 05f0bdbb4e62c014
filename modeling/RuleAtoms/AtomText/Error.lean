/-
**What can be wrong with an atom in text.**
-/

import RuleAtoms.Report.Basic
import RuleAtoms.Text.Visible

namespace RuleAtoms.AtomText

/-- Why a text is not read as an atom. Positions count bytes of the text. -/
inductive Error where
  /-- There is nothing but blanks. -/
  | blank
  /-- No atom can go on as the text does at a position. -/
  | unexpected (position : Nat) (near : List Char)
  /-- The atom has ended, but the text has not. -/
  | trailing (position : Nat)
  | undefinedPrefix (name : String)
deriving DecidableEq

end AtomText

/-! ### Reports -/

namespace Report

/-- A report of what is wrong at a position of a text. -/
def syntaxError (position : Nat) (detail : String) : Report :=
  (new .invalidNotation
    ("Syntax error at position " ++ toString position ++ ": " ++ detail)).withField
      "position" (toString position)

def undefinedPrefix (name : String) : Report := new .undefinedPrefix ("Undefined prefix: " ++ name)

def unexpectedEnd : Report := new .invalidNotation "Unexpected end of input"

end Report

def AtomText.Error.report : AtomText.Error → Report
  | blank => .unexpectedEnd
  | unexpected position near =>
    .syntaxError position ("unexpected input near " ++ String.ofList (Text.visible near))
  | trailing position => .syntaxError position "trailing input after atom"
  | undefinedPrefix name => .undefinedPrefix name

end RuleAtoms
