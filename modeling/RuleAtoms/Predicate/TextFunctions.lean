/-
**Functions and tests on texts.**

They look at the lexical forms of their arguments, whatever their kinds. Positions and lengths
count characters.

`substring?` takes positions that may be fractions or far outside the text. Start and length are
rounded to whole numbers, halves up, and the end is their sum; all three are rounded as doubles
are, here without an upper limit, because an end beyond every text is the same as none. So are the
positions of the characters that are held against them.
-/

import RuleAtoms.Predicate.Outcome
import RuleAtoms.Text.LetterCase

namespace RuleAtoms.TextFunctions

/-- The lexical forms of exactly two literals. -/
def pair? : List Literal → Option (List Char × List Char)
  | [first, second] => some (first.lexical.toList, second.lexical.toList)
  | _ => none

/-- The lexical form of exactly one literal. -/
def single? : List Literal → Option (List Char)
  | [operand] => some operand.lexical.toList
  | _ => none

/-- The text before the first separator; nothing when the separator is empty or does not occur. -/
def before (text separator : List Char) : List Char :=
  if separator.isEmpty then []
  else
    match Text.splitFirst? separator text with
    | some (front, _) => front
    | none => []

/-- The text after the first separator; nothing when the separator does not occur, all of the text
when it is empty. -/
def after (text separator : List Char) : List Char :=
  match Text.splitFirst? separator text with
  | some (_, back) => back
  | none => []

def substringBefore? (operands : List Literal) : Option String :=
  (pair? operands).map fun (text, separator) => String.ofList (before text separator)

def substringAfter? (operands : List Literal) : Option String :=
  (pair? operands).map fun (text, separator) => String.ofList (after text separator)

/-- All lexical forms, one behind the other. -/
def concatenation (operands : List Literal) : String :=
  String.ofList (operands.flatMap (·.lexical.toList))

/-- The number of characters. -/
def length? (operands : List Literal) : Option Number :=
  (single? operands).bind fun text => (Whole.ofInt? text.length).map .whole

/-- An exact value in units of the least positive double, rounded to 53 significant bits. -/
def roundUnits (value : Int) : Int :=
  if value < 0 then -(Rounding.nearest value.natAbs 1 : Int) else Rounding.nearest value.natAbs 1

/-- A position or length in units, rounded to a whole number, a half to the greater one. -/
def roundPosition (double : Double) : Int :=
  roundUnits (double.toInt + Double.one / 2) / Double.one * Double.one

/-- The position of a character as a double, in units. -/
def place (position : Nat) : Int := roundUnits (position * Double.one)

/-- The characters at the positions, counted from one, that a test admits. -/
def keepPositions (admits : Nat → Bool) (text : List Char) : List Char :=
  (text.zipIdx 1).filterMap fun (c, position) => if admits position then some c else none

/-- The characters from one position on and, if a length is given, before the end it sets. -/
def slice (text : List Char) (start : Double) (length? : Option Double) : List Char :=
  let first := roundPosition start
  let end? := length?.map fun length => roundUnits (first + roundPosition length)
  keepPositions (fun position =>
    decide (first ≤ place position) && end?.all fun last => decide (place position < last)) text

/-- A double that a literal denotes. -/
def double? (literal : Literal) : Option Double := literal.number?.map Number.toDouble

/-- Substring of a text from a start, with or without a length. -/
def substring? : List Literal → Option String
  | [text, start] =>
    (double? start).map fun first => String.ofList (slice text.lexical.toList first none)
  | [text, start, length] =>
    (double? start).bind fun first =>
      (double? length).map fun count =>
        String.ofList (slice text.lexical.toList first (some count))
  | _ => none

def upperCase? (operands : List Literal) : Option String :=
  (single? operands).map fun text => String.ofList (Text.upperCase text)

def lowerCase? (operands : List Literal) : Option String :=
  (single? operands).map fun text => String.ofList (Text.lowerCase text)

/-- A test of two texts; it fails for any other count. -/
def onPair (test : List Char → List Char → Bool) (arguments : List Literal) : Bool :=
  match pair? arguments with
  | some (first, second) => test first second
  | none => false

def contains : List Literal → Bool :=
  onPair fun text part => (Text.splitFirst? part text).isSome

def startsWith : List Literal → Bool := onPair fun text part => part.isPrefixOf text

def endsWith : List Literal → Bool := onPair fun text part => part.isSuffixOf text

end RuleAtoms.TextFunctions
