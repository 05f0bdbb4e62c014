/-
**Numbers.**

A number is a whole number of 64 bits or a finite double. Arithmetic stays whole as long as both
operands are; one double moves the computation to doubles. A result that does not fit is no result.
-/

import RuleAtoms.Number.Shortest
import RuleAtoms.Text.Blank

namespace RuleAtoms

/-- A number that a lexical form can denote. -/
inductive Number where
  | whole (value : Whole)
  | double (value : Double)
deriving DecidableEq

namespace Number

/-- Reads a number: a whole number if the text is one that fits, else the nearest double. Blanks
around it are ignored. -/
def read? (text : List Char) : Option Number :=
  let trimmed := Text.trim text
  match readWhole? trimmed with
  | some value => some (.whole value)
  | none => ((Decimal.read? trimmed).bind Decimal.toDouble?).map .double

/-- The number as a double, rounded if need be. -/
def toDouble : Number → Double
  | .whole value => Double.ofWhole value
  | .double value => value

/-- The exact value as a whole number, if it is one that fits. -/
def toWhole? : Number → Option Whole
  | .whole value => some value
  | .double value => value.toWhole?

def isWhole : Number → Bool
  | .whole _ => true
  | .double _ => false

/-- Applies one operation to two whole numbers and another, on doubles, to any other pair. -/
def combine? (onWholes : Whole → Whole → Option Whole)
    (onDoubles : Double → Double → Option Double) : Number → Number → Option Number
  | .whole first, .whole second => (onWholes first second).map .whole
  | first, second => (onDoubles first.toDouble second.toDouble).map .double

/-- The remainder with the sign of the dividend; none for a zero divisor. -/
def rem? : Number → Number → Option Number := combine? Whole.rem? Double.rem?

def add? : Number → Number → Option Number := combine? Whole.add? Double.add?

def sub? : Number → Number → Option Number := combine? Whole.sub? Double.sub?

def mul? : Number → Number → Option Number := combine? Whole.mul? Double.mul?

def abs? : Number → Option Number
  | .whole value => value.abs?.map .whole
  | .double value => some (.double value.abs)

/-- Whole numbers compare exactly; any other pair compares as doubles. -/
def compare : Number → Number → Ordering
  | .whole first, .whole second => Ord.compare first.toInt second.toInt
  | first, second => first.toDouble.compare second.toDouble

/-- Whether two numbers compare as equal. -/
def same (first second : Number) : Bool := first.compare second == .eq

/-- The shortest text that denotes the number. -/
def text : Number → List Char
  | .whole value => intText value.toInt
  | .double value => value.text

end Number

end RuleAtoms
