/-
**Arithmetic.**

The functions on numbers. Each gets the operands without the result, and has no result when an
operand is no number, the count does not fit, or a step leaves the range of numbers.
-/

import RuleAtoms.Predicate.Outcome

namespace RuleAtoms.Arithmetic

/-- The numbers that the operands denote, if all of them denote one. -/
def numbers? (operands : List Literal) : Option (List Number) := operands.mapM Literal.number?

/-- Applies an operation to exactly two numbers. -/
def onPair? (operation : Number → Number → Option Number) (operands : List Literal) :
    Option Number :=
  match operands with
  | [first, second] =>
    first.number?.bind fun firstNumber => second.number?.bind (operation firstNumber)
  | _ => none

/-- Applies an operation from left to right to one or more numbers. -/
def fold? (operation : Number → Number → Option Number) (operands : List Literal) :
    Option Number :=
  (numbers? operands).bind fun
    | [] => none
    | first :: rest => rest.foldlM operation first

def remainder? : List Literal → Option Number := onPair? Number.rem?

def sum? : List Literal → Option Number := fold? Number.add?

def difference? : List Literal → Option Number := onPair? Number.sub?

def product? : List Literal → Option Number := fold? Number.mul?

def absolute? : List Literal → Option Number
  | [operand] => operand.number?.bind Number.abs?
  | _ => none

end RuleAtoms.Arithmetic
