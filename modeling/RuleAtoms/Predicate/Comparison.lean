/-
**Comparison.**

Two literals that denote numbers compare by value, two that denote none by their lexical forms,
code point by code point. A number and a text have no order.
-/

import RuleAtoms.Literal.Basic

namespace RuleAtoms.Comparison

/-- The order of two literals, if they have one. -/
def order? (first second : Literal) : Option Ordering :=
  match first.number?, second.number? with
  | some firstNumber, some secondNumber => some (firstNumber.compare secondNumber)
  | none, none => some (Ord.compare first.lexical second.lexical)
  | _, _ => none

/-- Two literals are equal as numbers when both denote one, else when they are the same literal. -/
def areEqual (first second : Literal) : Bool :=
  match first.number?, second.number? with
  | some firstNumber, some secondNumber => firstNumber.same secondNumber
  | _, _ => first == second

/-- A test of two arguments; it fails for any other count. -/
def onPair (test : Literal → Literal → Bool) : List Literal → Bool
  | [first, second] => test first second
  | _ => false

def equal : List Literal → Bool := onPair areEqual

def notEqual : List Literal → Bool := onPair fun first second => !areEqual first second

def lessThan : List Literal → Bool :=
  onPair fun first second => order? first second == some .lt

def lessThanOrEqual : List Literal → Bool :=
  onPair fun first second => order? first second == some .lt || order? first second == some .eq

def greaterThan : List Literal → Bool :=
  onPair fun first second => order? first second == some .gt

def greaterThanOrEqual : List Literal → Bool :=
  onPair fun first second => order? first second == some .gt || order? first second == some .eq

end RuleAtoms.Comparison
