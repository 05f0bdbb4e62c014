/-
**The built-in predicates.**

Twenty-one predicates, each with its local name in the namespace of built-ins and the argument
counts it accepts.
-/

import RuleAtoms.Name.Iri
import RuleAtoms.Name.Vocabulary

namespace RuleAtoms

/-- A built-in predicate of rules. -/
inductive Predicate where
  | mod | substringBefore | substringAfter
  | add | subtract | multiply | abs
  | equal | notEqual | lessThan | lessThanOrEqual | greaterThan | greaterThanOrEqual
  | stringConcat | stringLength | substring | upperCase | lowerCase
  | contains | startsWith | endsWith
deriving DecidableEq

/-- The argument counts that a predicate accepts. -/
inductive Arity where
  | exactly (count : Nat)
  | atLeast (least : Nat)
  | between (least most : Nat)
deriving DecidableEq

namespace Arity

def accepts : Arity → Nat → Bool
  | exactly count, given => given == count
  | atLeast least, given => decide (least ≤ given)
  | between least most, given => decide (least ≤ given) && decide (given ≤ most)

/-- The arity in words. -/
def text : Arity → String
  | exactly count => "exactly " ++ toString count
  | atLeast least => "at least " ++ toString least
  | between least most => "between " ++ toString least ++ " and " ++ toString most

end Arity

namespace Predicate

def all : List Predicate :=
  [mod, substringBefore, substringAfter, add, subtract, multiply, abs, equal, notEqual, lessThan,
    lessThanOrEqual, greaterThan, greaterThanOrEqual, stringConcat, stringLength, substring,
    upperCase, lowerCase, contains, startsWith, endsWith]

def localName : Predicate → String
  | mod => "mod"
  | substringBefore => "substringBefore"
  | substringAfter => "substringAfter"
  | add => "add"
  | subtract => "subtract"
  | multiply => "multiply"
  | abs => "abs"
  | equal => "equal"
  | notEqual => "notEqual"
  | lessThan => "lessThan"
  | lessThanOrEqual => "lessThanOrEqual"
  | greaterThan => "greaterThan"
  | greaterThanOrEqual => "greaterThanOrEqual"
  | stringConcat => "stringConcat"
  | stringLength => "stringLength"
  | substring => "substring"
  | upperCase => "upperCase"
  | lowerCase => "lowerCase"
  | contains => "contains"
  | startsWith => "startsWith"
  | endsWith => "endsWith"

def arity : Predicate → Arity
  | mod | substringBefore | substringAfter | subtract => .exactly 3
  | add | multiply => .atLeast 3
  | stringConcat => .atLeast 1
  | substring => .between 3 4
  | abs | equal | notEqual | lessThan | lessThanOrEqual | greaterThan | greaterThanOrEqual
  | stringLength | upperCase | lowerCase | contains | startsWith | endsWith => .exactly 2

/-- The full IRI of a predicate. -/
def iri (predicate : Predicate) : String := Vocabulary.swrlb ++ predicate.localName

/-- The usual abbreviation of a predicate's IRI. -/
def shortName (predicate : Predicate) : String := "swrlb:" ++ predicate.localName

def ofLocalName? (name : String) : Option Predicate := all.find? (·.localName == name)

/-- The predicate with a given full IRI. -/
def ofIri? (iri : String) : Option Predicate :=
  (Iri.within? iri Vocabulary.swrlb).bind ofLocalName?

end Predicate

end RuleAtoms
