/-
**What the predicates mean, and which are known.**

A predicate is a test over all its arguments, or a function that computes its first argument from
the others. A registry lists entries for distinct predicates, in the order in which they were first
registered; registering a predicate again replaces its entry in place.
-/

import RuleAtoms.Predicate.Arithmetic
import RuleAtoms.Predicate.Basic
import RuleAtoms.Predicate.Comparison
import RuleAtoms.Predicate.TextFunctions

namespace RuleAtoms

/-- How a predicate decides an argument list. -/
inductive Meaning where
  | test (holds : List Literal → Bool)
  | function (compute? : List Literal → Option Outcome)

/-- Whether a predicate holds for fully known arguments. A function holds when its result agrees
with the first argument. -/
def Meaning.holds : Meaning → List Literal → Bool
  | test decides, arguments => decides arguments
  | function compute?, result :: operands => (compute? operands).any (·.agrees result)
  | function _, [] => false

/-- What is registered for one predicate. -/
structure Spec where
  predicate : Predicate
  description : String
  meaning : Meaning

namespace Spec

/-- An entry for a function on numbers. -/
def ofNumbers (predicate : Predicate) (description : String)
    (compute? : List Literal → Option Number) : Spec :=
  ⟨predicate, description, .function fun operands => (compute? operands).map .number⟩

/-- An entry for a function on texts. -/
def ofTexts (predicate : Predicate) (description : String)
    (compute? : List Literal → Option String) : Spec :=
  ⟨predicate, description, .function fun operands => (compute? operands).map .text⟩

def ofTest (predicate : Predicate) (description : String) (holds : List Literal → Bool) : Spec :=
  ⟨predicate, description, .test holds⟩

/-- The functions and tests on numbers. -/
def numeric : List Spec :=
  [ofNumbers .mod "mod(r, a, b) means r = a mod b (truncating remainder)" Arithmetic.remainder?,
   ofNumbers .add "add(r, a, b, ...) means r = a + b + ..." Arithmetic.sum?,
   ofNumbers .subtract "subtract(r, a, b) means r = a - b" Arithmetic.difference?,
   ofNumbers .multiply "multiply(r, a, b, ...) means r = a * b * ..." Arithmetic.product?,
   ofNumbers .abs "abs(r, a) means r = |a|" Arithmetic.absolute?,
   ofTest .equal "equal(a, b) holds when a and b are equal" Comparison.equal,
   ofTest .notEqual "notEqual(a, b) holds when a and b differ" Comparison.notEqual,
   ofTest .lessThan "lessThan(a, b) means a < b" Comparison.lessThan,
   ofTest .lessThanOrEqual "lessThanOrEqual(a, b) means a <= b" Comparison.lessThanOrEqual,
   ofTest .greaterThan "greaterThan(a, b) means a > b" Comparison.greaterThan,
   ofTest .greaterThanOrEqual "greaterThanOrEqual(a, b) means a >= b"
    Comparison.greaterThanOrEqual]

/-- The functions and tests on texts. -/
def textual : List Spec :=
  [ofTexts .substringBefore
    "substringBefore(r, s, sep) means r is the text of s before the first sep"
    TextFunctions.substringBefore?,
   ofTexts .substringAfter
    "substringAfter(r, s, sep) means r is the text of s after the first sep"
    TextFunctions.substringAfter?,
   ofTexts .stringConcat "stringConcat(r, s1, ...) means r is the concatenation of s1, ..."
    fun operands => some (TextFunctions.concatenation operands),
   ofNumbers .stringLength "stringLength(r, s) means r is the number of characters in s"
    TextFunctions.length?,
   ofTexts .substring "substring(r, s, start [, length]) with 1-based character positions"
    TextFunctions.substring?,
   ofTexts .upperCase "upperCase(r, s) means r is s in upper case" TextFunctions.upperCase?,
   ofTexts .lowerCase "lowerCase(r, s) means r is s in lower case" TextFunctions.lowerCase?,
   ofTest .contains "contains(s, t) holds when t occurs in s" TextFunctions.contains,
   ofTest .startsWith "startsWith(s, t) holds when s begins with t" TextFunctions.startsWith,
   ofTest .endsWith "endsWith(s, t) holds when s ends with t" TextFunctions.endsWith]

/-- An entry for every predicate. -/
def standard : List Spec := numeric ++ textual

end Spec

/-- Entries for distinct predicates, in order. -/
structure Registry where
  specs : List Spec
  distinct : (specs.map Spec.predicate).Nodup

namespace Registry

def empty : Registry := ⟨[], List.nodup_nil⟩

/-- The entries after those for one predicate have been replaced. -/
def replaced (specs : List Spec) (spec : Spec) : List Spec :=
  specs.map fun old => if old.predicate = spec.predicate then spec else old

theorem predicates_replaced (specs : List Spec) (spec : Spec) :
    (replaced specs spec).map Spec.predicate = specs.map Spec.predicate := by
  simp only [replaced, List.map_map]
  apply List.map_congr_left
  intro old _
  simp only [Function.comp_apply]
  split
  · rename_i same
    exact same.symm
  · rfl

/-- The registry with an entry added, or put in the place of the one for its predicate. -/
def register (registry : Registry) (spec : Spec) : Registry :=
  if known : spec.predicate ∈ registry.specs.map Spec.predicate then
    ⟨replaced registry.specs spec, by rw [predicates_replaced]; exact registry.distinct⟩
  else
    ⟨registry.specs ++ [spec], by
      rw [List.map_append, List.nodup_append]
      refine ⟨registry.distinct, by simp, ?_⟩
      simp only [List.map_cons, List.map_nil, List.mem_singleton]
      rintro first member second rfl rfl
      exact known member⟩

/-- The registry that a list of entries builds, from left to right. -/
def ofSpecs (specs : List Spec) : Registry := specs.foldl register empty

/-- The registry of every predicate. -/
def standard : Registry := ofSpecs Spec.standard

/-- The standard entries of some predicates, in the standard order. -/
def only (predicates : List Predicate) : Registry :=
  ofSpecs (standard.specs.filter fun spec => predicates.contains spec.predicate)

/-- The entry of the predicate with a full IRI. -/
def get? (registry : Registry) (iri : String) : Option Spec :=
  registry.specs.find? (·.predicate.iri == iri)

/-- The entry of a predicate by its full IRI, its name with the usual prefix, or its local name. -/
def lookup? (registry : Registry) (name : String) : Option Spec :=
  match registry.get? name with
  | some spec => some spec
  | none =>
    registry.get?
      (Vocabulary.swrlb ++ String.ofList (Text.dropStart "swrlb:".toList name.toList))

/-- Whether an IRI is that of a registered predicate. -/
def isKnown (registry : Registry) (iri : String) : Bool :=
  registry.specs.any (·.predicate.iri == iri)

end Registry

end RuleAtoms
