/-
**Atoms.**

An atom is the IRI of a predicate applied to arguments, which are variables or literals. An atom may
be made of anything; `named` makes only such as can be evaluated: the predicate is a built-in one
and accepts the number of arguments.
-/

import RuleAtoms.Literal.Basic
import RuleAtoms.Name.Variable
import RuleAtoms.Predicate.Registry
import RuleAtoms.Report.Basic

namespace RuleAtoms

/-- An argument of an atom. -/
inductive Argument where
  | variable (value : Variable)
  | literal (value : Literal)
deriving DecidableEq

/-- A predicate applied to arguments. -/
structure Atom where
  /-- The IRI of the predicate. -/
  predicate : String
  arguments : List Argument
deriving DecidableEq

/-- Why an atom cannot be made or evaluated. -/
inductive Atom.Error where
  | unknownPredicate (name : String)
  | wrongCount (predicate : Predicate) (given : Nat)
  | missingArgument (predicate : Predicate) (position : Nat)
deriving DecidableEq

namespace Argument

def asVariable? : Argument → Option Variable
  | .variable value => some value
  | literal _ => none

end Argument

/-! ### Reports -/

namespace Report

def unknownPredicate (name : String) : Report :=
  (new .unknownBuiltin ("No built-in registered for " ++ name)).withField "predicate" name

/-- A report that a predicate got another number of arguments than it expects. -/
def wrongCount (predicate expected : String) (given : Nat) : Report :=
  (new .arityMismatch
    (predicate ++ " expects " ++ expected ++ " arguments, got " ++ toString given)).withField
      "predicate" predicate

/-- A report that an argument is missing. Positions count from zero, the message from one. -/
def missingArgument (predicate : String) (position : Nat) : Report :=
  (new .missingArgument
    (predicate ++ " argument " ++ toString (position + 1) ++ " is missing")).withField
      "predicate" predicate

end Report

namespace Atom

def Error.report : Error → Report
  | unknownPredicate name => .unknownPredicate name
  | wrongCount predicate given => .wrongCount predicate.shortName predicate.arity.text given
  | missingArgument predicate position => .missingArgument predicate.shortName position

/-- The variables among the arguments, in order, with repetitions. -/
def variableList (atom : Atom) : List Variable := atom.arguments.filterMap Argument.asVariable?

/-- The built-in predicate that the atom applies, if it is one. -/
def builtin? (atom : Atom) : Option Predicate := Predicate.ofIri? atom.predicate

/-! ### Making atoms -/

def ofPredicate (predicate : Predicate) (arguments : List Argument) : Atom :=
  ⟨predicate.iri, arguments⟩

/-- Refuses an argument count that the predicate does not accept. -/
def checkCount (predicate : Predicate) (count : Nat) : Except Error Unit :=
  if predicate.arity.accepts count then .ok () else .error (.wrongCount predicate count)

/-- All arguments, or the position of the first one that is missing. -/
def presentArguments (predicate : Predicate) :
    Nat → List (Option Argument) → Except Error (List Argument)
  | _, [] => .ok []
  | position, none :: _ => .error (.missingArgument predicate position)
  | position, some argument :: rest =>
    (presentArguments predicate (position + 1) rest).map (argument :: ·)

/-- The atom of a predicate with arguments that may be missing. A missing one is found before the
count is looked at. -/
def build (predicate : Predicate) (arguments : List (Option Argument)) : Except Error Atom :=
  (presentArguments predicate 0 arguments).bind fun present =>
    (checkCount predicate present.length).map fun _ => ofPredicate predicate present

/-- The atom of a predicate given by its IRI, its name with the usual prefix or its local name. -/
def named (name : String) (arguments : List Argument) : Except Error Atom :=
  match Registry.standard.lookup? name with
  | some spec => build spec.predicate (arguments.map some)
  | none => .error (.unknownPredicate name)

/-- An atom of a predicate that takes a result or first text and a second argument. -/
def binary (predicate : Predicate) (first second : Argument) : Atom :=
  ofPredicate predicate [first, second]

/-- An atom of a predicate that takes a result and two operands. -/
def ternary (predicate : Predicate) (result first second : Argument) : Atom :=
  ofPredicate predicate [result, first, second]

/-- The atom that takes a part of a text, with or without a length. -/
def substring (result text start : Argument) (length? : Option Argument) : Atom :=
  ofPredicate .substring ([result, text, start] ++ length?.toList)

/-- The atom that joins any number of texts. -/
def stringConcat (result : Argument) (parts : List Argument) : Atom :=
  ofPredicate .stringConcat (result :: parts)

end Atom

end RuleAtoms
