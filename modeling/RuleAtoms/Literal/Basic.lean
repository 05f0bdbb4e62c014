/-
**Literals.**

A literal is a text, its lexical form, of one of three kinds: plain, tagged with a language, or
typed with a datatype. A datatype that is a numeric one of XML Schema makes the literal numeric;
whether the lexical form reads as a number is another question, and is asked of every kind.
-/

import RuleAtoms.Number.NumericType

namespace RuleAtoms

/-- What a literal is besides its lexical form. -/
inductive Literal.Kind where
  | plain
  | language (tag : String)
  | typed (datatype : String)
deriving DecidableEq

/-- A literal of a rule or a table. -/
structure Literal where
  lexical : String
  kind : Literal.Kind
deriving DecidableEq

namespace Literal

def plain (lexical : String) : Literal := ⟨lexical, .plain⟩

def language (lexical tag : String) : Literal := ⟨lexical, .language tag⟩

def typed (lexical datatype : String) : Literal := ⟨lexical, .typed datatype⟩

def datatype? (literal : Literal) : Option String :=
  match literal.kind with
  | .typed datatype => some datatype
  | _ => none

def languageTag? (literal : Literal) : Option String :=
  match literal.kind with
  | .language tag => some tag
  | _ => none

/-- The numeric datatype of a kind, if it has one. -/
def Kind.numericType? : Kind → Option NumericType
  | .typed datatype => NumericType.ofDatatype? datatype
  | _ => none

/-- The numeric datatype of a literal, if it has one. -/
def numericType? (literal : Literal) : Option NumericType := literal.kind.numericType?

/-- Whether the datatype is a numeric one of XML Schema. -/
def isNumeric (literal : Literal) : Bool := literal.numericType?.isSome

/-- The number that the lexical form denotes, whatever the kind. -/
def number? (literal : Literal) : Option Number := Number.read? literal.lexical.toList

/-- The canonical text of a number in the kind of a literal. -/
def renderNumber? (literal : Literal) (number : Number) : Option String :=
  (match literal.numericType? with
    | some type => type.render? number
    | none => some number.text).map String.ofList

/-- The literal of the same kind that holds a number. -/
def withNumber? (literal : Literal) (number : Number) : Option Literal :=
  (literal.renderNumber? number).map fun lexical => ⟨lexical, literal.kind⟩

/-- Whether the literal is the canonical writing, in its own kind, of a computed number. A literal
that denotes an equal number in another writing does not agree. -/
def agreesWithNumber (literal : Literal) (number : Number) : Bool :=
  literal.number?.isSome && literal.withNumber? number == some literal

end Literal

end RuleAtoms
