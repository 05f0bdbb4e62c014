/-
**Computed results.**

A function predicate computes a number or a text. The result is held against a literal that is
already there (`agrees`), or becomes a literal of its own (`toLiteral`), which takes after a
template where it can: the first operand of the computation.
-/

import RuleAtoms.Literal.Basic
import RuleAtoms.Name.Vocabulary

namespace RuleAtoms

/-- What a function predicate computes. -/
inductive Outcome where
  | number (value : Number)
  | text (value : String)
deriving DecidableEq

namespace Outcome

/-- Whether the result, written in the kind of a literal, is that literal. -/
def agrees (outcome : Outcome) (bound : Literal) : Bool :=
  match outcome with
  | number value => bound.agreesWithNumber value
  | text value => (⟨value, bound.kind⟩ : Literal) == bound

/-- A number as a literal when no template tells its datatype. -/
def defaultNumber (value : Number) : Literal :=
  match value with
  | .whole _ => .typed (String.ofList value.text) (Vocabulary.xsd ++ "integer")
  | .double _ => .typed (String.ofList value.text) (Vocabulary.xsd ++ "double")

/-- The kind that a text takes after a template: its language or its datatype, unless that is a
numeric one. -/
def textKind (template : Literal) : Literal.Kind :=
  if template.isNumeric then .plain else template.kind

/-- The result as a literal. A number takes the datatype of a numeric template that can hold it. -/
def toLiteral (outcome : Outcome) (template? : Option Literal) : Literal :=
  match outcome with
  | number value =>
    ((template?.filter (·.isNumeric)).bind (·.withNumber? value)).getD (defaultNumber value)
  | text value =>
    match template? with
    | some template => ⟨value, textKind template⟩
    | none => .plain value

end Outcome

end RuleAtoms
