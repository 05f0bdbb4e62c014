/-
**Abbreviated names.**

A prefix stands for a namespace, so that `xsd:int` abbreviates an IRI. Bindings keep the order in
which their prefixes were first inserted.

Compacting takes the longest namespace that leaves a local name behind it, and of several prefixes
for that namespace the last one.
-/

import RuleAtoms.Keyed
import RuleAtoms.Name.Iri
import RuleAtoms.Name.Vocabulary
import RuleAtoms.Text.Alphanumeric

namespace RuleAtoms

/-- A character that may stand in the local part of an abbreviated name. -/
def isNameChar (c : Char) : Bool := Text.isAlphanumeric c || c == '_' || c == '-' || c == '.'

/-- Whether a text can be the local part of an abbreviated name; it may be empty. -/
def isLocalName (text : String) : Bool := text.toList.all isNameChar

/-- Prefixes and the namespaces they stand for, in order. -/
abbrev Prefixes := Keyed String

namespace Prefixes

/-- The prefixes that are always bound at first. -/
def standard : Prefixes :=
  Keyed.ofList
    [("swrlb", Vocabulary.swrlb), ("swrl", Vocabulary.swrl), ("xsd", Vocabulary.xsd),
     ("rdf", Vocabulary.rdf), ("rdfs", Vocabulary.rdfs), ("owl", Vocabulary.owl)]

/-- The IRI that an abbreviated name stands for, if its prefix is bound. -/
def expand? (prefixes : Prefixes) (start localName : String) : Option String :=
  (prefixes.find? start).map (· ++ localName)

/-- A binding by which an IRI can be abbreviated, with what is left of the IRI. -/
structure Candidate where
  start : String
  space : String
  localName : String

/-- The abbreviation of an IRI by one binding. -/
def candidate? (iri : String) (binding : String × String) : Option Candidate :=
  if binding.2.isEmpty then none
  else
    match Iri.within? iri binding.2 with
    | some localName =>
      if isLocalName localName then some ⟨binding.1, binding.2, localName⟩ else none
    | none => none

/-- Of two candidates the one with the longer namespace, the second of equals. -/
def longer (first second : Candidate) : Candidate :=
  if second.space.length < first.space.length then first else second

/-- The shortest abbreviation of an IRI, if any binding gives one. -/
def compact? (prefixes : Prefixes) (iri : String) : Option String :=
  match prefixes.entries.filterMap (candidate? iri) with
  | [] => none
  | first :: rest =>
    let best := rest.foldl longer first
    some (best.start ++ ":" ++ best.localName)

/-- An IRI abbreviated, or between angle brackets when no prefix applies. -/
def render (prefixes : Prefixes) (iri : String) : String :=
  (compact? prefixes iri).getD (Iri.bracketed iri)

/-- Whether a text reads as a name with a bound prefix. -/
def isAbbreviated (prefixes : Prefixes) (name : String) : Bool :=
  match Text.splitFirst? [':'] name.toList with
  | some (start, _) => prefixes.contains (String.ofList start)
  | none => false

/-- A datatype as it is written behind a literal. One that is short already stays as it is. -/
def renderDatatype (prefixes : Prefixes) (datatype : String) : String :=
  if Iri.isAbsolute datatype && !isAbbreviated prefixes datatype then render prefixes datatype
  else datatype

end Prefixes

end RuleAtoms
