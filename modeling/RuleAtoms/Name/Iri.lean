/-
**IRIs and their parts.**

An IRI is a text here. Its local name is what follows its last `#`, or its last `/` when it has no
`#`; the namespace is the rest.
-/

import RuleAtoms.Text.Split

namespace RuleAtoms.Iri

/-- The namespace and the local name, if there is a character that parts them. -/
def parts? (iri : List Char) : Option (List Char × List Char) :=
  match Text.splitLast? ['#'] iri with
  | some (before, after) => some (before ++ ['#'], after)
  | none => (Text.splitLast? ['/'] iri).map fun (before, after) => (before ++ ['/'], after)

/-- The IRI up to the character before its local name, that character included. -/
def namespaceOf (iri : String) : String :=
  match parts? iri.toList with
  | some (front, _) => String.ofList front
  | none => iri

/-- The fragment or last path segment of an IRI. -/
def localNameOf (iri : String) : String :=
  match parts? iri.toList with
  | some (_, localName) => String.ofList localName
  | none => iri

/-- Whether a text begins with a scheme, such as `http:` or `urn:`. -/
def isAbsolute (iri : String) : Bool :=
  match Text.splitFirst? [':'] iri.toList with
  | some (scheme, _) =>
    !scheme.isEmpty && scheme.all fun c => c.isAlphanum || c == '+' || c == '-' || c == '.'
  | none => false

/-- The part of an IRI behind a namespace, if it lies in it. -/
def within? (iri space : String) : Option String :=
  (space.toList.isPrefixOf? iri.toList).map String.ofList

/-- An IRI between angle brackets. -/
def bracketed (iri : String) : String := "<" ++ iri ++ ">"

end RuleAtoms.Iri
