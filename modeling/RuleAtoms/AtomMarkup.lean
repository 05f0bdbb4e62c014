/-
**Atoms in markup.**

An atom is an element with the predicate in an attribute and one child for each argument. A variable
is written as an IRI: the name behind a namespace that writer and reader have to agree on. A reader
with another namespace takes the local name of the IRI instead.
-/

import RuleAtoms.Atom.Basic
import RuleAtoms.Markup.Reader

namespace RuleAtoms.AtomMarkup

open Markup

def atomElement : String := "BuiltInAtom"

def variableElement : String := "Variable"

def literalElement : String := "Literal"

def iriAttribute : String := "IRI"

def datatypeAttribute : String := "datatypeIRI"

def languageAttribute : String := "xml:lang"

/-! ### Writing -/

def attributesOfKind : Literal.Kind → Keyed String
  | .plain => Keyed.empty
  | .language tag => Keyed.empty.insert languageAttribute tag
  | .typed datatype => Keyed.empty.insert datatypeAttribute datatype

/-- An argument as an element, given the namespace of variables. -/
def encodeArgument (space : String) : Argument → Element
  | .variable value =>
    .node variableElement (Keyed.empty.insert iriAttribute (space ++ value.name)) "" []
  | .literal value => .node literalElement (attributesOfKind value.kind) value.lexical []

/-- An atom as an element. -/
def encode (space : String) (atom : Atom) : Element :=
  .node atomElement (Keyed.empty.insert iriAttribute atom.predicate) ""
    (atom.arguments.map (encodeArgument space))

/-- An atom as a document. -/
def write (space : String) (atom : Atom) : String := String.ofList (encode space atom).write

/-! ### Reading -/

/-- What is wrong with the element of an argument. -/
inductive ArgumentError where
  | noIri
  | languageAndDatatype (lexical : String)
  | emptyDatatype (lexical : String)
  | unexpected (name : String)
deriving DecidableEq

/-- Why a document does not hold an atom. -/
inductive Error where
  | document (error : Markup.Error)
  | otherRoot (name : String)
  | noPredicate
  /-- The position of the argument counts from one. -/
  | argument (position : Nat) (error : ArgumentError)
deriving DecidableEq

/-- A message that an element lacks its IRI. -/
def missingIri (name : String) : String :=
  "<" ++ name ++ "> has no " ++ iriAttribute ++ " attribute"

def ArgumentError.report : ArgumentError → Report
  | noIri => .new .malformedAtom (missingIri variableElement)
  | languageAndDatatype lexical =>
    (Report.new .invalidLiteral
      ("<" ++ literalElement ++ "> has both " ++ datatypeAttribute ++ " and " ++
        languageAttribute)).withField "lexical" lexical
  | emptyDatatype lexical =>
    (Report.new .invalidLiteral
      ("<" ++ literalElement ++ "> has an empty " ++ datatypeAttribute)).withField
        "lexical" lexical
  | unexpected name =>
    .new .malformedAtom ("Unexpected <" ++ name ++ "> inside <" ++ atomElement ++ ">")

def Error.report : Error → Report
  | document error => error.report
  | otherRoot name =>
    .new .malformedAtom ("Expected <" ++ atomElement ++ ">, found <" ++ name ++ ">")
  | noPredicate => .new .malformedAtom (missingIri atomElement)
  | argument position error => error.report.withField "argument" (toString position)

/-- The variable that an IRI stands for, given the namespace of variables. -/
def variableOfIri (space iri : String) : Variable :=
  Variable.ofText ((Iri.within? iri space).getD (Iri.localNameOf iri))

/-- The literal with a lexical form and the attributes of its element. -/
def literalOf (lexical : String) (attributes : Keyed String) : Except ArgumentError Literal :=
  match attributes.find? datatypeAttribute, attributes.find? languageAttribute with
  | some _, some _ => .error (.languageAndDatatype lexical)
  | some datatype, none =>
    if datatype.isEmpty then .error (.emptyDatatype lexical) else .ok (.typed lexical datatype)
  | none, some tag => .ok (.language lexical tag)
  | none, none => .ok (.plain lexical)

def decodeArgument (space : String) (element : Element) : Except ArgumentError Argument :=
  if element.name == variableElement then
    match element.attributes.find? iriAttribute with
    | some iri => .ok (.variable (variableOfIri space iri))
    | none => .error .noIri
  else if element.name == literalElement then
    (literalOf element.text element.attributes).map .literal
  else .error (.unexpected element.name)

/-- The arguments that elements stand for, the first one at a given position. -/
def decodeArguments (space : String) : Nat → List Element → Except Error (List Argument)
  | _, [] => .ok []
  | position, element :: rest =>
    match decodeArgument space element with
    | .error error => .error (.argument position error)
    | .ok argument => (decodeArguments space (position + 1) rest).map (argument :: ·)

/-- The atom that an element stands for. The number of arguments is not checked. -/
def decode (space : String) (element : Element) : Except Error Atom :=
  if element.name == atomElement then
    match element.attributes.find? iriAttribute with
    | some predicate =>
      (decodeArguments space 1 element.children).map fun arguments => ⟨predicate, arguments⟩
    | none => .error .noPredicate
  else .error (.otherRoot element.name)

/-- The atom that a document holds. -/
def read (space : String) (document : String) : Except Error Atom :=
  match Markup.read document with
  | .ok element => decode space element
  | .error error => .error (.document error)

end RuleAtoms.AtomMarkup
