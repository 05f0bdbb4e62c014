/-
**Atoms in one line of text.**

`swrlb:mod(?X,?Y,"5"^^xsd:int)`: the predicate abbreviated where a prefix applies, variables with
their marker, and literals bare where that reads back as the same literal, else between quotes.
-/

import RuleAtoms.Atom.Basic
import RuleAtoms.Literal.Token
import RuleAtoms.Name.Prefixes

namespace RuleAtoms.AtomText

/-- A character that ends a literal written without quotes. -/
def isDelimiter (c : Char) : Bool := c == ',' || c == '(' || c == ')' || c == '"'

/-- Whether a character may stand in a bare literal that is written. -/
def isBareChar (c : Char) : Bool :=
  !Text.isBlank c && !isDelimiter c && !(c == '<' || c == '>')

/-- Whether a lexical form can be written without quotes. -/
def isBare (lexical : List Char) : Bool :=
  !lexical.isEmpty && !(['?'].isPrefixOf lexical) && !(Text.splitFirst? ['^', '^'] lexical).isSome &&
    lexical.all fun c => c != '@' && isBareChar c

/-- One character between quotes. -/
def quoteChar (c : Char) : List Char := if c == '"' || c == '\\' then ['\\', c] else [c]

/-- A text between quotes, with a backslash in front of each quote and each backslash. -/
def quote (text : List Char) : List Char := '"' :: text.flatMap quoteChar ++ ['"']

/-- A lexical form, quoted unless it can be bare. -/
def renderLexical (lexical : List Char) : List Char :=
  if isBare lexical then lexical else quote lexical

/-- A literal. Typed ones are always quoted; a tag that is no proper language tag is quoted too. -/
def renderLiteral (prefixes : Prefixes) (literal : Literal) : List Char :=
  let lexical := literal.lexical.toList
  match literal.kind with
  | .plain => renderLexical lexical
  | .language tag =>
    if Literal.isLanguageTag tag then renderLexical lexical ++ '@' :: tag.toList
    else quote lexical ++ '@' :: quote tag.toList
  | .typed datatype =>
    quote lexical ++ '^' :: '^' :: (Prefixes.renderDatatype prefixes datatype).toList

def renderArgument (prefixes : Prefixes) : Argument → List Char
  | .variable value => '?' :: value.name.toList
  | .literal value => renderLiteral prefixes value

/-- An atom. One without arguments is written as nothing at all. -/
def render (prefixes : Prefixes) (atom : Atom) : List Char :=
  if atom.arguments.isEmpty then []
  else
    (Prefixes.render prefixes atom.predicate).toList ++ '(' ::
      Text.join [','] (atom.arguments.map (renderArgument prefixes)) ++ [')']

/-- An atom, written with the standard prefixes. -/
def standardText (atom : Atom) : String := String.ofList (render Prefixes.standard atom)

end RuleAtoms.AtomText
