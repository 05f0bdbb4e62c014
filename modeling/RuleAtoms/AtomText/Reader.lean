/-
**Reading atoms from text.**

The text is a predicate, then arguments between parentheses with commas between them, with blanks
allowed around each of these marks. The predicate is an IRI between angle brackets or an
abbreviated name. An argument is the first of these that fits:

* a variable, `?` and a name;
* a quoted text, with a language or a datatype behind it or neither;
* a bare token, which is read like the token of a literal.

Each reader takes the text from some point on and returns what it read and what remains.
-/

import RuleAtoms.AtomText.Error
import RuleAtoms.AtomText.Writer

namespace RuleAtoms.AtomText

/-! ### Characters -/

/-- The blanks that may stand between the parts of an atom. -/
def isSpace (c : Char) : Bool := c == ' ' || c == '\t' || c == '\r' || c == '\n'

def skipSpaces (text : List Char) : List Char := text.dropWhile isSpace

/-- A character of the part of an abbreviated name before its colon. -/
def isPrefixChar (c : Char) : Bool := Text.isAlphanumeric c || c == '_'

/-- A character of a language tag written without quotes. -/
def isTagChar (c : Char) : Bool := c.isAlphanum || c == '-'

/-- The characters of a class at the beginning of a text, if there is at least one. -/
def oneOrMore? (allowed : Char → Bool) (text : List Char) : Option (List Char × List Char) :=
  let found := text.takeWhile allowed
  if found.isEmpty then none else some (found, text.dropWhile allowed)

/-! ### Names -/

/-- A name as it is written. -/
inductive Name where
  | iri (text : String)
  | abbreviated (space localName : String)
  | bare (word : String)
deriving DecidableEq

/-- An IRI between angle brackets. -/
def iri? : List Char → Option (Name × List Char)
  | '<' :: rest =>
    let allowed := fun c => c != '>' && !Text.isBlank c
    match rest.dropWhile allowed with
    | '>' :: tail => some (.iri (String.ofList (rest.takeWhile allowed)), tail)
    | _ => none
  | _ => none

/-- A prefix, a colon and a local name, both of which may be empty. -/
def abbreviated? (text : List Char) : Option (Name × List Char) :=
  match text.dropWhile isPrefixChar with
  | ':' :: rest =>
    some (.abbreviated (String.ofList (text.takeWhile isPrefixChar))
      (String.ofList (rest.takeWhile isNameChar)), rest.dropWhile isNameChar)
  | _ => none

/-- A name that stands for an IRI. -/
def name? (text : List Char) : Option (Name × List Char) := (iri? text).or (abbreviated? text)

/-- A datatype: a name that stands for an IRI, or a bare word. -/
def datatype? (text : List Char) : Option (Name × List Char) :=
  (name? text).or ((oneOrMore? isNameChar text).map fun (word, rest) =>
    (.bare (String.ofList word), rest))

/-! ### Arguments -/

/-- The text up to the closing quote, with escapes undone, and what follows the quote. A backslash
takes away the meaning of the character behind it; it disappears only in front of a quote or
another backslash. -/
def quotedRest? : List Char → Option (List Char × List Char)
  | [] => none
  | '"' :: rest => some ([], rest)
  | '\\' :: c :: rest =>
    (quotedRest? rest).map fun (text, tail) =>
      ((if c == '"' || c == '\\' then [c] else ['\\', c]) ++ text, tail)
  | c :: rest =>
    if c == '\\' then none else (quotedRest? rest).map fun (text, tail) => (c :: text, tail)

/-- A quoted text. -/
def quoted? : List Char → Option (List Char × List Char)
  | '"' :: rest => quotedRest? rest
  | _ => none

/-- What stands behind a quoted text. -/
inductive Suffix where
  | datatype (name : Name)
  | language (tag : String)
deriving DecidableEq

/-- An argument as it is written. -/
inductive WrittenArgument where
  | variable (name : String)
  | quoted (lexical : String) (suffix? : Option Suffix)
  | bare (token : String)
deriving DecidableEq

/-- A language tag, quoted or not. -/
def tag? (text : List Char) : Option (List Char × List Char) :=
  (quoted? text).or (oneOrMore? isTagChar text)

def suffix? : List Char → Option (Suffix × List Char)
  | '^' :: '^' :: rest => (datatype? rest).map fun (name, tail) => (.datatype name, tail)
  | '@' :: rest => (tag? rest).map fun (tag, tail) => (.language (String.ofList tag), tail)
  | _ => none

def namedVariable? : List Char → Option (WrittenArgument × List Char)
  | '?' :: rest =>
    (oneOrMore? isNameChar rest).map fun (name, tail) => (.variable (String.ofList name), tail)
  | _ => none

/-- A quoted text with its suffix, if a proper one follows. -/
def quotedArgument? (text : List Char) : Option (WrittenArgument × List Char) :=
  (quoted? text).map fun (lexical, rest) =>
    match suffix? rest with
    | some (suffix, tail) => (.quoted (String.ofList lexical) (some suffix), tail)
    | none => (.quoted (String.ofList lexical) none, rest)

/-- A character of a token without quotes. -/
def isTokenChar (c : Char) : Bool := !Text.isBlank c && !isDelimiter c

def bareArgument? (text : List Char) : Option (WrittenArgument × List Char) :=
  (oneOrMore? isTokenChar text).map fun (token, rest) => (.bare (String.ofList token), rest)

def argument? (text : List Char) : Option (WrittenArgument × List Char) :=
  ((namedVariable? text).or (quotedArgument? text)).or (bareArgument? text)

/-- A comma, with blanks around it, and the argument behind it. -/
def nextArgument? (text : List Char) : Option (WrittenArgument × List Char) :=
  match skipSpaces text with
  | ',' :: rest => argument? (skipSpaces rest)
  | _ => none

/-- The arguments that follow a first one, as many as can be read. -/
def moreArguments (text : List Char) : List WrittenArgument × List Char :=
  match nextArgument? text with
  | some (argument, rest) =>
    if rest.length < text.length then
      let (arguments, tail) := moreArguments rest
      (argument :: arguments, tail)
    else ([argument], rest)
  | none => ([], text)
termination_by text.length

/-- The arguments at the beginning of a text, as many as can be read. -/
def arguments (text : List Char) : List WrittenArgument × List Char :=
  match argument? text with
  | some (argument, rest) =>
    let (more, tail) := moreArguments rest
    (argument :: more, tail)
  | none => ([], text)

/-! ### Atoms -/

/-- An atom as it is written. -/
structure WrittenAtom where
  predicate : Name
  arguments : List WrittenArgument
deriving DecidableEq

/-- One character that has to stand at the beginning of a text; else the text itself is the point
of failure. -/
def expect (c : Char) : List Char → Except (List Char) (List Char)
  | [] => .error []
  | first :: rest => if first == c then .ok rest else .error (first :: rest)

/-- The name of a predicate; what remains behind the longest beginning of an abbreviated name is
the point of failure. -/
def predicate (text : List Char) : Except (List Char) (Name × List Char) :=
  match name? text with
  | some found => .ok found
  | none => .error (text.dropWhile isPrefixChar)

/-- An atom at the beginning of a text, and what follows it. -/
def atom (text : List Char) : Except (List Char) (WrittenAtom × List Char) := do
  let (name, afterName) ← predicate (skipSpaces text)
  let inside ← expect '(' (skipSpaces afterName)
  let (arguments, afterArguments) := arguments (skipSpaces inside)
  let rest ← expect ')' (skipSpaces afterArguments)
  .ok (⟨name, arguments⟩, skipSpaces rest)

/-! ### Meaning -/

/-- The IRI that a name stands for. -/
def Name.resolve (prefixes : Prefixes) : Name → Except Error String
  | iri text => .ok text
  | abbreviated space localName =>
    match Prefixes.expand? prefixes space localName with
    | some text => .ok text
    | none => .error (.undefinedPrefix space)
  | bare word => .ok word

def WrittenArgument.resolve (prefixes : Prefixes) : WrittenArgument → Except Error Argument
  | .variable name => .ok (.variable (Variable.ofText name))
  | quoted lexical none => .ok (.literal (.plain lexical))
  | quoted lexical (some (.language tag)) => .ok (.literal (.language lexical tag))
  | quoted lexical (some (.datatype name)) =>
    (name.resolve prefixes).map fun datatype => .literal (.typed lexical datatype)
  | bare token => .ok (.literal (.ofToken token))

/-- The atom that a written one stands for. Of several undefined prefixes the first is reported. -/
def WrittenAtom.resolve (prefixes : Prefixes) (written : WrittenAtom) : Except Error Atom := do
  let predicate ← written.predicate.resolve prefixes
  let arguments ← written.arguments.mapM (WrittenArgument.resolve prefixes)
  .ok ⟨predicate, arguments⟩

/-- The number of bytes of a text. -/
def byteCount (text : List Char) : Nat := (String.ofList text).utf8ByteSize

/-- The atom that a text holds. -/
def read (prefixes : Prefixes) (text : String) : Except Error Atom :=
  let all := text.toList
  if (Text.trim all).isEmpty then .error .blank
  else
    match atom all with
    | .error rest => .error (.unexpected (byteCount all - byteCount rest) (rest.take 16))
    | .ok (_, c :: rest) => .error (.trailing (byteCount all - byteCount (c :: rest)))
    | .ok (written, []) => written.resolve prefixes

end RuleAtoms.AtomText
