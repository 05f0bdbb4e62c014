/-
**The pieces of a document.**

A document is cut into pieces from left to right: runs of text up to the next `<`, tags, and
marked-off parts that are text (`<![CDATA[ ]]>`) or are passed over (comments, instructions,
document types). Cutting looks at one piece only; whether tags match is for the reader to see.

* An opening or single tag ends at the first `>` outside of quotes, any other at the first `>`.
* A comment, a marked-off text and a document type end at the first `>` that is preceded by two
  hyphens, by two brackets, or by balanced angle brackets.
* A closing tag may lack its `>` at the very end of the document.
-/

import RuleAtoms.Keyed
import RuleAtoms.Markup.Escape
import RuleAtoms.Text.Split

namespace RuleAtoms.Markup

/-- A piece of a document. -/
inductive Piece where
  | opening (name : List Char) (attributes : Keyed String)
  | single (name : List Char) (attributes : Keyed String)
  | closing (name : List Char)
  | text (text : List Char)
  | skipped

/-- The blanks inside tags. -/
def isTagBlank (c : Char) : Bool := c == ' ' || c == '\r' || c == '\n' || c == '\t'

/-! ### Attributes -/

/-- An attribute's value between quotes of either kind. -/
def attributeValue? (text : List Char) : Option (List Char × List Char) :=
  match text.dropWhile isTagBlank with
  | [] => none
  | quote :: rest =>
    if quote == '"' || quote == '\'' then
      match rest.dropWhile (· != quote) with
      | _ :: tail => some (rest.takeWhile (· != quote), tail)
      | [] => none
    else none

/-- An attribute whose name begins with a given character: its name, its value, and what follows
it. -/
def oneAttribute? (first : Char) (text : List Char) :
    Option (List Char × List Char × List Char) :=
  let inName := fun c => c != '=' && !isTagBlank c
  match (text.dropWhile inName).dropWhile isTagBlank with
  | '=' :: rest =>
    (attributeValue? rest).map fun (value, tail) => (first :: text.takeWhile inName, value, tail)
  | _ => none

/-- The attributes in a tag behind those already read. None may be repeated. -/
def attributesBehind? (known : Keyed String) (text : List Char) : Option (Keyed String) :=
  match text.dropWhile isTagBlank with
  | [] => some known
  | first :: rest =>
    match oneAttribute? first rest with
    | none => none
    | some (name, value, tail) =>
      let key := String.ofList name
      if known.contains key then none
      else
        match unescape? value with
        | none => none
        | some denoted =>
          if tail.length < text.length then
            attributesBehind? (known.insert key (String.ofList denoted)) tail
          else none
termination_by text.length

/-! ### Tags -/

/-- What stands before the `>` that closes a tag, and what follows it; `open?` is the quote that is
open at this point. -/
def tagBody? : Option Char → List Char → Option (List Char × List Char)
  | _, [] => none
  | none, c :: rest =>
    if c == '>' then some ([], rest)
    else
      (tagBody? (if c == '"' || c == '\'' then some c else none) rest).map
        fun (body, tail) => (c :: body, tail)
  | some quote, c :: rest =>
    (tagBody? (if c == quote then none else some quote) rest).map
      fun (body, tail) => (c :: body, tail)

/-- The name and attributes in the body of a tag, without the slash of a single tag. -/
def tagParts? (body : List Char) : Option (List Char × Keyed String) :=
  (attributesBehind? Keyed.empty (body.dropWhile (!isTagBlank ·))).map
    fun attributes => (body.takeWhile (!isTagBlank ·), attributes)

/-- An opening tag, or a single one if its body ends in a slash. -/
def tag? (text : List Char) : Option (Piece × List Char) :=
  (tagBody? none text).bind fun (body, rest) =>
    if body.getLast? == some '/' then
      (tagParts? body.dropLast).map fun (name, attributes) => (.single name attributes, rest)
    else (tagParts? body).map fun (name, attributes) => (.opening name attributes, rest)

/-- A name without the blanks behind it, unless it is nothing but blanks. -/
def trimName (name : List Char) : List Char :=
  let trimmed := (name.reverse.dropWhile isTagBlank).reverse
  if trimmed.isEmpty then name else trimmed

/-- The text before the first `>`, and what follows it. -/
def untilAngle (text : List Char) : List Char × List Char :=
  (text.takeWhile (· != '>'), (text.dropWhile (· != '>')).drop 1)

/-- The rest of an instruction. It has to end in a question mark and be more than that. -/
def instruction? (text : List Char) : Option (Piece × List Char) :=
  let (body, rest) := untilAngle text
  if 2 ≤ body.length ∧ body.getLast? = some '?' then some (.skipped, rest) else none

/-! ### Marked-off parts -/

/-- The text before the first `>` at which the text before it, given in reverse, may end, and what
follows it. -/
def untilAngleThat? (ends : List Char → Bool) :
    List Char → List Char → Option (List Char × List Char)
  | _, [] => none
  | seen, c :: rest =>
    if c == '>' && ends seen then some (seen.reverse, rest)
    else untilAngleThat? ends (c :: seen) rest

/-- Whether a text begins as another one, in capital or small letters. -/
def beginsAs (start text : List Char) : Bool :=
  start.map Char.toLower == (text.take start.length).map Char.toLower

def comment? (text : List Char) : Option (Piece × List Char) :=
  (untilAngleThat? (fun seen => decide (4 ≤ seen.length) && ['-', '-'].isPrefixOf seen) [] text).bind
    fun (body, rest) => if ['-', '-'].isPrefixOf body then some (.skipped, rest) else none

def markedText? (text : List Char) : Option (Piece × List Char) :=
  (untilAngleThat? (fun seen => [']', ']'].isPrefixOf seen) [] text).bind
    fun (body, rest) =>
      if beginsAs "[CDATA[".toList body then
        some (.text ((body.drop 7).take (body.length - 9)), rest)
      else none

/-- A document type names something. -/
def documentType? (text : List Char) : Option (Piece × List Char) :=
  (untilAngleThat? (fun seen => seen.count '<' == seen.count '>') [] text).bind
    fun (body, rest) =>
      if beginsAs "DOCTYPE".toList body && !((body.drop 7).all isTagBlank) then
        some (.skipped, rest)
      else none

/-- A part that begins with an exclamation mark; its next character tells which. -/
def markedOff? (text : List Char) : Option (Piece × List Char) :=
  match text with
  | '-' :: _ => comment? text
  | '[' :: _ => markedText? text
  | 'D' :: _ | 'd' :: _ => documentType? text
  | _ => none

/-! ### Cutting -/

/-- The piece behind a `<`, and what follows it. -/
def markup? (text : List Char) : Option (Piece × List Char) :=
  match text with
  | '/' :: rest =>
    let (name, tail) := untilAngle rest
    some (.closing (trimName name), tail)
  | '?' :: rest => instruction? rest
  | '!' :: rest => markedOff? rest
  | _ => tag? text

/-- A run of text with its references replaced, and what follows it. -/
def plainText? (text : List Char) : Option (Piece × List Char) :=
  (unescape? (text.takeWhile (· != '<'))).map fun denoted =>
    (.text denoted, text.dropWhile (· != '<'))

end RuleAtoms.Markup
