/-
**Reading settings documents.**

A document is a sequence of lines: bindings, headers, blank lines and comments. Only values in
brackets and texts in three quotes go on over several lines. Each reader takes the text from some
point on and returns what it read and what remains.

Values nested too deeply and keys with too many parts are refused.
-/

import RuleAtoms.Toml.Quoted
import RuleAtoms.Toml.Table

namespace RuleAtoms.Toml

/-- The number of levels at which nesting is refused. -/
def tooDeep : Nat := 80

/-! ### Blanks and comments -/

def isBlank (c : Char) : Bool := c == ' ' || c == '\t'

def skipBlanks (text : List Char) : List Char := text.dropWhile isBlank

/-- Drops a comment, if there is one. -/
def skipComment : List Char → List Char
  | '#' :: rest => rest.dropWhile isPlain
  | text => text

/-- What follows the end of a line, which may have a comment. -/
def lineEnd? (text : List Char) : Option (List Char) :=
  match skipComment (skipBlanks text) with
  | [] => some []
  | '\n' :: rest => some rest
  | _ => none

/-- Drops blanks, line breaks and comments that end with their line; the flag says whether a comment
is being dropped. -/
def skipLines : Bool → List Char → List Char
  | _, '\n' :: rest => skipLines false rest
  | false, '#' :: rest => skipLines true rest
  | inComment, c :: rest =>
    if (if inComment then isPlain c else isBlank c) then skipLines inComment rest else c :: rest
  | _, [] => []

/-! ### Keys -/

/-- The parts of a key with dots between them, no more than there is fuel for. -/
def readParts? : Nat → List Char → Option (List String × List Char)
  | 0, _ => none
  | fuel + 1, text =>
    (readKey? (skipBlanks text)).bind fun (part, rest) =>
      match skipBlanks rest with
      | '.' :: more =>
        (readParts? fuel more).map fun (parts, tail) => (String.ofList part :: parts, tail)
      | tail => some ([String.ofList part], tail)

/-- A dotted key: the keys on the way and the last one. -/
structure DottedKey where
  path : List String
  key : String

def readDotted? (text : List Char) : Option (DottedKey × List Char) :=
  (readParts? (tooDeep - 1) text).bind fun (parts, rest) =>
    parts.getLast?.map fun key => (⟨parts.dropLast, key⟩, rest)

/-! ### Values -/

/-- A character that ends a value without quotes or brackets. -/
def endsWord (c : Char) : Bool :=
  isBlank c || c == '\n' || c == ',' || c == ']' || c == '\x7d' || c == '#'

/-- The value that a word denotes. -/
def ofWord? (word : List Char) : Option Toml :=
  if word == "true".toList then some (truth true)
  else if word == "false".toList then some (truth false)
  else
    ((readMoment? word).map moment).or
      (((readWhole? word).map whole).or ((readReal? word).map real))

/-- A word, and what follows it. -/
def readWord? (text : List Char) : Option (Toml × List Char) :=
  (ofWord? (text.takeWhile (!endsWord ·))).map fun value => (value, text.dropWhile (!endsWord ·))

/-- A value of one word, or of a day and a time with a space between them. -/
def readPlain? (text : List Char) : Option (Toml × List Char) :=
  match readWord? text with
  | some (moment (.date day), ' ' :: rest) =>
    match readClock? (rest.takeWhile (!endsWord ·)) with
    | some (clock, offset?) =>
      some (moment (.both day clock offset?), rest.dropWhile (!endsWord ·))
    | none => some (moment (.date day), ' ' :: rest)
  | other => other

mutual

/-- A value at the beginning of a text, and what follows it. The fuel is used up by one for each
value, item or binding, so the length of the text is enough; the level counts the brackets
around. -/
def readValue? : Nat → Nat → List Char → Option (Toml × List Char)
  | 0, _, _ => none
  | fuel + 1, level, text =>
    match text with
    | '[' :: rest =>
      if tooDeep ≤ level + 1 then none
      else (readItems? fuel (level + 1) rest).map fun (items, tail) => (array items, tail)
    | '\x7b' :: rest =>
      if tooDeep ≤ level + 1 then none
      else
        match skipBlanks rest with
        | '\x7d' :: tail => some (table [], tail)
        | inside =>
          (readInline? fuel (level + 1) inside).bind fun (bindings, tail) =>
            (ofBindings? bindings).map fun entries => (table entries, tail)
    | text =>
      match readQuoted? text with
      | some (quoted, rest) => some (string (String.ofList quoted), rest)
      | none => readPlain? text

/-- The items of an array up to its closing bracket; a comma may stand behind the last one. -/
def readItems? : Nat → Nat → List Char → Option (List Toml × List Char)
  | 0, _, _ => none
  | fuel + 1, level, text =>
    match skipLines false text with
    | ']' :: rest => some ([], rest)
    | itemText =>
      (readValue? fuel level itemText).bind fun (item, rest) =>
        match skipLines false rest with
        | ',' :: more =>
          (readItems? fuel level more).map fun (items, tail) => (item :: items, tail)
        | ']' :: tail => some ([item], tail)
        | _ => none

/-- The bindings of an inline table, of which there is at least one, up to its closing brace. -/
def readInline? : Nat → Nat → List Char → Option (List Binding × List Char)
  | 0, _, _ => none
  | fuel + 1, level, text =>
    (readDotted? text).bind fun (dotted, afterKey) =>
      match afterKey with
      | '=' :: valueText =>
        (readValue? fuel level (skipBlanks valueText)).bind fun (value, afterValue) =>
          let binding : Binding := ⟨dotted.path, dotted.key, value⟩
          match skipBlanks afterValue with
          | ',' :: more =>
            (readInline? fuel level more).map fun (bindings, tail) => (binding :: bindings, tail)
          | '\x7d' :: tail => some ([binding], tail)
          | _ => none
      | _ => none

end

/-! ### Lines -/

/-- A line that says something. -/
inductive Line where
  | binding (binding : Binding)
  | header (dotted : DottedKey) (repeated : Bool)

/-- A header with its brackets and the end of its line. -/
def readHeader? : List Char → Option (Line × List Char)
  | '[' :: '[' :: text =>
    (readDotted? text).bind fun (dotted, rest) =>
      match rest with
      | ']' :: ']' :: tail => (lineEnd? tail).map fun next => (.header dotted true, next)
      | _ => none
  | '[' :: text =>
    (readDotted? text).bind fun (dotted, rest) =>
      match rest with
      | ']' :: tail => (lineEnd? tail).map fun next => (.header dotted false, next)
      | _ => none
  | _ => none

/-- A binding and the end of its line. -/
def readBinding? (text : List Char) : Option (Line × List Char) :=
  (readDotted? text).bind fun (dotted, afterKey) =>
    match afterKey with
    | '=' :: valueText =>
      (readValue? (text.length + 1) 0 (skipBlanks valueText)).bind fun (value, rest) =>
        (lineEnd? rest).map fun next => (.binding ⟨dotted.path, dotted.key, value⟩, next)
    | _ => none

/-- The lines of a text that say something. The fuel is used up by one for each of them. -/
def readLines? : Nat → List Char → Option (List Line)
  | 0, _ => none
  | fuel + 1, text =>
    match skipLines false text with
    | [] => some []
    | '[' :: rest =>
      (readHeader? ('[' :: rest)).bind fun (line, next) => (readLines? fuel next).map (line :: ·)
    | other => (readBinding? other).bind fun (line, next) => (readLines? fuel next).map (line :: ·)

/-- The document of lines: each binding belongs to the last header above it. -/
def documentOf : List Line → Document
  | [] => ⟨[], []⟩
  | .binding binding :: rest =>
    let document := documentOf rest
    { document with bindings := binding :: document.bindings }
  | .header dotted repeated :: rest =>
    let document := documentOf rest
    ⟨[], ⟨dotted.path, dotted.key, repeated, document.bindings⟩ :: document.sections⟩

/-- The text with line breaks of one kind. A carriage return elsewhere stays, and stands nowhere in
a proper document. -/
def unifyBreaks : List Char → List Char
  | '\r' :: '\n' :: rest => '\n' :: unifyBreaks rest
  | c :: rest => c :: unifyBreaks rest
  | [] => []

/-- The table that a document describes. A byte order mark in front of it is dropped. -/
def read? (text : String) : Option Toml :=
  let all := unifyBreaks (Text.dropStart ['\ufeff'] text.toList)
  (readLines? (all.length + 1) all).bind fun lines => (documentOf lines).entries?.map table

end RuleAtoms.Toml
