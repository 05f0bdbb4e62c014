/-
**Reading JSON.**

The strict grammar: no comments, no trailing commas, no leading zeros, no control characters in
strings, nothing but blanks around the one value. `Json.read?` tries each alternative by its first
character and never goes back.
-/

import RuleAtoms.Json.Basic
import RuleAtoms.Number.Digits

namespace RuleAtoms.Json

/-- The blanks between the parts of a JSON text. -/
def isBlank (c : Char) : Bool := c == ' ' || c == '\n' || c == '\t' || c == '\r'

def skipBlanks (text : List Char) : List Char := text.dropWhile isBlank

/-! ### Strings -/

/-- A part of a string: a character, or a 16-bit unit given by its number. -/
inductive Piece where
  | char (c : Char)
  | unit (code : Nat)

/-- The character that a backslash and a letter stand for. -/
def shortEscape? (c : Char) : Option Char :=
  match c with
  | '"' => some '"'
  | '\\' => some '\\'
  | '/' => some '/'
  | 'b' => some '\x08'
  | 'f' => some '\x0c'
  | 'n' => some '\n'
  | 'r' => some '\r'
  | 't' => some '\t'
  | _ => none

/-- The pieces of a string up to its closing quote, and what follows it. -/
def readPieces : List Char → Option (List Piece × List Char)
  | '"' :: rest => some ([], rest)
  | '\\' :: 'u' :: a :: b :: c :: d :: rest =>
    (Number.hexNumber? [a, b, c, d]).bind fun code =>
      (readPieces rest).map fun (pieces, tail) => (.unit code :: pieces, tail)
  | '\\' :: c :: rest =>
    (shortEscape? c).bind fun escaped =>
      (readPieces rest).map fun (pieces, tail) => (.char escaped :: pieces, tail)
  | c :: rest =>
    if c == '\\' || decide (c.toNat < 0x20) then none
    else (readPieces rest).map fun (pieces, tail) => (.char c :: pieces, tail)
  | [] => none

def isHighHalf (code : Nat) : Bool := decide (0xD800 ≤ code) && decide (code < 0xDC00)

def isLowHalf (code : Nat) : Bool := decide (0xDC00 ≤ code) && decide (code < 0xE000)

/-- The text that pieces form, if every half of a surrogate pair has its other half. -/
def joinPieces : List Piece → Option (List Char)
  | [] => some []
  | .char c :: rest => (joinPieces rest).map (c :: ·)
  | .unit high :: .unit low :: rest =>
    if isHighHalf high then
      if isLowHalf low then
        (joinPieces rest).map
          (Char.ofNat (0x10000 + (high - 0xD800) * 0x400 + (low - 0xDC00)) :: ·)
      else none
    else if isLowHalf high then none
    else (joinPieces (.unit low :: rest)).map (Char.ofNat high :: ·)
  | .unit code :: rest =>
    if isHighHalf code || isLowHalf code then none
    else (joinPieces rest).map (Char.ofNat code :: ·)

/-- The text of a string behind its opening quote, if it is one, and what follows the string. -/
def readString? (text : List Char) : Option (Option String × List Char) :=
  (readPieces text).map fun (pieces, rest) => ((joinPieces pieces).map String.ofList, rest)

/-! ### Numbers -/

/-- One or more digits behind a part of a number that has been read. -/
def readDigitsBehind? (front text : List Char) : Option (List Char × List Char) :=
  let digits := text.takeWhile Char.isDigit
  if digits.isEmpty then none else some (front ++ digits, text.dropWhile Char.isDigit)

/-- The whole part of a number: a zero, or digits that do not begin with one. -/
def readWholePart? : List Char → Option (List Char × List Char)
  | '0' :: rest => some (['0'], rest)
  | text => readDigitsBehind? [] text

/-- The fraction of a number, if there is one. -/
def readFraction? (front : List Char) : List Char → Option (List Char × List Char)
  | '.' :: rest => readDigitsBehind? (front ++ ['.']) rest
  | text => some (front, text)

/-- The exponent of a number, if there is one. -/
def readExponent? (front : List Char) : List Char → Option (List Char × List Char)
  | c :: rest =>
    if c == 'e' || c == 'E' then
      match rest with
      | '+' :: digits => readDigitsBehind? (front ++ [c, '+']) digits
      | '-' :: digits => readDigitsBehind? (front ++ [c, '-']) digits
      | digits => readDigitsBehind? (front ++ [c]) digits
    else some (front, c :: rest)
  | [] => some (front, [])

/-- A number as it is written. -/
def readNumber? (text : List Char) : Option (List Char × List Char) :=
  let (sign, body) :=
    match text with
    | '-' :: rest => (['-'], rest)
    | text => ([], text)
  (readWholePart? body).bind fun (whole, afterWhole) =>
    (readFraction? (sign ++ whole) afterWhole).bind fun (front, afterFraction) =>
      readExponent? front afterFraction

/-! ### Values -/

mutual

/-- A value at the beginning of a text, and what follows it. The fuel is used up by one for each
value, item or entry, so the length of the text is enough. -/
def readValue? : Nat → List Char → Option (Json × List Char)
  | 0, _ => none
  | fuel + 1, text =>
    match skipBlanks text with
    | 'n' :: 'u' :: 'l' :: 'l' :: rest => some (null, rest)
    | 't' :: 'r' :: 'u' :: 'e' :: rest => some (bool true, rest)
    | 'f' :: 'a' :: 'l' :: 's' :: 'e' :: rest => some (bool false, rest)
    | '"' :: rest =>
      (readString? rest).map fun (string?, tail) =>
        (match string? with
          | some text => string text
          | none => brokenString, tail)
    | '[' :: rest =>
      match skipBlanks rest with
      | ']' :: tail => some (array [], tail)
      | _ => (readItems? fuel rest).map fun (items, tail) => (array items, tail)
    | '\x7b' :: rest =>
      match skipBlanks rest with
      | '\x7d' :: tail => some (object [], tail)
      | _ => (readEntries? fuel rest).map fun (entries, tail) => (object entries, tail)
    | other => (readNumber? other).map fun (digits, tail) => (number (String.ofList digits), tail)

/-- The items of an array up to its closing bracket. -/
def readItems? : Nat → List Char → Option (List Json × List Char)
  | 0, _ => none
  | fuel + 1, text =>
    (readValue? fuel text).bind fun (item, rest) =>
      match skipBlanks rest with
      | ',' :: tail => (readItems? fuel tail).map fun (items, behind) => (item :: items, behind)
      | ']' :: tail => some ([item], tail)
      | _ => none

/-- The entries of an object up to its closing brace. -/
def readEntries? : Nat → List Char → Option (List (Option String × Json) × List Char)
  | 0, _ => none
  | fuel + 1, text =>
    match skipBlanks text with
    | '"' :: rest =>
      (readString? rest).bind fun (key, afterKey) =>
        match skipBlanks afterKey with
        | ':' :: valueText =>
          (readValue? fuel valueText).bind fun (value, afterValue) =>
            match skipBlanks afterValue with
            | ',' :: tail =>
              (readEntries? fuel tail).map fun (entries, behind) => ((key, value) :: entries, behind)
            | '\x7d' :: tail => some ([(key, value)], tail)
            | _ => none
        | _ => none
    | _ => none

end

/-- The value that a text holds, if it is the JSON text of one. -/
def read? (text : String) : Option Json :=
  match readValue? (text.toList.length + 1) text.toList with
  | some (value, rest) => if (skipBlanks rest).isEmpty then some value else none
  | none => none

end RuleAtoms.Json
