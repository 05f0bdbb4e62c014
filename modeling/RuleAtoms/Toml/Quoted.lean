/-
**Quoted texts in settings documents.**

A text stands between double quotes, where a backslash begins an escape, or between single quotes,
where every character stands for itself. Three quotes instead of one allow line breaks inside; a
line break right behind the opening quotes does not count.

Texts are written in the first of these forms that shows all of them plainly: double quotes, single
quotes, three double quotes, three single quotes. Where none does, escapes are used.
-/

import RuleAtoms.Number.Digits
import RuleAtoms.Text.Split

namespace RuleAtoms.Toml

/-! ### Reading -/

/-- A character that may stand in quotes and comments: all but the control characters, of which the
tabulator is allowed. -/
def isPlain (c : Char) : Bool := c == '\t' || (decide (' ' ≤ c) && c != '\x7f')

/-- The character that a backslash and a letter stand for. -/
def shortEscape? (c : Char) : Option Char :=
  match c with
  | 'b' => some '\x08'
  | 't' => some '\t'
  | 'n' => some '\n'
  | 'f' => some '\x0c'
  | 'r' => some '\r'
  | '"' => some '"'
  | '\\' => some '\\'
  | _ => none

/-- The character with a code point in hexadecimal digits. -/
def charOfHex? (digits : List Char) : Option Char :=
  (Number.hexNumber? digits).bind fun code =>
    if code.isValidChar then some (Char.ofNat code) else none

/-- A text in double quotes, from behind the opening quote, and what follows the closing one. -/
def readEscaped? : List Char → Option (List Char × List Char)
  | '"' :: rest => some ([], rest)
  | '\\' :: 'u' :: a :: b :: c :: d :: rest =>
    (charOfHex? [a, b, c, d]).bind fun escaped =>
      (readEscaped? rest).map fun (text, tail) => (escaped :: text, tail)
  | '\\' :: 'U' :: a :: b :: c :: d :: e :: f :: g :: h :: rest =>
    (charOfHex? [a, b, c, d, e, f, g, h]).bind fun escaped =>
      (readEscaped? rest).map fun (text, tail) => (escaped :: text, tail)
  | '\\' :: c :: rest =>
    (shortEscape? c).bind fun escaped =>
      (readEscaped? rest).map fun (text, tail) => (escaped :: text, tail)
  | c :: rest =>
    if c == '\\' || !isPlain c then none
    else (readEscaped? rest).map fun (text, tail) => (c :: text, tail)
  | [] => none

/-- Whether a text begins with blanks and a line break. -/
def startsWithBreak (text : List Char) : Bool :=
  (text.dropWhile fun c => c == ' ' || c == '\t').head? == some '\n'

/-- Up to two more quotes in front of three closing ones belong to the text. -/
def lastQuotes (quote : Char) (text : List Char) : List Char × List Char :=
  let more := (text.takeWhile (· == quote)).take 2
  (more, text.drop more.length)

/-- A text in three double quotes, from behind the opening ones, and what follows the closing ones.
A backslash at the end of a line takes away the line break and all blanks and line breaks that
follow it; the flag says whether these are being skipped. -/
def readLongEscaped? : Bool → List Char → Option (List Char × List Char)
  | _, '"' :: '"' :: '"' :: rest => some (lastQuotes '"' rest)
  | true, ' ' :: rest => readLongEscaped? true rest
  | true, '\t' :: rest => readLongEscaped? true rest
  | true, '\n' :: rest => readLongEscaped? true rest
  | _, '\\' :: 'u' :: a :: b :: c :: d :: rest =>
    (charOfHex? [a, b, c, d]).bind fun escaped =>
      (readLongEscaped? false rest).map fun (text, tail) => (escaped :: text, tail)
  | _, '\\' :: 'U' :: a :: b :: c :: d :: e :: f :: g :: h :: rest =>
    (charOfHex? [a, b, c, d, e, f, g, h]).bind fun escaped =>
      (readLongEscaped? false rest).map fun (text, tail) => (escaped :: text, tail)
  | _, '\\' :: c :: rest =>
    if startsWithBreak (c :: rest) then readLongEscaped? true rest
    else
      (shortEscape? c).bind fun escaped =>
        (readLongEscaped? false rest).map fun (text, tail) => (escaped :: text, tail)
  | _, c :: rest =>
    if c == '\\' || !(c == '\n' || isPlain c) then none
    else (readLongEscaped? false rest).map fun (text, tail) => (c :: text, tail)
  | _, [] => none

/-- A text in single quotes, from behind the opening quote, and what follows the closing one. -/
def readLiteral? (text : List Char) : Option (List Char × List Char) :=
  let inside := text.takeWhile fun c => c != '\'' && isPlain c
  match text.drop inside.length with
  | '\'' :: rest => some (inside, rest)
  | _ => none

/-- A text in three single quotes, from behind the opening ones, and what follows the closing
ones. -/
def readLongLiteral? : List Char → Option (List Char × List Char)
  | '\'' :: '\'' :: '\'' :: rest => some (lastQuotes '\'' rest)
  | c :: rest =>
    if c == '\n' || isPlain c then
      (readLongLiteral? rest).map fun (text, tail) => (c :: text, tail)
    else none
  | [] => none

/-- A quoted text without line breaks. -/
def readShortQuoted? : List Char → Option (List Char × List Char)
  | '"' :: rest => readEscaped? rest
  | '\'' :: rest => readLiteral? rest
  | _ => none

/-- A quoted text. -/
def readQuoted? : List Char → Option (List Char × List Char)
  | '"' :: '"' :: '"' :: rest => readLongEscaped? false (Text.dropStart ['\n'] rest)
  | '\'' :: '\'' :: '\'' :: rest => readLongLiteral? (Text.dropStart ['\n'] rest)
  | text => readShortQuoted? text

/-! ### Writing -/

/-- A character that only an escape can show. -/
def isHidden (c : Char) : Bool := !(c == '\n' || isPlain c)

/-- The length of the longest run of a character in a text. -/
def longestRun (wanted : Char) (text : List Char) : Nat :=
  (text.foldl (fun (longest, current) c =>
    if c == wanted then (max longest (current + 1), current + 1) else (longest, 0)) (0, 0)).1

/-- Four hexadecimal digits of a code point. -/
def fourDigits (c : Char) : List Char :=
  ((Nat.toDigits 16 c.toNat).map Char.toUpper).leftpad 4 '0'

/-- A character between double quotes, other than a quote. -/
def escapeChar (inLines : Bool) (c : Char) : List Char :=
  match c with
  | '\x08' => ['\\', 'b']
  | '\t' => ['\\', 't']
  | '\n' => if inLines then ['\n'] else ['\\', 'n']
  | '\x0c' => ['\\', 'f']
  | '\r' => ['\\', 'r']
  | '\\' => ['\\', '\\']
  | c => if isHidden c then '\\' :: 'u' :: fourDigits c else [c]

/-- A text between double quotes. A quote is escaped when it would follow as many plain ones as may
stand together. -/
def escapeText (inLines : Bool) (allowed : Nat) : Nat → List Char → List Char
  | _, [] => []
  | run, '"' :: rest =>
    if run < allowed then '"' :: escapeText inLines allowed (run + 1) rest
    else '\\' :: '"' :: escapeText inLines allowed 0 rest
  | _, c :: rest => escapeChar inLines c ++ escapeText inLines allowed 0 rest

def inDoubleQuotes (text : List Char) : List Char := '"' :: escapeText false 0 0 text ++ ['"']

def inSingleQuotes (text : List Char) : List Char := '\'' :: text ++ ['\'']

/-- A text in three double quotes, or three single ones if `plainly`. The line break behind the
opening quotes is written for texts that have line breaks themselves. -/
def inThreeQuotes (plainly : Bool) (text : List Char) : List Char :=
  let quotes := List.replicate 3 (if plainly then '\'' else '"')
  quotes ++ (if text.contains '\n' then ['\n'] else []) ++
    (if plainly then text else escapeText true 2 0 text) ++ quotes

/-- A text in quotes. -/
def quote (text : List Char) : List Char :=
  let hidden := text.any isHidden
  let lines := text.contains '\n'
  let escapes := text.contains '\\'
  if !hidden && !escapes && !text.contains '"' && !lines then inDoubleQuotes text
  else if !hidden && !text.contains '\'' && !lines then inSingleQuotes text
  else if !hidden && !escapes && longestRun '"' text ≤ 2 then inThreeQuotes false text
  else if !hidden && longestRun '\'' text ≤ 2 then inThreeQuotes true text
  else if lines then inThreeQuotes false text
  else inDoubleQuotes text

/-! ### Keys -/

/-- A character of a key that needs no quotes. -/
def isKeyChar (c : Char) : Bool := c.isAlphanum || c == '_' || c == '-'

/-- A key, in quotes if it needs them. -/
def writeKey (key : List Char) : List Char :=
  if !key.isEmpty && key.all isKeyChar then key
  else if key.all (fun c => isPlain c && c != '\\' && c != '"') then inDoubleQuotes key
  else if key.all (fun c => isPlain c && c != '\'') then inSingleQuotes key
  else inDoubleQuotes key

/-- A key at the beginning of a text, and what follows it. -/
def readKey? (text : List Char) : Option (List Char × List Char) :=
  match readShortQuoted? text with
  | some found => some found
  | none =>
    let key := text.takeWhile isKeyChar
    if key.isEmpty then none else some (key, text.drop key.length)

end RuleAtoms.Toml
