/-
**JSON values and how they are written.**

`compact` writes a value without any blanks, `pretty` on several lines with two spaces for each
level. Both write a string with the escapes that are required and no others.
-/

namespace RuleAtoms

/-- A JSON value. Numbers keep their text; entries keep their order and may repeat a key. A string
or a key with half of a surrogate pair is well formed but is no text, and is told apart. -/
inductive Json where
  | null
  | bool (value : Bool)
  | number (text : String)
  | string (text : String)
  | brokenString
  | array (items : List Json)
  | object (entries : List (Option String × Json))

namespace Json

/-- One character inside a string. -/
def escapeChar (c : Char) : List Char :=
  match c with
  | '"' => ['\\', '"']
  | '\\' => ['\\', '\\']
  | '\n' => ['\\', 'n']
  | '\r' => ['\\', 'r']
  | '\t' => ['\\', 't']
  | '\x08' => ['\\', 'b']
  | '\x0c' => ['\\', 'f']
  | c =>
    if c.toNat < 0x20 then
      ['\\', 'u', '0', '0', Nat.digitChar (c.toNat / 16), Nat.digitChar (c.toNat % 16)]
    else [c]

/-- A text as a JSON string. -/
def quote (text : String) : List Char := '"' :: text.toList.flatMap escapeChar ++ ['"']

/-- How a string that is no text is written: as one escaped half of a surrogate pair. -/
def brokenQuote : List Char := "\"\\ud800\"".toList

def quoteKey : Option String → List Char
  | some key => quote key
  | none => brokenQuote

mutual

/-- A value without blanks. -/
def compact : Json → List Char
  | null => "null".toList
  | bool value => (if value then "true" else "false").toList
  | number text => text.toList
  | string text => quote text
  | brokenString => brokenQuote
  | array items => '[' :: compactItems items ++ [']']
  | object entries => '\x7b' :: compactEntries entries ++ ['\x7d']

def compactItems : List Json → List Char
  | [] => []
  | [item] => compact item
  | item :: rest => compact item ++ ',' :: compactItems rest

def compactEntries : List (Option String × Json) → List Char
  | [] => []
  | [(key, value)] => quoteKey key ++ ':' :: compact value
  | (key, value) :: rest => quoteKey key ++ ':' :: compact value ++ ',' :: compactEntries rest

end

/-- A line end and the blanks in front of the next line. -/
def newLine (depth : Nat) : List Char := '\n' :: List.replicate (2 * depth) ' '

mutual

/-- A value on several lines, at a depth of nesting. An empty array or object stays on one. -/
def prettyAt (depth : Nat) : Json → List Char
  | array [] => ['[', ']']
  | array (item :: rest) =>
    '[' :: prettyItems (depth + 1) (item :: rest) ++ newLine depth ++ [']']
  | object [] => ['\x7b', '\x7d']
  | object (entry :: rest) =>
    '\x7b' :: prettyEntries (depth + 1) (entry :: rest) ++ newLine depth ++ ['\x7d']
  | value => compact value

def prettyItems (depth : Nat) : List Json → List Char
  | [] => []
  | [item] => newLine depth ++ prettyAt depth item
  | item :: rest => newLine depth ++ prettyAt depth item ++ ',' :: prettyItems depth rest

def prettyEntries (depth : Nat) : List (Option String × Json) → List Char
  | [] => []
  | [(key, value)] => newLine depth ++ quoteKey key ++ ':' :: ' ' :: prettyAt depth value
  | (key, value) :: rest =>
    newLine depth ++ quoteKey key ++ ':' :: ' ' :: prettyAt depth value ++
      ',' :: prettyEntries depth rest

end

/-- A value on several lines. -/
def pretty (value : Json) : List Char := prettyAt 0 value

end Json

end RuleAtoms
