/-
**Options with a fixed set of values.**

Each option has one name, which files use, and may be denoted by other words elsewhere.
-/

import RuleAtoms.Text.LetterCase

namespace RuleAtoms

/-- How a table is written. -/
inductive OutputFormat where
  | table | json | csv
deriving DecidableEq

namespace OutputFormat

def all : List OutputFormat := [table, json, csv]

def name : OutputFormat → String
  | table => "table"
  | json => "json"
  | csv => "csv"

/-- The format with exactly this name. -/
def ofName? (name : String) : Option OutputFormat := all.find? (·.name == name)

/-- The words that denote a format. -/
def words : OutputFormat → List String
  | table => ["table", "text"]
  | json => ["json"]
  | csv => ["csv"]

/-- The format that a word denotes, in capital or small letters. -/
def ofWord? (word : String) : Option OutputFormat :=
  all.find? (·.words.contains (String.ofList (Text.lowerCase word.toList)))

end OutputFormat

/-- How much is told about the work. -/
inductive LogLevel where
  | quiet | normal | verbose | debug
deriving DecidableEq

namespace LogLevel

def all : List LogLevel := [quiet, normal, verbose, debug]

def name : LogLevel → String
  | quiet => "quiet"
  | normal => "normal"
  | verbose => "verbose"
  | debug => "debug"

/-- The level with exactly this name. -/
def ofName? (name : String) : Option LogLevel := all.find? (·.name == name)

/-- The words that denote a level. -/
def words : LogLevel → List String
  | quiet => ["quiet", "q", "0"]
  | normal => ["normal", "n", "1"]
  | verbose => ["verbose", "v", "2"]
  | debug => ["debug", "d", "3"]

/-- The level that a word denotes, in capital or small letters. -/
def ofWord? (word : String) : Option LogLevel :=
  all.find? (·.words.contains (String.ofList (Text.lowerCase word.toList)))

/-- The least severe kind of message that the level lets through. -/
def severity : LogLevel → String
  | quiet => "error"
  | normal => "warn"
  | verbose => "info"
  | debug => "debug"

end LogLevel

end RuleAtoms
