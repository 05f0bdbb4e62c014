/-
**Settings as documents.**

Four tables: `general`, `evaluation`, `codec` and `prefixes`. When they are read, each table and
each key may be left out, and unknown keys are ignored; when they are written, all are there.
-/

import RuleAtoms.Settings.Basic
import RuleAtoms.Toml.Fields
import RuleAtoms.Toml.Reader

namespace RuleAtoms.Settings

open Toml

/-! ### Reading -/

/-- The level and the format in the first table. -/
def general? (value : Toml) : Option (LogLevel × OutputFormat) :=
  match value.fields? ["log_level", "format"] with
  | some [level?, format?] =>
    (orDefault? (choice? LogLevel.ofName?) default.logLevel level?).bind fun level =>
      (orDefault? (choice? OutputFormat.ofName?) default.format format?).map fun format =>
        (level, format)
  | _ => none

def mode? (value : Toml) : Option EvaluationMode :=
  match value.fields? ["mode"] with
  | some [mode?] => orDefault? (choice? EvaluationMode.ofName?) default.mode mode?
  | _ => none

def variableSpace? (value : Toml) : Option String :=
  match value.fields? ["variable_namespace"] with
  | some [space?] => orDefault? Toml.text? default.variableSpace space?
  | _ => none

def prefixes? (value : Toml) : Option Prefixes := value.texts?.map Keyed.ofList

/-- The settings that a table describes. -/
def ofToml? (value : Toml) : Option Settings :=
  match value.fields? ["general", "evaluation", "codec", "prefixes"] with
  | some [generalPart, evaluationPart, codecPart, prefixesPart] => do
    let (logLevel, format) ← orDefault? general? (default.logLevel, default.format) generalPart
    let mode ← orDefault? mode? default.mode evaluationPart
    let variableSpace ← orDefault? variableSpace? default.variableSpace codecPart
    let prefixes ← orDefault? prefixes? default.prefixes prefixesPart
    some { logLevel, format, mode, variableSpace, prefixes }
  | _ => none

/-- The settings that a text describes. -/
def ofText? (text : String) : Option Settings := (Toml.read? text).bind ofToml?

/-! ### Writing -/

/-- A key with a text, on a line. -/
def bindingLine (binding : String × String) : List Char :=
  writeKey binding.1.toList ++ [' ', '=', ' '] ++ quote binding.2.toList ++ ['\n']

/-- A table of texts below its header. -/
def sectionText (content : String × List (String × String)) : List Char :=
  '[' :: content.1.toList ++ [']', '\n'] ++ content.2.flatMap bindingLine

/-- The settings as tables of texts. -/
def sections (settings : Settings) : List (String × List (String × String)) :=
  [("general", [("log_level", settings.logLevel.name), ("format", settings.format.name)]),
   ("evaluation", [("mode", settings.mode.name)]),
   ("codec", [("variable_namespace", settings.variableSpace)]),
   ("prefixes", settings.prefixes.entries)]

/-- The settings as a text, with a blank line between the tables. -/
def text (settings : Settings) : String :=
  String.ofList (Text.join ['\n'] (settings.sections.map sectionText))

/-- A text of the default settings with explanations. -/
def explained : String :=
  "# swrlb configuration file\n" ++
  "\n" ++
  "[general]\n" ++
  "# Logging level: quiet, normal, verbose, debug\n" ++
  "log_level = \"normal\"\n" ++
  "# Relation output format: table, json, csv\n" ++
  "format = \"table\"\n" ++
  "\n" ++
  "[evaluation]\n" ++
  "# filter keeps rows that satisfy the atom; bind also fills an empty result cell\n" ++
  "mode = \"filter\"\n" ++
  "\n" ++
  "[codec]\n" ++
  "# Namespace for <Variable IRI=\"...\"> elements\n" ++
  "variable_namespace = \"urn:swrl#\"\n" ++
  "\n" ++
  "[prefixes]\n" ++
  "# Extra prefixes for notation and display\n" ++
  "# ex = \"http://example.org/\"\n"

end RuleAtoms.Settings
