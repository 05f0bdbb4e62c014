/-
**Where settings come from.**

Settings are read from a file that is named, or from the first of some usual files that is there.
Without any file they are the default ones.
-/

import RuleAtoms.Files
import RuleAtoms.Report.Basic
import RuleAtoms.Settings.Document

namespace RuleAtoms

/-- Why settings cannot be read or written. -/
inductive Settings.Error where
  | unreadable (path detail : String)
  | malformed (path detail : String)
  | unwritable (detail : String)
deriving DecidableEq

/-- What kept a file from being used. -/
inductive FileProblem where
  | notFound
  | accessDenied
  | other
deriving DecidableEq

namespace Report

/-- A report about a file, with a message of the system. A file that is missing is taken for one of
settings. -/
def ofFileProblem (problem : FileProblem) (message : String) : Report :=
  match problem with
  | .notFound => new .configNotFound message
  | .accessDenied => new .fileAccessDenied message
  | .other => new .ioError message

end Report

namespace Settings

def Error.report : Error → Report
  | unreadable path detail =>
    (Report.new .configNotFound ("IO error reading " ++ path ++ ": " ++ detail)).withField
      "path" path
  | malformed path detail =>
    (Report.new .invalidConfigSyntax ("Parse error in " ++ path ++ ": " ++ detail)).withField
      "path" path
  | unwritable detail => Report.new .configError ("Serialization error: " ++ detail)

/-- What is said about a text that describes no settings. -/
def malformedDetail : String := "the text does not describe settings"

/-- The name by which a text is called that comes from no file. -/
def namelessPath : String := "<string>"

/-- The settings that a text describes which is known by a path. -/
def ofText (path text : String) : Except Error Settings :=
  match ofText? text with
  | some settings => .ok settings
  | none => .error (.malformed path malformedDetail)

/-- The settings in a file. -/
def ofFile (path : String) (state : FileState) : Except Error Settings :=
  match state.content with
  | .ok text => ofText path text
  | .error detail => .error (.unreadable path detail)

/-- The directory for settings of programs: a variable names it if its value is a full path, else it
is in the home directory. -/
def homeOfSettings? (lookup? : String → Option String) (home? : Option String) : Option String :=
  match (lookup? "XDG_CONFIG_HOME").filter (·.startsWith "/") with
  | some directory => some directory
  | none => home?.map (pathWithin · ".config")

/-- The usual paths of settings, in the order in which they are looked at. -/
def usualPaths (lookup? : String → Option String) : List String :=
  let home? := (lookup? "HOME").filter (!·.isEmpty)
  ["./swrlb.toml"] ++
    ((homeOfSettings? lookup? home?).map (pathWithin · "swrlb/config.toml")).toList ++
    (home?.map (pathWithin · ".swrlb/config.toml")).toList ++ ["/etc/swrlb/config.toml"]

/-- The settings of a named file, or of the first usual one that is there, with the variables of the
environment looked at last. -/
def load (lookup? : String → Option String) (file : String → FileState) (path? : Option String) :
    Except Error Settings :=
  let chosen? := path?.or ((usualPaths lookup?).find? fun path => (file path).isThere)
  let found : Except Error Settings :=
    match chosen? with
    | some path => ofFile path (file path)
    | none => .ok default
  found.map fun settings => settings.override lookup?

end Settings

end RuleAtoms
