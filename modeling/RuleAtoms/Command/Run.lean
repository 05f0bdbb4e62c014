/-
**Running command lines.**

A run is a function of the arguments and the surroundings. Its outcome is the text that it prints or
a failure, which has a status and a message. Settings are loaded before anything else is done, so
broken settings make every command fail.
-/

import RuleAtoms.AtomMarkup
import RuleAtoms.AtomText.Reader
import RuleAtoms.Command.Arguments
import RuleAtoms.Evaluation.Run
import RuleAtoms.Relation.Aligned
import RuleAtoms.Relation.Csv
import RuleAtoms.Relation.Json
import RuleAtoms.Settings.Source

namespace RuleAtoms.Command

/-- What a run can see of the world. -/
structure Surroundings where
  /-- The value of a variable of the environment. -/
  lookup? : String → Option String
  file : String → FileState
  /-- The standard input. -/
  input : String

/-- Why a run fails. -/
inductive Failure where
  /-- Nothing is asked for. -/
  | idle
  | usage (error : UsageError)
  /-- An error with a report, and what was being done. -/
  | reported (activity? : Option String) (report : Report)
  /-- A file that cannot be read, and what was being done. -/
  | file (activity detail : String)

def Failure.status : Failure → Nat
  | idle | usage _ => 2
  | reported _ report => report.code.exitStatus
  | file _ _ => 1

def helpText : String :=
  "Usage: swrlb [--config FILE] [-v] [-q] COMMAND\n" ++
  "\n" ++
  "  eval --atom FILE|NOTATION --relation FILE [--mode MODE] [-f FORMAT]\n" ++
  "  show FILE|NOTATION [--xml]\n" ++
  "  list\n" ++
  "  config [--default]\n"

/-- What is said about a failure. The refusal of a command line begins with a small letter, and the
failure of a task with a capital one. -/
def Failure.text : Failure → String
  | idle => helpText
  | usage error => "error: " ++ error.message ++ "\n"
  | reported none report => "Error: " ++ report.text ++ "\n"
  | reported (some activity) report => "Error: " ++ activity ++ ": " ++ report.text ++ "\n"
  | file activity detail => "Error: " ++ activity ++ ": " ++ detail ++ "\n"

/-! ### Reading what a task is about -/

/-- Whether a text is taken for markup. -/
def isMarkup (text : String) : Bool :=
  let start := Text.trimStart text.toList
  ["<?", "<!--", "<" ++ AtomMarkup.atomElement].any fun mark => mark.toList.isPrefixOf start

/-- The atom in a text, as markup or in one line. -/
def readAtom (settings : Settings) (text : String) : Except Failure Atom :=
  if isMarkup text then
    (AtomMarkup.read settings.variableSpace text).mapError fun error =>
      .reported (some "Failed to decode atom XML") error.report
  else
    (AtomText.read settings.allPrefixes text).mapError fun error =>
      .reported (some "Failed to parse atom notation") error.report

/-- The text of the file that an argument names, or the argument itself if it names none. -/
def atomText (surroundings : Surroundings) (source : String) : Except Failure String :=
  if (surroundings.file source).isFile then
    (surroundings.file source).content.mapError (.file ("Failed to read atom file: " ++ source))
  else .ok source

def loadAtom (surroundings : Surroundings) (settings : Settings) (source : String) :
    Except Failure Atom :=
  (atomText surroundings source).bind (readAtom settings)

/-- The path that stands for the standard input. -/
def inputPath : String := "-"

/-- The text of the standard input or of a file. -/
def relationText (surroundings : Surroundings) (path : String) : Except Failure String :=
  if path == inputPath then .ok surroundings.input
  else
    (surroundings.file path).content.mapError (.file ("Failed to read relation file: " ++ path))

def loadRelation (surroundings : Surroundings) (path : String) : Except Failure Relation :=
  (relationText surroundings path).bind fun text =>
    (Relation.ofJsonText text).mapError fun error =>
      .reported (some ("Invalid relation in " ++ path)) error.report

/-! ### Tasks -/

/-- A relation as it is printed. -/
def printRelation (format : OutputFormat) (relation : Relation) : String :=
  match format with
  | .table => String.ofList relation.aligned ++ "\n"
  | .json => relation.jsonText ++ "\n"
  | .csv => String.ofList relation.csv

/-- An atom as it is printed. -/
def printAtom (settings : Settings) (inMarkup : Bool) (atom : Atom) : String :=
  (if inMarkup then AtomMarkup.write settings.variableSpace atom
    else String.ofList (AtomText.render settings.allPrefixes atom)) ++ "\n"

/-- A predicate with its arity and description, as it is printed. -/
def printSpec (spec : Spec) : String :=
  let column := fun width (text : String) => String.ofList (text.toList.rightpad width ' ')
  column 28 spec.predicate.shortName ++ " " ++ column 18 spec.predicate.arity.text ++ " " ++
    spec.description ++ "\n"

/-- The settings of an invocation: silence goes before talkativeness. -/
def effectiveSettings (surroundings : Surroundings) (invocation : Invocation) :
    Except Failure Settings :=
  match Settings.load surroundings.lookup? surroundings.file invocation.settingsPath? with
  | .error error => .error (.reported none error.report)
  | .ok settings =>
    .ok { settings with
      logLevel :=
        if invocation.quiet then .quiet
        else if invocation.verbose then .verbose
        else settings.logLevel }

/-- Does a task and returns what is printed. -/
def perform (surroundings : Surroundings) (settings : Settings) : Task → Except Failure String
  | .evaluate source path mode? format? => do
    let atom ← loadAtom surroundings settings source
    let relation ← loadRelation surroundings path
    let mode := mode?.getD settings.mode
    match Evaluation.run Registry.standard mode atom relation.table with
    | .ok outcome => .ok (printRelation (format?.getD settings.format) outcome.relation)
    | .error error => .error (.reported none error.report)
  | .present source inMarkup =>
    (loadAtom surroundings settings source).map (printAtom settings inMarkup)
  | .list => .ok (String.join (Registry.standard.specs.map printSpec))
  | .settings explained => .ok (if explained then Settings.explained else settings.text)

/-! ### Whole runs -/

def versionText : String := "swrlb 0.1.0\n"

/-- The text that a command line prints. -/
def run (surroundings : Surroundings) (arguments : List String) : Except Failure String :=
  match read arguments with
  | .error .version => .ok versionText
  | .error .help => .ok helpText
  | .error .nothing => .error .idle
  | .error (.usage error) => .error (.usage error)
  | .ok invocation =>
    (effectiveSettings surroundings invocation).bind fun settings =>
      perform surroundings settings invocation.task

/-- The paths that a task may look at. -/
def Task.paths : Task → List String
  | .evaluate atom relation _ _ => [atom, relation]
  | .present atom _ => [atom]
  | .list | .settings _ => []

/-- The paths that a command line may look at. -/
def paths (lookup? : String → Option String) (arguments : List String) : List String :=
  match read arguments with
  | .ok invocation =>
    (invocation.settingsPath?.elim (Settings.usualPaths lookup?) fun path => [path]) ++
      invocation.task.paths
  | .error _ => []

/-- Whether a command line looks at the standard input. -/
def readsInput (arguments : List String) : Bool :=
  match read arguments with
  | .ok invocation =>
    match invocation.task with
    | .evaluate _ relation _ _ => relation == inputPath
    | .present _ _ | .list | .settings _ => false
  | .error _ => false

end RuleAtoms.Command
