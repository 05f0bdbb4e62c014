/-
**Command lines.**

A command line is a list of arguments: switches, the name of a command, and behind it the switches
and operands of that command. A switch is written in full (`--format csv`, `--format=csv`) or, if it
has one, by its letter (`-f csv`, `-fcsv`, `-f=csv`); letters of switches without a value can stand
together. Behind `--` there are operands only.

The switches of the program may stand on either side of the command; of two values for one switch
the one behind the command counts. On one side no switch may be repeated.

Arguments are looked at from left to right, and the first fault ends the reading, as does a switch
that asks for the version or for help. A command has to be given; a command line that gives nothing
at all is answered with help, though it is a fault too.
-/

import RuleAtoms.Evaluation.Mode
import RuleAtoms.Settings.Options
import RuleAtoms.Text.Split

namespace RuleAtoms.Command

/-! ### Switches -/

inductive Switch where
  | config | verbose | quiet | help | version
  | atom | relation | mode | format
  | xml
  | explained
deriving DecidableEq

namespace Switch

/-- The name behind two hyphens. -/
def name : Switch → String
  | config => "config"
  | verbose => "verbose"
  | quiet => "quiet"
  | help => "help"
  | version => "version"
  | atom => "atom"
  | relation => "relation"
  | mode => "mode"
  | format => "format"
  | xml => "xml"
  | explained => "default"

/-- The letter behind one hyphen. -/
def letter? : Switch → Option Char
  | verbose => some 'v'
  | quiet => some 'q'
  | help => some 'h'
  | version => some 'V'
  | format => some 'f'
  | config | atom | relation | mode | xml | explained => none

def takesValue : Switch → Bool
  | config | atom | relation | mode | format => true
  | verbose | quiet | help | version | xml | explained => false

/-- Whether a switch can have a value: paths are not empty, and options have names. -/
def accepts (switch : Switch) (value : String) : Bool :=
  match switch with
  | config | relation => !value.isEmpty
  | mode => (EvaluationMode.ofName? value).isSome
  | format => (OutputFormat.ofName? value).isSome
  | atom | verbose | quiet | help | version | xml | explained => true

/-- The switches of the program, which may also stand behind a command. -/
def everywhere : List Switch := [config, verbose, quiet, help]

end Switch

/-! ### What a command line asks for -/

/-- What is to be done. -/
inductive Task where
  /-- Evaluate an atom over a relation. -/
  | evaluate (atom relation : String) (mode? : Option EvaluationMode)
      (format? : Option OutputFormat)
  /-- Show an atom as text or in markup. -/
  | present (atom : String) (inMarkup : Bool)
  /-- List the predicates. -/
  | list
  /-- Show the settings, or the default ones with explanations. -/
  | settings (explained : Bool)
deriving DecidableEq

/-- A task, and how it is to be done. -/
structure Invocation where
  settingsPath? : Option String
  verbose : Bool
  quiet : Bool
  task : Task
deriving DecidableEq

/-- What is wrong with a command line. -/
inductive UsageError where
  | unknownSwitch (text : String)
  | repeated (switch : Switch)
  | noValue (switch : Switch)
  | unexpectedValue (switch : Switch)
  | badValue (switch : Switch) (value : String)
  | unexpectedOperand (text : String)
  | unknownCommand (name : String)
  | noCommand
  | missing (what : String)
deriving DecidableEq

def UsageError.message : UsageError → String
  | unknownSwitch text => "unknown option " ++ text
  | repeated switch => "--" ++ switch.name ++ " is given more than once"
  | noValue switch => "--" ++ switch.name ++ " needs a value"
  | unexpectedValue switch => "--" ++ switch.name ++ " takes no value"
  | badValue switch value => "--" ++ switch.name ++ " cannot be \"" ++ value ++ "\""
  | unexpectedOperand text => "unexpected argument " ++ text
  | unknownCommand name => "unknown command " ++ name
  | noCommand => "no command is given"
  | missing what => what ++ " is missing"

/-- Why the reading of arguments ends without a task. -/
inductive Stop where
  | version
  | help
  /-- Nothing is given at all. -/
  | nothing
  | usage (error : UsageError)
deriving DecidableEq

/-! ### Reading arguments -/

/-- What may stand on one side of a command. -/
structure Side where
  switches : List Switch
  /-- The greatest number of operands. -/
  operandLimit : Nat
  /-- The names of commands with which the side ends. -/
  commands : List String

/-- What has been given on one side of a command. -/
structure Given where
  switches : List (Switch × String)
  operands : List String

def Given.nothing : Given := ⟨[], []⟩

def Given.has (given : Given) (switch : Switch) : Bool := given.switches.any (·.1 == switch)

def Given.value? (given : Given) (switch : Switch) : Option String :=
  (given.switches.find? (·.1 == switch)).map Prod.snd

/-- Adds a switch with its value, which is empty for switches that take none. -/
def Given.addSwitch (given : Given) (switch : Switch) (value : String) : Except Stop Given :=
  if switch = .version then .error .version
  else if switch = .help then .error .help
  else if given.has switch then .error (.usage (.repeated switch))
  else if switch.accepts value then
    .ok { given with switches := given.switches ++ [(switch, value)] }
  else .error (.usage (.badValue switch value))

def Given.addOperand (side : Side) (given : Given) (operand : String) : Except Stop Given :=
  if given.operands.length < side.operandLimit then
    .ok { given with operands := given.operands ++ [operand] }
  else if side.commands.isEmpty then .error (.usage (.unexpectedOperand operand))
  else .error (.usage (.unknownCommand operand))

/-- The kinds of arguments by the way they are written. -/
inductive Form where
  | operand
  | onlyOperands
  | long (text : List Char)
  | letters (text : List Char)

def formOf (argument : String) : Form :=
  match argument.toList with
  | ['-', '-'] => .onlyOperands
  | '-' :: '-' :: text => .long text
  | '-' :: c :: text => .letters (c :: text)
  | _ => .operand

/-- Reads a switch written in full; it may still need its value. -/
def readLong (side : Side) (given : Given) (text : List Char) :
    Except Stop (Given × Option Switch) :=
  let (name, value?) :=
    match Text.splitFirst? ['='] text with
    | some (name, value) => (String.ofList name, some (String.ofList value))
    | none => (String.ofList text, none)
  match side.switches.find? (·.name == name) with
  | none => .error (.usage (.unknownSwitch ("--" ++ name)))
  | some switch =>
    match switch.takesValue, value? with
    | true, some value => (given.addSwitch switch value).map (·, none)
    | true, none => .ok (given, some switch)
    | false, some _ => .error (.usage (.unexpectedValue switch))
    | false, none => (given.addSwitch switch "").map (·, none)

/-- Reads the letters of switches; the last one may still need its value. -/
def readLetters (side : Side) (given : Given) : List Char → Except Stop (Given × Option Switch)
  | [] => .ok (given, none)
  | c :: rest =>
    match side.switches.find? (·.letter? == some c) with
    | none => .error (.usage (.unknownSwitch (String.ofList ['-', c])))
    | some switch =>
      if switch.takesValue then
        if rest.isEmpty then .ok (given, some switch)
        else
          (given.addSwitch switch (String.ofList (Text.dropStart ['='] rest))).map (·, none)
      else (given.addSwitch switch "").bind fun more => readLetters side more rest

/-- Whether an argument can be the value of the switch in front of it. -/
def isValue (argument : String) : Bool :=
  match formOf argument with
  | .operand => true
  | .onlyOperands | .long _ | .letters _ => false

/-- Reads the arguments of one side. What remains is a command with its own arguments, or
nothing. -/
def readSide (side : Side) : Given → List String → Except Stop (Given × List String)
  | given, [] => .ok (given, [])
  | given, argument :: rest =>
    let proceed (read : Given × Option Switch) : Except Stop (Given × List String) :=
      match read.2, rest with
      | none, rest => readSide side read.1 rest
      | some switch, [] => .error (.usage (.noValue switch))
      | some switch, value :: more =>
        if isValue value then
          (read.1.addSwitch switch value).bind fun next => readSide side next more
        else .error (.usage (.noValue switch))
    match formOf argument with
    | .long text => (readLong side given text).bind proceed
    | .letters text => (readLetters side given text).bind proceed
    | .onlyOperands => (rest.foldlM (Given.addOperand side) given).map (·, [])
    | .operand =>
      if side.commands.contains argument then .ok (given, argument :: rest)
      else (given.addOperand side argument).bind fun next => readSide side next rest

/-! ### Commands -/

/-- The name of the command that asks for help, on the program or on one command. -/
def helpCommand : String := "help"

/-- The side in front of the command. -/
def programSide : Side :=
  ⟨.version :: Switch.everywhere, 0, ["eval", "show", "list", "config", helpCommand]⟩

/-- The side behind a command with switches of its own. -/
def commandSide (switches : List Switch) (operandLimit : Nat) : Side :=
  ⟨switches ++ Switch.everywhere, operandLimit, []⟩

/-- A value that has to be given. -/
def required (what : String) : Option String → Except Stop String
  | some value => .ok value
  | none => .error (.usage (.missing what))

/-- The invocation of a task, with the switches on both sides of the command. -/
def invocation (before behind : Given) (task : Task) : Invocation :=
  { settingsPath? := (behind.value? .config).or (before.value? .config)
    verbose := before.has .verbose || behind.has .verbose
    quiet := before.has .quiet || behind.has .quiet
    task }

def evaluateTask (given : Given) : Except Stop Task := do
  let atom ← required "--atom" (given.value? .atom)
  let relation ← required "--relation" (given.value? .relation)
  .ok (.evaluate atom relation ((given.value? .mode).bind EvaluationMode.ofName?)
    ((given.value? .format).bind OutputFormat.ofName?))

def presentTask (given : Given) : Except Stop Task :=
  (required "the atom" given.operands.head?).map fun atom => .present atom (given.has .xml)

/-- The side behind a command, and the task that it makes. -/
def commandShape (name : String) : Except Stop (Side × (Given → Except Stop Task)) :=
  match name with
  | "eval" => .ok (commandSide [.atom, .relation, .mode, .format] 0, evaluateTask)
  | "show" => .ok (commandSide [.xml] 1, presentTask)
  | "list" => .ok (commandSide [] 0, fun _ => .ok .list)
  | "config" =>
    .ok (commandSide [.explained] 0, fun given => .ok (.settings (given.has .explained)))
  | _ => .error (.usage (.unknownCommand name))

/-- The end of a reading that comes to the command for help with these arguments. -/
def helpOn : List String → Stop
  | [] => .help
  | topic :: rest =>
    if programSide.commands.contains topic then
      rest.head?.elim .help fun beyond => .usage (.unknownCommand beyond)
    else .usage (.unknownCommand topic)

/-- What a command line asks for. -/
def read (arguments : List String) : Except Stop Invocation := do
  let (before, rest) ← readSide programSide .nothing arguments
  match rest with
  | [] => .error (if before.switches.isEmpty then .nothing else .usage .noCommand)
  | name :: more =>
    if name = helpCommand then throw (helpOn more)
    let (side, taskOf) ← commandShape name
    let (behind, _) ← readSide side .nothing more
    (taskOf behind).map (invocation before behind)

end RuleAtoms.Command
