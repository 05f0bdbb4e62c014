/-
**The program.**

It gathers what a command line may look at, runs it and shows the outcome.
-/

import RuleAtoms.Command.Run

namespace RuleAtoms.Program

/-- The variables that settings are taken from. -/
def variableNames : List String :=
  ["HOME", "XDG_CONFIG_HOME", "SWRLB_LOG_LEVEL", "SWRLB_FORMAT", "SWRLB_MODE",
    "SWRLB_VARIABLE_NAMESPACE"]

/-- The variables of the environment that are set. -/
def environment : IO (List (String × String)) :=
  variableNames.filterMapM fun name => do
    return (← IO.getEnv name).map fun value => (name, value)

/-- What stands under a path in the file system. -/
def stateOf (path : String) : IO FileState := do
  try
    return .text (← IO.FS.readFile path)
  catch
    | .noFileOrDirectory .. => return .missing
    | .inappropriateType _ code _ => return if code = 20 then .beyondText else .directory
    | .invalidArgument _ code _ => return if code = 36 then .tooLong else .missing
    | error => return .unreadable (toString error)

/-- All lines of a stream. -/
partial def readAll (stream : IO.FS.Stream) (before : String) : IO String := do
  let line ← stream.getLine
  if line.isEmpty then return before else readAll stream (before ++ line)

/-- What the program can see of the world when it runs a command line. -/
def surroundings (arguments : List String) : IO Command.Surroundings := do
  let known ← environment
  let lookup? := fun name => known.lookup name
  let states ← (Command.paths lookup? arguments).mapM fun path => do
    return (path, ← stateOf path)
  let input ←
    if Command.readsInput arguments then readAll (← IO.getStdin) "" else pure ""
  return ⟨lookup?, fun path => (states.lookup path).getD .missing, input⟩

end RuleAtoms.Program

open RuleAtoms in
def main (arguments : List String) : IO UInt32 := do
  match Command.run (← Program.surroundings arguments) arguments with
  | .ok text =>
    IO.print text
    return 0
  | .error failure =>
    IO.eprint failure.text
    return failure.status.toUInt32
