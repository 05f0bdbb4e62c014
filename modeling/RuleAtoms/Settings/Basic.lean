/-
**Settings.**

Settings say how much is told, how tables are written, how atoms are evaluated, how variables are
written in markup and which prefixes there are. Everything has a default, and all but the prefixes
can be overridden by variables of the environment.
-/

import RuleAtoms.Evaluation.Mode
import RuleAtoms.Name.Prefixes
import RuleAtoms.Settings.Options

namespace RuleAtoms

structure Settings where
  logLevel : LogLevel := .normal
  /-- How tables are written. -/
  format : OutputFormat := .table
  mode : EvaluationMode := .filter
  /-- The namespace of variables in markup. -/
  variableSpace : String := Vocabulary.variableSpace
  /-- Prefixes beside the standard ones. -/
  prefixes : Prefixes := Keyed.empty

namespace Settings

def default : Settings := {}

/-- Whether two settings are the same; the order of prefixes does not matter. -/
def agrees (first second : Settings) : Bool :=
  first.logLevel == second.logLevel && first.format == second.format &&
    first.mode == second.mode && first.variableSpace == second.variableSpace &&
    first.prefixes.agrees second.prefixes

/-- The standard prefixes with those of the settings, which may bind them anew. -/
def allPrefixes (settings : Settings) : Prefixes :=
  settings.prefixes.entries.foldl (fun known binding => known.insert binding.1 binding.2)
    Prefixes.standard

/-- The settings after the variables of an environment have been looked at. A word that denotes
nothing is passed over. -/
def override (settings : Settings) (lookup? : String → Option String) : Settings :=
  { settings with
    logLevel := ((lookup? "SWRLB_LOG_LEVEL").bind LogLevel.ofWord?).getD settings.logLevel
    format := ((lookup? "SWRLB_FORMAT").bind OutputFormat.ofWord?).getD settings.format
    mode := ((lookup? "SWRLB_MODE").bind EvaluationMode.ofWord?).getD settings.mode
    variableSpace := (lookup? "SWRLB_VARIABLE_NAMESPACE").getD settings.variableSpace }

end Settings

end RuleAtoms
