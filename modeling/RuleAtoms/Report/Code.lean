/-
**Codes of reported errors.**

A code tells what went wrong, for programs. Its number begins with the digit of its category.
-/

namespace RuleAtoms

/-- What went wrong. -/
inductive Report.Code where
  | parseError | invalidNotation | invalidXml | malformedAtom | invalidLiteral | undefinedPrefix
  | unknownBuiltin | arityMismatch | missingArgument
  | duplicateColumn | rowWidthMismatch
  | configError | configNotFound | invalidConfigSyntax
  | ioError | fileAccessDenied
deriving DecidableEq

/-- Where in the work something went wrong. -/
inductive Report.Category where
  | codec | builtin | relation | config | io
deriving DecidableEq

namespace Report

def Category.name : Category → String
  | codec => "codec"
  | builtin => "builtin"
  | relation => "relation"
  | config => "config"
  | io => "io"

namespace Code

def all : List Code :=
  [parseError, invalidNotation, invalidXml, malformedAtom, invalidLiteral, undefinedPrefix,
    unknownBuiltin, arityMismatch, missingArgument, duplicateColumn, rowWidthMismatch,
    configError, configNotFound, invalidConfigSyntax, ioError, fileAccessDenied]

def number : Code → Nat
  | parseError => 1000
  | invalidNotation => 1001
  | invalidXml => 1002
  | malformedAtom => 1003
  | invalidLiteral => 1004
  | undefinedPrefix => 1005
  | unknownBuiltin => 2001
  | arityMismatch => 2002
  | missingArgument => 2003
  | duplicateColumn => 3001
  | rowWidthMismatch => 3002
  | configError => 7000
  | configNotFound => 7001
  | invalidConfigSyntax => 7002
  | ioError => 8000
  | fileAccessDenied => 8001

/-- The name by which programs know the code. -/
def name : Code → String
  | parseError => "PARSE_ERROR"
  | invalidNotation => "INVALID_NOTATION"
  | invalidXml => "INVALID_XML"
  | malformedAtom => "MALFORMED_ATOM"
  | invalidLiteral => "INVALID_LITERAL"
  | undefinedPrefix => "UNDEFINED_PREFIX"
  | unknownBuiltin => "UNKNOWN_BUILTIN"
  | arityMismatch => "ARITY_MISMATCH"
  | missingArgument => "MISSING_ARGUMENT"
  | duplicateColumn => "DUPLICATE_COLUMN"
  | rowWidthMismatch => "ROW_WIDTH_MISMATCH"
  | configError => "CONFIG_ERROR"
  | configNotFound => "CONFIG_NOT_FOUND"
  | invalidConfigSyntax => "INVALID_CONFIG_SYNTAX"
  | ioError => "IO_ERROR"
  | fileAccessDenied => "FILE_ACCESS_DENIED"

def ofName? (name : String) : Option Code := all.find? (·.name == name)

/-- The code in a few words. -/
def description : Code → String
  | parseError => "Parse error"
  | invalidNotation => "Invalid atom notation"
  | invalidXml => "Invalid XML"
  | malformedAtom => "Malformed built-in atom"
  | invalidLiteral => "Invalid literal value"
  | undefinedPrefix => "Undefined prefix"
  | unknownBuiltin => "Unknown built-in predicate"
  | arityMismatch => "Argument count mismatch"
  | missingArgument => "Missing required argument"
  | duplicateColumn => "Duplicate column"
  | rowWidthMismatch => "Row width mismatch"
  | configError => "Configuration error"
  | configNotFound => "Configuration file not found"
  | invalidConfigSyntax => "Invalid configuration syntax"
  | ioError => "I/O error"
  | fileAccessDenied => "File access denied"

def category : Code → Category
  | parseError | invalidNotation | invalidXml | malformedAtom | invalidLiteral | undefinedPrefix =>
    .codec
  | unknownBuiltin | arityMismatch | missingArgument => .builtin
  | duplicateColumn | rowWidthMismatch => .relation
  | configError | configNotFound | invalidConfigSyntax => .config
  | ioError | fileAccessDenied => .io

/-- Whether the rule or the data is broken, rather than the surroundings. -/
def isStructural (code : Code) : Bool :=
  match code.category with
  | .codec | .builtin | .relation => true
  | .config | .io => false

/-- The status with which the command line ends. -/
def exitStatus (code : Code) : Nat :=
  match code.category with
  | .codec | .builtin | .relation => 2
  | .config => 3
  | .io => 4

end Code

end Report

end RuleAtoms
