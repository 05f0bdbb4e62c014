/-
**Reports of errors.**

A report carries a code, a message for people and, if something is known about them, the
circumstances: named fields, a location and causes. Each kind of error of this library says how it
is reported.
-/

import RuleAtoms.Keyed
import RuleAtoms.Report.Code

namespace RuleAtoms

/-- The circumstances of an error. -/
structure Report.Circumstances where
  fields : Keyed String
  location? : Option String
  causes : List String

/-- An error as it is reported. -/
structure Report where
  code : Report.Code
  message : String
  circumstances? : Option Report.Circumstances
  hint? : Option String

namespace Report

def Circumstances.none : Circumstances := ⟨Keyed.empty, Option.none, []⟩

/-- Whether two circumstances say the same; the order of fields does not matter. -/
def Circumstances.agrees (first second : Circumstances) : Bool :=
  first.fields.agrees second.fields && first.location? == second.location? &&
    first.causes == second.causes

def new (code : Code) (message : String) : Report := ⟨code, message, none, none⟩

/-- Whether two reports say the same. -/
def agrees (first second : Report) : Bool :=
  first.code == second.code && first.message == second.message && first.hint? == second.hint? &&
    match first.circumstances?, second.circumstances? with
    | some left, some right => left.agrees right
    | none, none => true
    | _, _ => false

/-! ### Adding what is known -/

def withCode (report : Report) (code : Code) : Report := { report with code }

/-- The report after its circumstances have been changed; there are some from then on. -/
def amend (report : Report) (change : Circumstances → Circumstances) : Report :=
  { report with
    circumstances? := some (change (report.circumstances?.getD Circumstances.none)) }

def withField (report : Report) (key value : String) : Report :=
  report.amend fun known => { known with fields := known.fields.insert key value }

def withCause (report : Report) (cause : String) : Report :=
  report.amend fun known => { known with causes := known.causes ++ [cause] }

def withLocation (report : Report) (location : String) : Report :=
  report.amend fun known => { known with location? := some location }

def withHint (report : Report) (hint : String) : Report := { report with hint? := some hint }

/-- The value of a field of the circumstances. -/
def field? (report : Report) (key : String) : Option String :=
  report.circumstances?.bind fun known => known.fields.find? key

/-! ### Writing -/

/-- The circumstances as people read them; the fields are not shown. -/
def Circumstances.text (known : Circumstances) : String :=
  (match known.location? with
    | some location => " at " ++ location
    | Option.none => "") ++
  (if known.causes.isEmpty then ""
    else "\nCaused by:" ++ String.join (known.causes.map ("\n  - " ++ ·)))

/-- The report as people read it. -/
def text (report : Report) : String :=
  "[" ++ toString report.code.number ++ "] " ++ report.message ++
  (match report.circumstances? with
    | some known => known.text
    | none => "") ++
  (match report.hint? with
    | some hint => "\nHint: " ++ hint
    | none => "")

end Report

end RuleAtoms
