/-
**Reports in JSON.**

Circumstances, hint and everything inside the circumstances are left out when there is nothing to
say. Reading takes an array of the parts in place of an object, like any record, and a code either
by its name or as an object with that name as the only key and null as its value.
-/

import RuleAtoms.Json.Fields
import RuleAtoms.Json.Reader
import RuleAtoms.Report.Basic

namespace RuleAtoms.Report

/-- An entry for a part that may be missing. -/
def optionalEntry (name : String) : Option Json → List (Option String × Json)
  | some value => [(some name, value)]
  | none => []

def Circumstances.toJson (known : Circumstances) : Json :=
  .object
    (optionalEntry "fields"
        (if known.fields.entries.isEmpty then Option.none
          else some (.object (known.fields.entries.map fun (key, value) =>
            (some key, Json.string value)))) ++
      optionalEntry "location" (known.location?.map .string) ++
      optionalEntry "causes"
        (if known.causes.isEmpty then Option.none
          else some (.array (known.causes.map Json.string))))

def toJson (report : Report) : Json :=
  .object
    ([(some "code", .string report.code.name), (some "message", .string report.message)] ++
      optionalEntry "context" (report.circumstances?.map Circumstances.toJson) ++
      optionalEntry "hint" (report.hint?.map .string))

/-- The report as JSON text without blanks. -/
def jsonText (report : Report) : String := String.ofList report.toJson.compact

/-! ### Reading -/

/-- An entry whose key and value are both texts. -/
def textEntry? (entry : Option String × Json) : Option (String × String) :=
  match entry with
  | (some key, .string value) => some (key, value)
  | _ => none

/-- The entries of an object all of whose values are texts. Of a repeated key the last one counts. -/
def fieldsOfJson? : Json → Option (Keyed String)
  | .object entries => (entries.mapM textEntry?).map Keyed.ofList
  | _ => none

def codeOfJson? : Json → Option Code
  | .string name => Code.ofName? name
  | .object [(some name, .null)] => Code.ofName? name
  | _ => none

def textsOfJson? (value : Json) : Option (List String) := value.items?.bind (·.mapM Json.text?)

def Circumstances.ofJson? (value : Json) : Option Circumstances :=
  match value.fields? ["fields", "location", "causes"] with
  | some [fields?, location?, causes?] => do
    let fields ← Json.orDefault? fieldsOfJson? Keyed.empty fields?
    let location ← Json.orDefault? (Json.nullable? Json.text?) Option.none location?
    let causes ← Json.orDefault? textsOfJson? [] causes?
    some ⟨fields, location, causes⟩
  | _ => Option.none

def ofJson? (value : Json) : Option Report :=
  match value.fields? ["code", "message", "context", "hint"] with
  | some [code?, message?, circumstances?, hint?] => do
    let code ← Json.required? codeOfJson? code?
    let message ← Json.required? Json.text? message?
    let circumstances ←
      Json.orDefault? (Json.nullable? Circumstances.ofJson?) none circumstances?
    let hint ← Json.orDefault? (Json.nullable? Json.text?) none hint?
    some ⟨code, message, circumstances, hint⟩
  | _ => none

/-- The report that a JSON text holds. -/
def ofJsonText? (text : String) : Option Report := (Json.read? text).bind ofJson?

end RuleAtoms.Report
