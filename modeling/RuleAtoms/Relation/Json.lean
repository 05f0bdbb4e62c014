/-
**Relations in JSON.**

A record with the column names and the rows; an absent cell is null. The rows may be left out.
-/

import RuleAtoms.Json.Fields
import RuleAtoms.Json.Reader
import RuleAtoms.Relation.Basic

namespace RuleAtoms.Relation

/-- Why a JSON text is no relation. -/
inductive JsonError where
  | malformed
  | invalid (error : Relation.Error)
deriving DecidableEq

def JsonError.report : JsonError → Report
  | malformed => (Report.new .parseError "The text is not the JSON of a relation").withField
      "format" "JSON"
  | invalid error => error.report

/-! ### Writing -/

def cellToJson : Option String → Json
  | some token => .string token
  | none => .null

def toJson (relation : Relation) : Json :=
  .object
    [(some "columns", .array (relation.columns.map .string)),
     (some "rows", .array (relation.rows.map fun row => .array (row.map cellToJson)))]

/-- The relation as JSON on several lines. -/
def jsonText (relation : Relation) : String := String.ofList relation.toJson.pretty

/-! ### Reading -/

def rowOfJson? (value : Json) : Option Row :=
  value.items?.bind (·.mapM (Json.nullable? Json.text?))

def rowsOfJson? (value : Json) : Option (List Row) := value.items?.bind (·.mapM rowOfJson?)

def columnsOfJson? (value : Json) : Option (List String) := value.items?.bind (·.mapM Json.text?)

/-- The columns and rows that a JSON value lists, of whatever widths. -/
def partsOfJson? (value : Json) : Option (List String × List Row) :=
  match value.fields? ["columns", "rows"] with
  | some [columns?, rows?] =>
    (Json.required? columnsOfJson? columns?).bind fun columns =>
      (Json.orDefault? rowsOfJson? [] rows?).map fun rows => (columns, rows)
  | _ => none

/-- The relation that a JSON text holds. -/
def ofJsonText (text : String) : Except JsonError Relation :=
  match (Json.read? text).bind partsOfJson? with
  | some (columns, rows) =>
    match ofRows columns rows with
    | .ok relation => .ok relation
    | .error error => .error (.invalid error)
  | none => .error .malformed

end RuleAtoms.Relation
