/-
**Records in JSON.**

A record with fixed fields is an object; keys that are not fields are ignored, whatever they hold,
but a field may not be repeated. An array of the field values, in the order of the fields, stands
for the record too, and may leave out fields at its end.
-/

import RuleAtoms.Json.Basic

namespace RuleAtoms.Json

/-- The value of a text. -/
def text? : Json → Option String
  | string text => some text
  | _ => none

/-- The items of an array. -/
def items? : Json → Option (List Json)
  | array items => some items
  | _ => none

/-- A value that may be null. -/
def nullable? {α : Type} (read? : Json → Option α) : Json → Option (Option α)
  | null => some none
  | value => (read? value).map some

/-- What an object holds for a field: `none` if the field is repeated. -/
def field? (entries : List (Option String × Json)) (name : String) : Option (Option Json) :=
  match entries.filter (·.1 == some name) with
  | [] => some none
  | [(_, value)] => some (some value)
  | _ => none

/-- The values of a record's fields, each present or absent. -/
def fields? (names : List String) : Json → Option (List (Option Json))
  | object entries =>
    if entries.all (·.1.isSome) then names.mapM (field? entries) else none
  | array items =>
    if items.length ≤ names.length then
      some (items.map some ++ List.replicate (names.length - items.length) none)
    else none
  | _ => none

/-- A field that has to be present. -/
def required? {α : Type} (read? : Json → Option α) (value? : Option Json) : Option α :=
  value?.bind read?

/-- A field that has a default. -/
def orDefault? {α : Type} (read? : Json → Option α) (default : α) : Option Json → Option α
  | some value => read? value
  | none => some default

end RuleAtoms.Json
