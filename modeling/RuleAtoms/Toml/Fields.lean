/-
**Records in settings documents.**

A record with fixed fields is a table; keys that are not fields are ignored, whatever they hold. An
array of the field values, in the order of the fields, stands for the record too; it may leave out
fields at its end, and values behind the last field are ignored.
-/

import RuleAtoms.Toml.Basic

namespace RuleAtoms.Toml

/-- The value of a key, if there is one. -/
def lookup? (entries : Entries) (key : String) : Option Toml :=
  (entries.find? (·.1 == key)).map Prod.snd

/-- The values of a record's fields, each present or absent. -/
def fields? (names : List String) : Toml → Option (List (Option Toml))
  | array items =>
    some ((items.map some ++ List.replicate names.length none).take names.length)
  | value => value.entries?.map fun entries => names.map (lookup? entries)

/-- A field that has a default. -/
def orDefault? {α : Type} (read? : Toml → Option α) (default : α) : Option Toml → Option α
  | some value => read? value
  | none => some default

/-- A choice among named things: its name, or a table with nothing but the name as the key of
something vacant. -/
def choice? {α : Type} (ofName? : String → Option α) : Toml → Option α
  | string name => ofName? name
  | table [(name, value)] => if value.isVacant then ofName? name else none
  | _ => none

/-- Texts under keys, in the order of the keys. -/
def texts? (value : Toml) : Option (List (String × String)) :=
  value.entries?.bind (·.mapM fun entry => entry.2.text?.map (entry.1, ·))

end RuleAtoms.Toml
