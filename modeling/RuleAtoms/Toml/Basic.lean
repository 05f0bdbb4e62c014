/-
**Values of settings documents.**

A document in TOML is a table of keys and values. Tables keep the order in which their keys were
given.
-/

import RuleAtoms.Toml.Moment
import RuleAtoms.Toml.Numeral

namespace RuleAtoms

/-- A value of a settings document. -/
inductive Toml where
  | string (value : String)
  | whole (value : Whole)
  | real (value : Toml.Real)
  | truth (value : Bool)
  | moment (value : Toml.Moment)
  | array (items : List Toml)
  | table (entries : List (String × Toml))

namespace Toml

/-- The entries of a table. -/
abbrev Entries := List (String × Toml)

/-- The key under which a moment shows its text where a table is expected. -/
def momentKey : String := "$__toml_private_datetime"

/-- The entries of a value that can stand for a table: a table or a moment. -/
def entries? : Toml → Option Entries
  | table entries => some entries
  | moment value => some [(momentKey, string (String.ofList value.text))]
  | _ => none

/-- The value of a text. -/
def text? : Toml → Option String
  | string value => some value
  | _ => none

/-- Whether a value is an array or a table without anything in it. -/
def isVacant : Toml → Bool
  | array items => items.isEmpty
  | table entries => entries.isEmpty
  | _ => false

end Toml

end RuleAtoms
