/-
**Putting tables together.**

A document lists bindings of keys and headers of tables, and each of them may name a place deep
inside: `a.b.c = 1` and `[a.b.c]` make the tables `a` and `b` as they go. How a table came about
decides who may add to it:

* a table with a header of its own is complete with the bindings below that header;
* a table that only stood on the way of a header may still get a header of its own;
* a table that stood on the way of a key belongs to the keys of that one section.
-/

import RuleAtoms.Toml.Basic

namespace RuleAtoms.Toml

/-- How a table came about. -/
inductive Origin where
  /-- It has a header of its own. -/
  | header
  /-- It stood on the way of a header. -/
  | passage
  /-- It stood on the way of a key. -/
  | key
deriving DecidableEq

/-- A part of a document that is being put together. -/
inductive Node where
  | value (value : Toml)
  | table (origin : Origin) (entries : List (String × Node))
  /-- Tables under one header that is repeated, the last one at the end. -/
  | tables (earlier : List (List (String × Node))) (last : List (String × Node))

/-- The entries of a table that is being put together. -/
abbrev Nodes := List (String × Node)

/-! ### The finished value -/

mutual

def Node.toToml : Node → Toml
  | .value value => value
  | .table _ entries => .table (finishEntries entries)
  | .tables earlier last => .array (finishTables earlier ++ [.table (finishEntries last)])

def finishEntries : List (String × Node) → Entries
  | [] => []
  | (key, node) :: rest => (key, node.toToml) :: finishEntries rest

def finishTables : List (List (String × Node)) → List Toml
  | [] => []
  | entries :: rest => .table (finishEntries entries) :: finishTables rest

end

/-! ### Changing a part -/

/-- The entries after what a key holds has been changed, if it can be. A key that is new comes
last. -/
def update? (key : String) (change : Option Node → Option Node) : Nodes → Option Nodes
  | [] => (change none).map fun node => [(key, node)]
  | (other, node) :: rest =>
    if other == key then (change (some node)).map fun changed => (other, changed) :: rest
    else (update? key change rest).map ((other, node) :: ·)

/-- The entries after a change at the end of a path of a header. -/
def alongHeader? (change : Nodes → Option Nodes) : List String → Nodes → Option Nodes
  | [], entries => change entries
  | key :: path, entries =>
    entries |> update? key fun
      | none => (alongHeader? change path []).map (.table .passage)
      | some (.table origin inner) => (alongHeader? change path inner).map (.table origin)
      | some (.tables earlier last) => (alongHeader? change path last).map (.tables earlier)
      | some (.value _) => none

/-- The entries after a change in a table that stands on the way of a key. The table at the end of
the way must have come about like that too. -/
def alongKey? (change : Nodes → Option Nodes) : List String → Nodes → Option Nodes
  | [], entries => change entries
  | key :: path, entries =>
    entries |> update? key fun
      | none => (alongKey? change path []).map (.table .key)
      | some (.table .key inner) => (alongKey? change path inner).map (.table .key)
      | some (.table .passage inner) =>
        if path.isEmpty then none else (alongKey? change path inner).map (.table .passage)
      | some (.tables earlier last) =>
        if path.isEmpty then none else (alongKey? change path last).map (.tables earlier)
      | some (.table .header _) | some (.value _) => none

/-! ### Bindings and sections -/

/-- A key, with the keys on the way to it, and its value. -/
structure Binding where
  path : List String
  key : String
  value : Toml

/-- Adds a binding to the entries of a table; its key must be new. -/
def Binding.add? (entries : Nodes) (binding : Binding) : Option Nodes :=
  alongKey?
    (update? binding.key fun
      | none => some (.value binding.value)
      | some _ => none)
    binding.path entries

def addBindings? (entries : Nodes) (bindings : List Binding) : Option Nodes :=
  bindings.foldlM Binding.add? entries

/-- The table that bindings alone make. -/
def ofBindings? (bindings : List Binding) : Option Entries :=
  (addBindings? [] bindings).map finishEntries

/-- A header, with the keys on the way to its table, and the bindings below it. -/
structure Section where
  path : List String
  key : String
  /-- Whether the header adds one more table to a list of them. -/
  repeated : Bool
  bindings : List Binding

/-- The table of a section: a new one, or one that has only been passed so far. -/
def Section.table? (content : Section) : Option Node → Option Node
  | none => (addBindings? [] content.bindings).map (.table .header)
  | some (.table .passage inner) => (addBindings? inner content.bindings).map (.table .header)
  | some _ => none

/-- The tables under a repeated header, with the one of a section added. -/
def Section.tables? (content : Section) : Option Node → Option Node
  | none => (addBindings? [] content.bindings).map (.tables [])
  | some (.tables earlier last) =>
    (addBindings? [] content.bindings).map (.tables (earlier ++ [last]))
  | some _ => none

/-- Adds a section to the entries of a document. -/
def Section.add? (entries : Nodes) (content : Section) : Option Nodes :=
  alongHeader?
    (update? content.key (if content.repeated then content.tables? else content.table?))
    content.path entries

/-- A document: bindings above the first header, and sections. -/
structure Document where
  bindings : List Binding
  sections : List Section

/-- The table that a document describes, if its parts fit together. -/
def Document.entries? (document : Document) : Option Entries :=
  (addBindings? [] document.bindings).bind fun entries =>
    (document.sections.foldlM Section.add? entries).map finishEntries

end RuleAtoms.Toml
