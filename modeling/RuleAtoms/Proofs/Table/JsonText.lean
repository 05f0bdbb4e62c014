/-
**Relations in JSON read back.**

The JSON of a relation lists its columns as they are spelled and its rows. An absent cell is null and
an empty one a text, so they are told apart. Of the columns and rows that are read, the checks for
repeated columns and for the widths of rows find nothing wrong, since those of a relation pass them.

* `partsOfJson?_toJson`: the columns and rows of a relation are those that its JSON lists;
* `ofJsonText_jsonText`: the JSON text of a relation makes this relation, and the same holds of the
  store that keeps it.
-/

import RuleAtoms.Proofs.Json.RoundTrip
import RuleAtoms.Proofs.Table.Operations

namespace RuleAtoms

/-- The columns of a store, spelled as they were given, and its rows as a JSON text. -/
def Store.jsonText (store : Store) : String :=
  String.ofList <| Json.pretty <| .object
    [(some "columns", .array (store.names.map .string)),
     (some "rows", .array (store.rows.map fun row => .array (row.map Relation.cellToJson)))]

namespace Relation

/-! ### Values -/

/-- What is read of each of a list's entries, as it was written, is the list. -/
theorem mapM_map_eq_some {α β : Type} (write : α → β) {read? : β → Option α}
    (undoes : ∀ entry, read? (write entry) = some entry) (list : List α) :
    (list.map write).mapM read? = some list := by
  induction list with
  | nil => rfl
  | cons entry rest ih =>
    rw [List.map_cons, List.mapM_cons, undoes, ih]
    rfl

theorem nullable?_cellToJson (cell : Option String) :
    Json.nullable? Json.text? (cellToJson cell) = some cell := by
  cases cell <;> rfl

/-- A row as it is written. -/
def rowToJson (row : Row) : Json := .array (row.map cellToJson)

theorem rowOfJson?_rowToJson (row : Row) : rowOfJson? (rowToJson row) = some row :=
  mapM_map_eq_some cellToJson nullable?_cellToJson row

/-- **The columns and rows of a relation** are those that its JSON lists. -/
theorem partsOfJson?_toJson (relation : Relation) :
    partsOfJson? relation.toJson = some (relation.columns, relation.rows) := by
  have columns : columnsOfJson? (.array (relation.columns.map .string)) = some relation.columns :=
    mapM_map_eq_some Json.string (fun _ => rfl) relation.columns
  have rows : rowsOfJson? (.array (relation.rows.map rowToJson)) = some relation.rows :=
    mapM_map_eq_some rowToJson rowOfJson?_rowToJson relation.rows
  change (columnsOfJson? (.array (relation.columns.map .string))).bind _ = _
  rw [columns]
  change (rowsOfJson? (.array (relation.rows.map rowToJson))).map _ = _
  rw [rows]
  rfl

theorem areNumberless_map {α : Type} (write : α → Json)
    (numberless : ∀ entry, (write entry).isNumberless = true) (list : List α) :
    Json.areNumberless (list.map write) = true := by
  induction list with
  | nil => rfl
  | cons entry rest ih => rw [List.map_cons, Json.areNumberless, numberless, ih, Bool.and_self]

/-- There are only texts and nulls in the JSON of a relation. -/
theorem isNumberless_toJson (relation : Relation) : relation.toJson.isNumberless = true := by
  have cell : ∀ cell, (cellToJson cell).isNumberless = true := fun cell => by cases cell <;> rfl
  have row : ∀ row, (rowToJson row).isNumberless = true := areNumberless_map cellToJson cell
  have columns : Json.areNumberless (relation.columns.map .string) = true :=
    areNumberless_map Json.string (fun _ => rfl) relation.columns
  have rows : Json.areNumberless (relation.rows.map rowToJson) = true :=
    areNumberless_map rowToJson row relation.rows
  change (Json.areNumberless (relation.columns.map .string) &&
    (Json.areNumberless (relation.rows.map rowToJson) && true)) = true
  rw [columns, rows]
  rfl

/-! ### Texts -/

/-- The JSON text of a relation lists its columns and rows. -/
theorem parts_jsonText (relation : Relation) :
    (Json.read? relation.jsonText).bind partsOfJson? = some (relation.columns, relation.rows) := by
  rw [jsonText, Json.read?_pretty relation.isNumberless_toJson, Option.bind_some,
    partsOfJson?_toJson]

theorem ofRows_columns_rows (relation : Relation) :
    ofRows relation.columns relation.rows = .ok relation :=
  ofRows_eq_ok_iff.mpr ⟨⟨relation.distinct, relation.rectangular⟩, rfl, rfl⟩

/-- The store of a relation is written as the relation is. -/
theorem jsonText_store (relation : Relation) : relation.store.jsonText = relation.jsonText := by
  unfold Store.jsonText
  rw [names_store, rows_store]
  rfl

/-- **Relations read back.** The JSON text of a relation makes the relation with the same columns,
spelled the same and in the same order, and the same rows, absent and empty cells told apart. The
store that keeps the relation is written with the same text, and whatever a store held before, it is
made the store of this relation when the text is read into it. -/
theorem ofJsonText_jsonText (relation : Relation) :
    ofJsonText relation.jsonText = .ok relation ∧
      relation.store.jsonText = relation.jsonText ∧
      ∀ store : Store,
        store.perform (.fromJson relation.store.jsonText) = (.ok (), relation.store) := by
  refine ⟨?_, relation.jsonText_store, fun store => ?_⟩
  · unfold ofJsonText
    rw [parts_jsonText]
    dsimp only
    rw [ofRows_columns_rows]
  · rw [Store.perform, Store.operate, jsonText_store, parts_jsonText, Store.ofParts, Store.ofRows_eq,
      ofRows_columns_rows]
    exact Store.after_replace_ok store relation.store

/-- Quotes, backslashes and control characters are escaped, absent and empty cells told apart. -/
example :
    jsonText ⟨["?a\"", "b\n\x01\\"], [[none, some ""]], by decide, by decide⟩ =
      "\x7b\n  \"columns\": [\n    \"?a\\\"\",\n    \"b\\n\\u0001\\\\\"\n  ],\n" ++
        "  \"rows\": [\n    [\n      null,\n      \"\"\n    ]\n  ]\n\x7d" := by
  decide +kernel

end Relation

end RuleAtoms
