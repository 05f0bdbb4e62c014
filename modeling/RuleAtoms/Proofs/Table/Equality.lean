/-
**Equal relations.**

Two relations are equal when they have the same columns, in whatever order, and the same rows
(`agrees_iff`), and so are the stores that keep them (`agrees_store`). But a row lists its cells in the
order of the columns. So equal relations with another order of columns read differently: what one has
under a name, the other has under the name at the same position (`cell?_eq_of_position`).

* `eq_of_readsAlike`: columns, the number of rows and what is read are all there is of a relation;
* `cell?_eq_iff_of_agrees`: which equal relations read alike under each name;
* `agrees_iff_readsAlike`: with the columns in the same order, being equal is reading alike.
-/

import Mathlib.Data.List.Nodup
import Mathlib.Data.List.Perm.Subperm
import RuleAtoms.Proofs.Table.Store

namespace RuleAtoms

/-- **Maps agree** when their entries are the same, in whatever order. -/
theorem Keyed.agrees_iff {α : Type} [BEq α] [LawfulBEq α] {first second : Keyed α} :
    first.agrees second = true ↔ first.entries.Perm second.entries := by
  unfold agrees
  simp only [Bool.and_eq_true, beq_iff_eq, List.all_eq_true, find?_eq_some_iff]
  constructor
  · rintro ⟨sameLength, found⟩
    have isPart := List.subperm_of_subset (List.Nodup.of_map _ first.distinct) found
    exact isPart.perm_of_length_le (Nat.le_of_eq sameLength.symm)
  · exact fun isPerm => ⟨isPerm.length_eq, fun _ member => isPerm.subset member⟩

/-- Two stores agree when they keep the same columns under the same names, in whatever order, and the
same rows. -/
def Store.agrees (first second : Store) : Bool :=
  first.columns.agrees second.columns && first.rows == second.rows

namespace Relation

variable {first second : Relation}

/-! ### What is compared -/

theorem agrees_iff :
    first.agrees second = true ↔ first.columns.Perm second.columns ∧ first.rows = second.rows := by
  unfold agrees
  rw [Bool.and_eq_true, List.isPerm_iff, beq_iff_eq]

/-- **Comparing stores is comparing the relations** that they keep. -/
theorem agrees_store (first second : Relation) :
    first.store.agrees second.store = first.agrees second := by
  rw [Bool.eq_iff_iff, agrees_iff]
  unfold Store.agrees
  rw [Bool.and_eq_true, Keyed.agrees_iff, beq_iff_eq, rows_store, rows_store]
  refine and_congr_left fun _ => ⟨fun isPerm => ?_, fun isPerm => isPerm.map _⟩
  have sameNames := isPerm.map Prod.snd
  rwa [← Store.names, ← Store.names, names_store, names_store] at sameNames

/-! ### Reading alike -/

/-- Two relations have the same columns in the same order, and the same cell in every row under every
name. -/
structure ReadsAlike (first second : Relation) : Prop where
  columns : first.columns = second.columns
  cells : ∀ row name, first.cell? row name = second.cell? row name

/-- **Relations that read alike** and have as many rows are the same. -/
theorem eq_of_readsAlike (alike : ReadsAlike first second)
    (sameCount : first.rows.length = second.rows.length) : first = second := by
  refine eq_of_columns_rows alike.columns (List.ext_getElem sameCount fun row inFirst inSecond => ?_)
  rw [← row_table (List.getElem?_eq_getElem inFirst), ← row_table (List.getElem?_eq_getElem inSecond)]
  unfold BindingTable.row table
  simp only [alike.columns, funext (alike.cells row)]

/-- **Being equal is reading alike** where the columns stand in the same order. -/
theorem agrees_and_columns_iff :
    (first.agrees second = true ∧ first.columns = second.columns) ↔
      ReadsAlike first second ∧ first.rows.length = second.rows.length := by
  constructor
  · rintro ⟨agree, columns⟩
    obtain rfl := eq_of_columns_rows columns (agrees_iff.mp agree).2
    exact ⟨⟨rfl, fun _ _ => rfl⟩, rfl⟩
  · rintro ⟨alike, sameCount⟩
    obtain rfl := eq_of_readsAlike alike sameCount
    exact ⟨agrees_iff.mpr ⟨.refl _, rfl⟩, rfl⟩

/-! ### Columns in another order -/

theorem columnIndex?_eq_none_iff {relation : Relation} {name : String} :
    relation.columnIndex? name = none ↔
      ∀ column ∈ relation.columns, dropMarker column ≠ dropMarker name := by
  unfold columnIndex?
  simp only [List.findIdx?_eq_none_iff, beq_eq_false_iff_ne]

/-- Nothing is read in a row that is not there. -/
theorem cell?_of_no_row {relation : Relation} {row : Nat} (noRow : relation.rows[row]? = none)
    (name : String) : relation.cell? row name = none := by
  unfold cell?
  cases relation.columnIndex? name with
  | none => rfl
  | some index => rw [Option.bind_some, noRow, Option.bind_none]

/-- **What equal relations have in common**: the cells under columns at the same position. -/
theorem cell?_eq_of_position {index : Nat} {column other : String} (sameRows : first.rows = second.rows)
    (isColumn : first.columns[index]? = some column)
    (isOther : second.columns[index]? = some other) (row : Nat) :
    first.cell? row column = second.cell? row other := by
  cases isRow : first.rows[row]? with
  | none => rw [cell?_of_no_row isRow, cell?_of_no_row (sameRows ▸ isRow)]
  | some cells =>
    rw [cell?_of_column isRow isColumn rfl, cell?_of_column (sameRows ▸ isRow) isOther rfl]

/-- Cells of a row are the same when the same is read of them. -/
theorem join_getElem?_eq_iff {cells : Row} {here there : Nat} (inHere : here < cells.length)
    (inThere : there < cells.length) :
    (cells[here]?).join = (cells[there]?).join ↔ cells[here]? = cells[there]? := by
  rw [List.getElem?_eq_getElem inHere, List.getElem?_eq_getElem inThere, Option.join_some,
    Option.join_some, Option.some_inj]

/-- **Which equal relations read alike under each name**: those in which every row has the same cell
at both positions of a column. -/
theorem cell?_eq_iff_of_agrees (agree : first.agrees second = true) :
    (∀ row name, first.cell? row name = second.cell? row name) ↔
      ∀ cells ∈ first.rows, ∀ (here there : Nat) (column : String),
        first.columns[here]? = some column → second.columns[there]? = some column →
          cells[here]? = cells[there]? := by
  obtain ⟨sameColumns, sameRows⟩ := agrees_iff.mp agree
  constructor
  · intro alike cells member here there column isHere isThere
    obtain ⟨row, isRow⟩ := List.mem_iff_getElem?.mp member
    have width := length_of_row isRow
    have inHere : here < cells.length := width ▸ (List.getElem?_eq_some_iff.mp isHere).1
    have inThere : there < cells.length :=
      width ▸ sameColumns.length_eq ▸ (List.getElem?_eq_some_iff.mp isThere).1
    have sameCell := alike row column
    rw [cell?_of_column isRow isHere rfl, cell?_of_column (sameRows ▸ isRow) isThere rfl] at sameCell
    exact (join_getElem?_eq_iff inHere inThere).mp sameCell
  · intro unmoved row name
    cases isRow : first.rows[row]? with
    | none => rw [cell?_of_no_row isRow, cell?_of_no_row (sameRows ▸ isRow)]
    | some cells =>
      cases position : first.columnIndex? name with
      | none =>
        have nowhere : second.columnIndex? name = none :=
          columnIndex?_eq_none_iff.mpr fun column member =>
            columnIndex?_eq_none_iff.mp position column (sameColumns.symm.subset member)
        unfold cell?
        rw [position, nowhere]
        rfl
      | some here =>
        obtain ⟨column, isHere, named⟩ := columnIndex?_eq_some_iff.mp position
        have inSecond := sameColumns.subset (List.mem_of_getElem? isHere)
        obtain ⟨there, isThere⟩ := List.mem_iff_getElem?.mp inSecond
        rw [cell?_of_column isRow isHere named, cell?_of_column (sameRows ▸ isRow) isThere named,
          unmoved cells (List.mem_of_getElem? isRow) here there column isHere isThere]

/-- **Equal relations read alike up to the order of their columns.** Comparing relations is comparing
the stores that keep them. With the columns in the same order, two relations are equal exactly when
they read alike and have as many rows. In whatever order the columns stand, equal relations have the
same cells under columns at the same position; and they have the same cells under each name exactly
when every row has the same cell at both positions of a column. -/
theorem agrees_iff_readsAlike (first second : Relation) :
    first.store.agrees second.store = first.agrees second ∧
      ((first.agrees second = true ∧ first.columns = second.columns) ↔
        ReadsAlike first second ∧ first.rows.length = second.rows.length) ∧
      (first.agrees second = true →
        (∀ (index : Nat) (column other : String), first.columns[index]? = some column →
          second.columns[index]? = some other → ∀ row,
            first.cell? row column = second.cell? row other) ∧
        ((∀ row name, first.cell? row name = second.cell? row name) ↔
          ∀ cells ∈ first.rows, ∀ (here there : Nat) (column : String),
            first.columns[here]? = some column → second.columns[there]? = some column →
              cells[here]? = cells[there]?)) := by
  refine ⟨agrees_store first second, agrees_and_columns_iff, fun agree => ⟨?_, ?_⟩⟩
  · intro index column other isColumn isOther row
    exact cell?_eq_of_position (agrees_iff.mp agree).2 isColumn isOther row
  · exact cell?_eq_iff_of_agrees agree

/-- A relation of two columns with different cells. -/
def twoCells : Relation := ⟨["?X", "?Y"], [[some "1", some "2"]], by decide, by decide⟩

/-- The relation with the same row under the columns in the other order. -/
def crossedCells : Relation := ⟨["?Y", "?X"], [[some "1", some "2"]], by decide, by decide⟩

/-- Equal relations whose columns stand in another order read differently. -/
theorem agrees_crossedCells :
    twoCells.agrees crossedCells = true ∧ ¬ ReadsAlike twoCells crossedCells ∧
      twoCells.cell? 0 "X" = some "1" ∧ crossedCells.cell? 0 "X" = some "2" := by
  have agree : twoCells.agrees crossedCells = true := by decide
  have inOrder : twoCells.columns ≠ crossedCells.columns := by decide
  exact ⟨agree, fun alike => inOrder alike.columns, by decide, by decide⟩

end Relation

end RuleAtoms
