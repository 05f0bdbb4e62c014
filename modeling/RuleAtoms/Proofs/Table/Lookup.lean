/-
**Finding cells in a relation.**

The columns of a relation are distinct up to their markers, so a name has at most one position, and
what a lookup by name returns is the cell at that position.

* `columnIndex?_eq_some_iff`: the position of a name is the one whose column is the name up to
  markers;
* `cell?_of_column`: a lookup by name is the cell at the position of the name;
* `row_table`: looking up all columns of a row one by one gives the row back.
-/

import RuleAtoms.Evaluation.BindingTable
import RuleAtoms.Name.Prefixes
import RuleAtoms.Proofs.Text.Occurrence

namespace RuleAtoms

/-- A name that does not begin with a marker. -/
def Unmarked (name : String) : Prop := name.toList.head? ≠ some '?'

instance (name : String) : Decidable (Unmarked name) :=
  inferInstanceAs (Decidable (name.toList.head? ≠ some '?'))

/-- Only a marker is ever dropped. -/
theorem dropMarker_of_unmarked {name : String} (unmarked : Unmarked name) :
    dropMarker name = name := by
  have noPrefix : ['?'].isPrefixOf? name.toList = none := by
    rw [Text.isPrefixOf?_eq_none_iff]
    rintro ⟨rest, text⟩
    exact unmarked (text ▸ rfl)
  unfold dropMarker Text.dropStart
  rw [noPrefix, Option.getD_none, String.ofList_toList]

/-- A name is left as it is exactly when it does not begin with a marker. -/
theorem dropMarker_eq_self_iff {name : String} : dropMarker name = name ↔ Unmarked name := by
  refine ⟨fun same marked => ?_, dropMarker_of_unmarked⟩
  obtain ⟨rest, text⟩ := List.head?_eq_some_iff.mp marked
  have shorter := congrArg (·.toList.length) same
  simp only [dropMarker, Text.dropStart, text, String.toList_ofList] at shorter
  exact absurd shorter (by simp [List.isPrefixOf?])

/-- No marker can stand in a local name. -/
theorem unmarked_of_isLocalName {name : String} (isLocal : isLocalName name = true) :
    Unmarked name := fun isMarker =>
  absurd (List.all_eq_true.mp isLocal '?' (List.mem_of_mem_head? isMarker)) (by decide)

theorem Variable.ofText_of_unmarked {name : String} (unmarked : Unmarked name) :
    Variable.ofText name = ⟨name⟩ := by
  unfold Variable.ofText
  rw [dropMarker_of_unmarked unmarked]

/-- No other character than a marker is lost. -/
theorem mem_dropMarker {name : String} {c : Char} (member : c ∈ name.toList) (other : c ≠ '?') :
    c ∈ (dropMarker name).toList := by
  unfold dropMarker Text.dropStart
  rw [String.toList_ofList]
  cases found : ['?'].isPrefixOf? name.toList with
  | none => exact member
  | some rest =>
    rw [Text.eq_append_of_isPrefixOf? found] at member
    exact (List.mem_append.mp member).resolve_left fun isMarker =>
      other (List.mem_singleton.mp isMarker)

theorem Variable.namesColumn_iff {wanted : Variable} {column : String} :
    wanted.namesColumn column = true ↔ dropMarker column = wanted.name := by
  unfold Variable.namesColumn
  rw [beq_iff_eq]

namespace Relation

variable {relation : Relation}

/-- Columns and rows are all that a relation holds. -/
theorem eq_of_columns_rows {first second : Relation} (columns : first.columns = second.columns)
    (rows : first.rows = second.rows) : first = second := by
  cases first
  cases second
  cases columns
  cases rows
  rfl

/-! ### Positions of columns -/

/-- **A column has one position**, whatever its marker. -/
theorem index_unique {first second : Nat} {column other : String}
    (isFirst : relation.columns[first]? = some column)
    (isSecond : relation.columns[second]? = some other)
    (same : dropMarker column = dropMarker other) : first = second := by
  have bound : first < (relation.columns.map dropMarker).length := by
    rw [List.length_map]
    exact (List.getElem?_eq_some_iff.mp isFirst).1
  refine (List.getElem?_inj bound relation.distinct).mp ?_
  rw [List.getElem?_map, List.getElem?_map, isFirst, isSecond, Option.map_some, Option.map_some,
    same]

theorem columnIndex?_eq_some_iff {name : String} {index : Nat} :
    relation.columnIndex? name = some index ↔
      ∃ column, relation.columns[index]? = some column ∧ dropMarker column = dropMarker name := by
  unfold columnIndex?
  rw [List.findIdx?_eq_some_iff_getElem]
  constructor
  · rintro ⟨bound, named, -⟩
    exact ⟨relation.columns[index], List.getElem?_eq_getElem bound, beq_iff_eq.mp named⟩
  · rintro ⟨column, isColumn, named⟩
    obtain ⟨bound, rfl⟩ := List.getElem?_eq_some_iff.mp isColumn
    refine ⟨bound, beq_iff_eq.mpr named, fun earlier before hit => ?_⟩
    have earlierBound : earlier < relation.columns.length := Nat.lt_trans before bound
    have samePosition := index_unique (List.getElem?_eq_getElem earlierBound) isColumn
      ((beq_iff_eq.mp hit).trans named.symm)
    omega

/-- Columns that are distinct up to markers, and from those seen before, hold no repetition. -/
theorem repeatedColumn?_eq_none {seen columns : List String}
    (distinct : (columns.map dropMarker).Nodup)
    (fresh : ∀ column ∈ columns, dropMarker column ∉ seen) :
    repeatedColumn? seen columns = none := by
  induction columns generalizing seen with
  | nil => rfl
  | cons column rest ih =>
    obtain ⟨notInRest, restDistinct⟩ := List.nodup_cons.mp distinct
    rw [repeatedColumn?, if_neg (fresh column List.mem_cons_self)]
    refine ih restDistinct fun other member seenBefore => ?_
    rcases List.mem_cons.mp seenBefore with same | inSeen
    · exact notInRest (same ▸ List.mem_map_of_mem member)
    · exact fresh other (List.mem_cons_of_mem _ member) inSeen

/-- **The columns of a relation are accepted again** as the columns of another. -/
theorem ofColumns_columns (relation : Relation) :
    ∃ empty, ofColumns relation.columns = .ok empty := by
  have noRepeat : repeatedColumn? [] relation.columns = none :=
    repeatedColumn?_eq_none relation.distinct fun _ _ => List.not_mem_nil
  unfold ofColumns
  split
  · rename_i column found
    exact nomatch noRepeat.symm.trans found
  · exact ⟨_, rfl⟩

/-! ### Cells -/

/-- **A lookup by name is the cell at the position of the name.** -/
theorem cell?_of_column {row index : Nat} {name column : String} {cells : Row}
    (isRow : relation.rows[row]? = some cells) (isColumn : relation.columns[index]? = some column)
    (named : dropMarker column = dropMarker name) :
    relation.cell? row name = (cells[index]?).join := by
  unfold cell?
  rw [columnIndex?_eq_some_iff.mpr ⟨column, isColumn, named⟩, Option.bind_some, isRow,
    Option.bind_some]

theorem length_of_row {row : Nat} {cells : Row} (isRow : relation.rows[row]? = some cells) :
    cells.length = relation.columns.length :=
  relation.rectangular cells (List.mem_of_getElem? isRow)

/-- **Looking up all columns of a row gives the row back.** -/
theorem row_table {row : Nat} {cells : Row} (isRow : relation.rows[row]? = some cells) :
    relation.table.row row = cells := by
  have width := length_of_row isRow
  refine List.ext_getElem (by simp [BindingTable.row, table, width]) fun index inRow inCells => ?_
  have inColumns : index < relation.columns.length := width ▸ inCells
  have found := cell?_of_column isRow (List.getElem?_eq_getElem inColumns) rfl
  rw [List.getElem?_eq_getElem inCells, Option.join_some] at found
  simpa [BindingTable.row, table] using found

/-- A token found under a name stands at a position of the name. -/
theorem cell?_eq_some_iff {row : Nat} {name token : String} {cells : Row}
    (isRow : relation.rows[row]? = some cells) :
    relation.cell? row name = some token ↔
      ∃ (index : Nat) (column : String), relation.columns[index]? = some column ∧
        dropMarker column = dropMarker name ∧ cells[index]? = some (some token) := by
  constructor
  · intro found
    cases position : relation.columnIndex? name with
    | none => simp [cell?, position] at found
    | some index =>
      obtain ⟨column, isColumn, named⟩ := columnIndex?_eq_some_iff.mp position
      rw [cell?_of_column isRow isColumn named] at found
      exact ⟨index, column, isColumn, named, Option.join_eq_some_iff.mp found⟩
  · rintro ⟨index, column, isColumn, named, isCell⟩
    rw [cell?_of_column isRow isColumn named, isCell, Option.join_some]

/-- A variable names a column of a relation exactly when its name has a position. -/
theorem hasVariable_table_iff {wanted : Variable} :
    relation.table.hasVariable wanted = true ↔
      ∃ (index : Nat) (column : String), relation.columns[index]? = some column ∧
        wanted.namesColumn column = true := by
  unfold BindingTable.hasVariable
  rw [List.any_eq_true]
  constructor
  · rintro ⟨column, member, named⟩
    obtain ⟨index, isColumn⟩ := List.mem_iff_getElem?.mp member
    exact ⟨index, column, isColumn, named⟩
  · rintro ⟨index, column, isColumn, named⟩
    exact ⟨column, List.mem_of_getElem? isColumn, named⟩

end Relation

end RuleAtoms
