/-
**Which column a variable is read from.**

A variable is kept without the marker of its text, and so are the columns when it is asked whether
it names one. A lookup by name drops a marker as well, also one that the name of the variable still
has. So a variable that was written with two markers names one column and is read from another.

* `resolvesAs_ofText_name`: what a variable is read as, in whatever relation;
* `forall_resolvesAs_self_iff`: it is read as itself in all relations exactly when its name bears no
  marker;
* `resolution_ofText`: the same by the text of the variable.
-/

import RuleAtoms.Proofs.Evaluation.Values

namespace RuleAtoms

/-! ### Names of variables -/

theorem dropMarker_marked (name : String) : dropMarker ("?" ++ name) = name := by
  simp [dropMarker, Text.dropStart, List.isPrefixOf?]

/-- **The name of a variable bears a marker when its text begins with two.** -/
theorem unmarked_ofText_iff {text : String} :
    Unmarked (Variable.ofText text).name ↔ ¬ ['?', '?'] <+: text.toList := by
  by_cases marked : Unmarked text
  · have noPrefix : ¬ ['?', '?'] <+: text.toList := by
      rintro ⟨rest, isText⟩
      exact marked (isText ▸ rfl)
    refine iff_of_true ?_ noPrefix
    unfold Variable.ofText
    rwa [dropMarker_of_unmarked marked]
  · obtain ⟨rest, isText⟩ := List.head?_eq_some_iff.mp (not_not.mp marked)
    have isName : (Variable.ofText text).name.toList = rest := by
      simp [Variable.ofText, dropMarker, Text.dropStart, isText, List.isPrefixOf?]
    unfold Unmarked
    rw [isName, isText, List.cons_prefix_cons, and_iff_right rfl, not_iff_not,
      List.head?_eq_some_iff]
    exact exists_congr fun later => eq_comm

namespace Evaluation

/-- A variable is read from the column that a variable names: as the cell of it in each row, and as
nothing in every row if there is no such column. -/
structure ResolvesAs (relation : Relation) (wanted named : Variable) : Prop where
  present : ∀ {row index : Nat} {cells : Row} {column : String},
    relation.rows[row]? = some cells → relation.columns[index]? = some column →
      named.namesColumn column = true →
        resolve? relation.table row (.variable wanted) = (cells[index]?).join.map .ofToken
  absent : relation.table.hasVariable named = false →
    ∀ row, resolve? relation.table row (.variable wanted) = none

/-- **A variable is read from the column of its name without a marker.** -/
theorem resolvesAs_ofText_name (relation : Relation) (wanted : Variable) :
    ResolvesAs relation wanted (.ofText wanted.name) where
  present := by
    intro row index cells column isRow isColumn named
    change (relation.cell? row wanted.name).map _ = _
    rw [Relation.cell?_of_column isRow isColumn (Variable.namesColumn_iff.mp named)]
  absent := by
    intro noColumn row
    have noIndex : relation.columnIndex? wanted.name = none := by
      rw [Option.eq_none_iff_forall_ne_some]
      intro index found
      obtain ⟨column, isColumn, named⟩ := Relation.columnIndex?_eq_some_iff.mp found
      have hasColumn : relation.table.hasVariable (.ofText wanted.name) = true :=
        Relation.hasVariable_table_iff.mpr
          ⟨index, column, isColumn, Variable.namesColumn_iff.mpr named⟩
      exact Bool.false_ne_true (noColumn.symm.trans hasColumn)
    change ((relation.columnIndex? wanted.name).bind _).map _ = _
    rw [noIndex]
    rfl

/-- The relation with one column and one row of one cell. -/
def singleCell (column token : String) : Relation :=
  ⟨[column], [[some token]], by simp, fun _ member => by rw [List.mem_singleton.mp member]; rfl⟩

/-- **A variable is read as itself exactly when its name bears no marker.** One with a marker is not
read from a column that differs from it in just another marker. -/
theorem forall_resolvesAs_self_iff {wanted : Variable} :
    (∀ relation, ResolvesAs relation wanted wanted) ↔ Unmarked wanted.name := by
  constructor
  · intro readAsItself
    by_contra marked
    have changes : dropMarker wanted.name ≠ wanted.name := mt dropMarker_eq_self_iff.mp marked
    let relation := singleCell ("?" ++ wanted.name) ""
    have named : wanted.namesColumn ("?" ++ wanted.name) = true :=
      Variable.namesColumn_iff.mpr (dropMarker_marked wanted.name)
    have isRow : relation.rows[0]? = some [some ""] := rfl
    have isColumn : relation.columns[0]? = some ("?" ++ wanted.name) := rfl
    have found : resolve? relation.table 0 (.variable wanted) = some (.ofToken "") :=
      (readAsItself relation).present isRow isColumn named
    have notNamed : relation.table.hasVariable (.ofText wanted.name) = false := by
      rw [Bool.eq_false_iff]
      intro hasColumn
      obtain ⟨column, member, isNamed⟩ := List.any_eq_true.mp hasColumn
      rw [List.mem_singleton.mp member, Variable.namesColumn_iff, dropMarker_marked] at isNamed
      exact changes isNamed.symm
    cases found.symm.trans ((resolvesAs_ofText_name relation wanted).absent notNamed 0)
  · intro unmarked relation
    have same : Variable.ofText wanted.name = wanted :=
      congrArg Variable.mk (dropMarker_of_unmarked unmarked)
    have readAsName := resolvesAs_ofText_name relation wanted
    rwa [same] at readAsName

/-- **Where a variable is read from, by its text.** It is read from the column of its name without a
marker. In all relations this is the column that the variable names, exactly when its text does not
begin with two markers. -/
theorem resolution_ofText (text : String) :
    (∀ relation : Relation, relation.table.hasVariable (.ofText text) = true ↔
        ∃ column ∈ relation.columns, (Variable.ofText text).namesColumn column = true) ∧
      (∀ relation, ResolvesAs relation (.ofText text) (.ofText (Variable.ofText text).name)) ∧
      ((∀ relation, ResolvesAs relation (.ofText text) (.ofText text)) ↔
        ¬ ['?', '?'] <+: text.toList) :=
  ⟨fun _ => List.any_eq_true, fun relation => resolvesAs_ofText_name relation _,
    forall_resolvesAs_self_iff.trans unmarked_ofText_iff⟩

/-- A variable with two markers names the first of these columns, but is read from the second. -/
theorem resolve?_twoMarkers :
    let wanted := Variable.ofText "??X"
    let relation : Relation :=
      ⟨["??X", "X"], [[some "1", some "2"]], by decide,
        fun _ member => by rw [List.mem_singleton.mp member]; rfl⟩
    wanted.namesColumn "??X" = true ∧ relation.table.hasVariable wanted = true ∧
      resolve? relation.table 0 (.variable wanted) = some (.plain "2") ∧
      Literal.ofToken "1" = .plain "1" := by
  decide

end Evaluation

end RuleAtoms
