/-
**What a row says about an atom.**

An evaluation reads a row through lookups by name, one row number and one argument at a time. Here
the same is said of the cells of a row alone: the values of arguments (`HasValue`), a row that
satisfies an atom (`Satisfies`), and a row whose absent result can be computed (`Fills`).

* `resolveAll?_eq_some_iff`: resolving arguments in a row finds exactly their values in its cells;
* `check_eq_ok_iff`: a row passes the check exactly when it satisfies the atom;
* `computeCell_eq_ok_iff`: what is computed for an absent result.
-/

import Mathlib.Data.List.Forall2
import RuleAtoms.Evaluation.Run
import RuleAtoms.Proofs.Table.Lookup

namespace RuleAtoms

/-- The literal that an argument stands for in a row under the given columns: a literal stands for
itself, a variable for what the token in a column of its name reads as. -/
inductive Argument.HasValue (columns : List String) (cells : Row) : Argument → Literal → Prop
  | literal (value : Literal) : HasValue columns cells (.literal value) value
  | variable (wanted : Variable) (index : Nat) (column token : String)
      (isColumn : columns[index]? = some column) (named : wanted.namesColumn column = true)
      (present : cells[index]? = some (some token)) :
      HasValue columns cells (.variable wanted) (.ofToken token)

/-- An argument has at most one value in a row of a relation. -/
theorem Argument.HasValue.unique {relation : Relation} {cells : Row} {argument : Argument}
    {value other : Literal}
    (first : argument.HasValue relation.columns cells value)
    (second : argument.HasValue relation.columns cells other) : value = other := by
  cases first with
  | literal value =>
    cases second with
    | literal _ => rfl
  | «variable» wanted index column token isColumn named present =>
    cases second with
    | «variable» _ index' column' token' isColumn' named' present' =>
      have same := Relation.index_unique isColumn isColumn'
        ((Variable.namesColumn_iff.mp named).trans (Variable.namesColumn_iff.mp named').symm)
      rw [same, present'] at present
      rw [Option.some.inj (Option.some.inj present)]

namespace Evaluation

/-- A row satisfies an atom: every argument has a value, and the predicate holds for these. -/
def Satisfies (columns : List String) (meaning : Meaning) (arguments : List Argument)
    (cells : Row) : Prop :=
  ∃ values, List.Forall₂ (Argument.HasValue columns cells) arguments values ∧
    meaning.holds values = true

/-- A row lacks just the result of a function: the first argument is a variable whose cell, at this
index, is absent, the other arguments have values, and the function computes an outcome from them,
which makes this literal. -/
inductive Fills (columns : List String) (cells : Row) :
    Meaning → List Argument → Nat → Literal → Prop
  | intro (compute? : List Literal → Option RuleAtoms.Outcome) (result : Variable)
      (operands : List Argument) (index : Nat) (column : String) (values : List Literal)
      (outcome : RuleAtoms.Outcome)
      (isColumn : columns[index]? = some column) (named : result.namesColumn column = true)
      (absent : cells[index]? = some none)
      (read : List.Forall₂ (Argument.HasValue columns cells) operands values)
      (computed : compute? values = some outcome) :
      Fills columns cells (.function compute?) (.variable result :: operands) index
        (outcome.toLiteral values.head?)

/-! ### Values -/

section Values

variable {relation : Relation} {row : Nat} {cells : Row}

theorem mem_variableList {atom : Atom} {wanted : Variable} :
    wanted ∈ atom.variableList ↔ Argument.variable wanted ∈ atom.arguments := by
  unfold Atom.variableList
  rw [List.mem_filterMap]
  constructor
  · rintro ⟨argument, member, isVariable⟩
    cases argument with
    | «variable» value => exact Option.some.inj isVariable ▸ member
    | literal value => cases isVariable
  · exact fun member => ⟨.variable wanted, member, rfl⟩

/-- If each item of a list is related to something, the list is related to some list, item by
item. -/
theorem exists_forall₂ {source target : Type} {related : source → target → Prop}
    {sources : List source} (each : ∀ item ∈ sources, ∃ value, related item value) :
    ∃ values, List.Forall₂ related sources values := by
  induction sources with
  | nil => exact ⟨[], .nil⟩
  | cons item rest ih =>
    obtain ⟨value, isValue⟩ := each item List.mem_cons_self
    obtain ⟨values, areValues⟩ := ih fun other member => each other (List.mem_cons_of_mem _ member)
    exact ⟨value :: values, .cons isValue areValues⟩

theorem values_unique {arguments : List Argument} {values others : List Literal}
    (first : List.Forall₂ (Argument.HasValue relation.columns cells) arguments values)
    (second : List.Forall₂ (Argument.HasValue relation.columns cells) arguments others) :
    values = others := by
  have oneValue : Relator.RightUnique (Argument.HasValue relation.columns cells) :=
    fun _ _ _ => Argument.HasValue.unique
  exact List.right_unique_forall₂' oneValue first second

/-- A variable that is read with others names a column. -/
theorem hasVariable_of_values {arguments : List Argument} {values : List Literal}
    {wanted : Variable}
    (read : List.Forall₂ (Argument.HasValue relation.columns cells) arguments values)
    (member : Argument.variable wanted ∈ arguments) :
    relation.table.hasVariable wanted = true := by
  induction read with
  | nil => cases member
  | cons isValue _ ih =>
    rcases List.mem_cons.mp member with rfl | inRest
    · cases isValue with
      | «variable» _ index column token isColumn named present =>
        exact Relation.hasVariable_table_iff.mpr ⟨index, column, isColumn, named⟩
    · exact ih inRest

/-- A variable finds the cell of the column that it names, as long as it bears no marker itself. -/
theorem cell?_variable {wanted : Variable} {index : Nat} {column : String}
    (isRow : relation.rows[row]? = some cells) (unmarked : Unmarked wanted.name)
    (isColumn : relation.columns[index]? = some column)
    (named : wanted.namesColumn column = true) :
    relation.table.cell? row wanted.name = (cells[index]?).join := by
  refine Relation.cell?_of_column isRow isColumn ?_
  rw [dropMarker_of_unmarked unmarked, Variable.namesColumn_iff.mp named]

theorem resolve?_eq_some_iff {argument : Argument} {value : Literal}
    (isRow : relation.rows[row]? = some cells)
    (unmarked : ∀ wanted, argument = .variable wanted → Unmarked wanted.name) :
    resolve? relation.table row argument = some value ↔
      argument.HasValue relation.columns cells value := by
  cases argument with
  | literal other =>
    constructor
    · intro resolved
      rw [← Option.some.inj resolved]
      exact .literal other
    · rintro ⟨⟩
      rfl
  | «variable» wanted =>
    have plain := dropMarker_of_unmarked (unmarked wanted rfl)
    unfold resolve?
    rw [Option.map_eq_some_iff]
    constructor
    · rintro ⟨token, found, rfl⟩
      obtain ⟨index, column, isColumn, named, present⟩ :=
        (Relation.cell?_eq_some_iff isRow).mp found
      exact .variable wanted index column token isColumn
        (Variable.namesColumn_iff.mpr (named.trans plain)) present
    · intro isValue
      cases isValue with
      | «variable» _ index column token isColumn named present =>
        refine ⟨token, ?_, rfl⟩
        rw [cell?_variable isRow (unmarked wanted rfl) isColumn named, present, Option.join_some]

/-- **Resolving arguments finds exactly their values in the row.** -/
theorem resolveAll?_eq_some_iff {arguments : List Argument} {values : List Literal}
    (isRow : relation.rows[row]? = some cells)
    (unmarked : ∀ wanted, Argument.variable wanted ∈ arguments → Unmarked wanted.name) :
    resolveAll? relation.table row arguments = some values ↔
      List.Forall₂ (Argument.HasValue relation.columns cells) arguments values := by
  induction arguments generalizing values with
  | nil =>
    rw [List.forall₂_nil_left_iff]
    exact ⟨fun resolved => (Option.some.inj resolved).symm, fun isNil => by rw [isNil]; rfl⟩
  | cons argument rest ih =>
    have restUnmarked : ∀ wanted, Argument.variable wanted ∈ rest → Unmarked wanted.name :=
      fun wanted member => unmarked wanted (List.mem_cons_of_mem _ member)
    have headUnmarked : ∀ wanted, argument = .variable wanted → Unmarked wanted.name :=
      fun wanted same => unmarked wanted (same ▸ List.mem_cons_self)
    rw [List.forall₂_cons_left_iff]
    unfold resolveAll? at ih ⊢
    rw [List.mapM_cons]
    constructor
    · intro resolved
      obtain ⟨value, isValue, others⟩ := Option.bind_eq_some_iff.mp resolved
      obtain ⟨tail, isTail, same⟩ := Option.bind_eq_some_iff.mp others
      exact ⟨value, tail, (resolve?_eq_some_iff isRow headUnmarked).mp isValue,
        (ih restUnmarked).mp isTail, (Option.some.inj same).symm⟩
    · rintro ⟨value, tail, isValue, isTail, rfl⟩
      rw [(resolve?_eq_some_iff isRow headUnmarked).mpr isValue, (ih restUnmarked).mpr isTail]
      rfl

end Values

/-! ### Verdicts -/

section Verdicts

variable {relation : Relation} {row : Nat} {cells : Row} {arguments : List Argument}

/-- A function holds for a result when it has an outcome that agrees with the result. -/
theorem holds_function_iff {compute? : List Literal → Option RuleAtoms.Outcome} {result : Literal}
    {operands : List Literal} :
    (Meaning.function compute?).holds (result :: operands) = true ↔
      ∃ outcome, compute? operands = some outcome ∧ outcome.agrees result = true :=
  Option.any_eq_true _ _

/-- A row in which the values of all arguments are known satisfies the atom when the predicate holds
for these. -/
theorem satisfies_iff_holds {meaning : Meaning} {values : List Literal}
    (read : List.Forall₂ (Argument.HasValue relation.columns cells) arguments values) :
    Satisfies relation.columns meaning arguments cells ↔ meaning.holds values = true := by
  constructor
  · rintro ⟨others, othersRead, holds⟩
    rwa [values_unique read othersRead]
  · exact fun holds => ⟨values, read, holds⟩

/-- **A row passes the check exactly when it satisfies the atom.** -/
theorem check_eq_ok_iff {meaning : Meaning} (isRow : relation.rows[row]? = some cells)
    (unmarked : ∀ wanted, Argument.variable wanted ∈ arguments → Unmarked wanted.name) :
    check relation.table meaning arguments row = .ok () ↔
      Satisfies relation.columns meaning arguments cells := by
  unfold check Satisfies
  constructor
  · intro passed
    split at passed
    · cases passed
    · rename_i values resolved
      split at passed
      · rename_i holds
        exact ⟨values, (resolveAll?_eq_some_iff isRow unmarked).mp resolved, holds⟩
      · cases passed
  · rintro ⟨values, read, holds⟩
    rw [(resolveAll?_eq_some_iff isRow unmarked).mpr read]
    exact if_pos holds

/-- What is computed for a result: the operands have values, and the function has an outcome. -/
theorem computeCell_eq_ok_iff {target : Target} {written : Literal}
    (isRow : relation.rows[row]? = some cells)
    (unmarked : ∀ wanted, Argument.variable wanted ∈ arguments → Unmarked wanted.name) :
    computeCell relation.table target arguments row = .ok written ↔
      ∃ values outcome, List.Forall₂ (Argument.HasValue relation.columns cells) arguments values ∧
        target.compute? values = some outcome ∧ written = outcome.toLiteral values.head? := by
  unfold computeCell
  constructor
  · intro made
    split at made
    · cases made
    · rename_i values resolved
      split at made
      · cases made
      · rename_i outcome computed
        exact ⟨values, outcome, (resolveAll?_eq_some_iff isRow unmarked).mp resolved, computed,
          (Except.ok.inj made).symm⟩
  · rintro ⟨values, outcome, read, computed, rfl⟩
    rw [(resolveAll?_eq_some_iff isRow unmarked).mpr read]
    simp only [computed]

end Verdicts

end Evaluation

end RuleAtoms
