/-
**Filter mode row by row.**

`run_filter_eq_filter`: evaluating an atom in filter mode over a relation keeps its columns and, in
order and unchanged, exactly the rows that satisfy the atom. Whether a row satisfies it is said of
its cells alone (`Satisfies`), so nothing depends on the order of the evaluation, nor on its
stopping early when a variable names no column.
-/

import RuleAtoms.Proofs.Evaluation.Rows
import RuleAtoms.Proofs.Table.Positions

namespace RuleAtoms.Evaluation

open Classical in
/-- In filter mode a row that satisfies the atom comes out as it is, and no other comes out. -/
theorem rowResult?_filter {relation : Relation} {meaning : Meaning} {atom : Atom} {row : Nat}
    {cells : Row} (isRow : relation.rows[row]? = some cells)
    (unmarked : ∀ wanted ∈ atom.variableList, Unmarked wanted.name) :
    rowResult? relation .filter meaning atom row =
      if Satisfies relation.columns meaning atom.arguments cells then some cells else none := by
  ext out
  rw [rowResult?_eq_some_iff isRow unmarked]
  constructor
  · rintro (⟨satisfies, rfl⟩ | ⟨isBind, -⟩)
    · rw [if_pos satisfies]
    · cases isBind
  · intro kept
    split at kept
    · rename_i satisfies
      exact Or.inl ⟨satisfies, (Option.some.inj kept).symm⟩
    · cases kept

open Classical in
/-- **What comes out in filter mode** are the rows that satisfy the atom. -/
theorem filterMap_rowResult?_filter {relation : Relation} {meaning : Meaning} {atom : Atom}
    (unmarked : ∀ wanted ∈ atom.variableList, Unmarked wanted.name) :
    (List.range relation.rows.length).filterMap (rowResult? relation .filter meaning atom) =
      relation.rows.filter (Satisfies relation.columns meaning atom.arguments ·) := by
  refine Positions.filterMap_range_eq_filter fun row cells isRow => ?_
  rw [rowResult?_filter isRow unmarked]
  simp only [decide_eq_true_eq]

open Classical in
/-- **Filter mode keeps exactly the rows that satisfy the atom**, in order and unchanged. What the
evaluation keeps when it may stop early is also what it keeps when it looks at every row. -/
theorem run_filter_eq_filter {registry : Registry} {atom : Atom} {spec : Spec}
    (relation : Relation)
    (registered : registry.get? atom.predicate = some spec)
    (accepted : spec.predicate.arity.accepts atom.arguments.length = true)
    (unmarked : ∀ wanted ∈ atom.variableList, Unmarked wanted.name) :
    ∃ outcome, run registry .filter atom relation.table = .ok outcome ∧
      outcome.relation.columns = relation.columns ∧
      outcome.relation.rows =
        relation.rows.filter (Satisfies relation.columns spec.meaning atom.arguments ·) ∧
      outcome.relation.rows = keptRows (scanVerdicts spec .filter atom relation.table) := by
  obtain ⟨outcome, succeeds, sameColumns, sameRows⟩ :=
    run_table relation .filter registered accepted unmarked
  refine ⟨outcome, succeeds, sameColumns, ?_, ?_⟩
  · rw [sameRows, filterMap_rowResult?_filter unmarked]
  · rw [sameRows, keptRows_scanVerdicts]

/-- Remainders: a right one, one that is absent, a wrong one, an absent one of an absent operand,
and an absent one of an operand that is no number. -/
def remainders : Relation where
  columns := ["?R", "A", "?B"]
  rows :=
    [[some "3^^int", some "13^^int", some "5^^int"], [none, some "13^^int", some "5^^int"],
      [some "4^^int", some "13^^int", some "5^^int"], [none, some "13^^int", none],
      [none, some "x", some "5^^int"]]
  distinct := by decide
  rectangular := by decide

def remainderAtom : Atom :=
  .ternary .mod (.variable ⟨"R"⟩) (.variable ⟨"A"⟩) (.variable ⟨"B"⟩)

def remainderSpec : Spec :=
  .ofNumbers .mod "mod(r, a, b) means r = a mod b (truncating remainder)" Arithmetic.remainder?

/-- Of the remainders, filter mode keeps the right one. -/
theorem run_filter_remainders :
    Registry.standard.get? remainderAtom.predicate = some remainderSpec ∧
      remainderSpec.predicate.arity.accepts remainderAtom.arguments.length = true ∧
      (∀ wanted ∈ remainderAtom.variableList, Unmarked wanted.name) ∧
      ∃ outcome, run Registry.standard .filter remainderAtom remainders.table = .ok outcome ∧
        outcome.relation.columns = ["?R", "A", "?B"] ∧
        outcome.relation.rows = [[some "3^^int", some "13^^int", some "5^^int"]] := by
  have registered : Registry.standard.get? remainderAtom.predicate = some remainderSpec := rfl
  have accepted :
      remainderSpec.predicate.arity.accepts remainderAtom.arguments.length = true := by decide
  have unmarked : ∀ wanted ∈ remainderAtom.variableList, Unmarked wanted.name := by decide
  obtain ⟨outcome, succeeds, columns, -, scanned⟩ :=
    run_filter_eq_filter remainders registered accepted unmarked
  have rows : keptRows (scanVerdicts remainderSpec .filter remainderAtom remainders.table) =
      [[some "3^^int", some "13^^int", some "5^^int"]] := by decide
  exact ⟨registered, accepted, unmarked, outcome, succeeds, columns, scanned.trans rows⟩

end RuleAtoms.Evaluation
