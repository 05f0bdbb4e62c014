/-
**When an evaluation fails.**

An evaluation fails for a broken atom or for broken columns, and for nothing else. `Fault` names the
three causes, each with what has to be in order for it to be the first one found. Rows and cells are
no part of it, nor is the mode.

* `prepare_eq_ok_iff`, `prepare_eq_error_iff`: which atoms are accepted, and why others are not;
* `run_eq_error_iff_fault`: an evaluation fails exactly for its first fault, and the loop that
  carries it out has then told no event; everything else succeeds.
-/

import RuleAtoms.Proofs.Evaluation.Scan
import RuleAtoms.Proofs.Predicate.RegistryLookup

namespace RuleAtoms.Evaluation

/-- The first thing that is broken about an atom and the columns that it is evaluated over. -/
inductive Fault (registry : Registry) (atom : Atom) (columns : List String) : Error → Prop
  /-- No predicate with this IRI is registered. -/
  | unknownPredicate (unknown : ∀ spec ∈ registry.specs, spec.predicate.iri ≠ atom.predicate) :
    Fault registry atom columns (.atom (.unknownPredicate atom.predicate))
  /-- The predicate does not accept the number of arguments. -/
  | wrongCount (spec : Spec) (member : spec ∈ registry.specs)
      (named : spec.predicate.iri = atom.predicate)
      (refused : spec.predicate.arity.accepts atom.arguments.length = false) :
    Fault registry atom columns (.atom (.wrongCount spec.predicate atom.arguments.length))
  /-- A column names the same as one before it; those before it are distinct. -/
  | duplicateColumn (spec : Spec) (member : spec ∈ registry.specs)
      (named : spec.predicate.iri = atom.predicate)
      (accepted : spec.predicate.arity.accepts atom.arguments.length = true)
      (earlier later : List String) (column : String)
      (parts : columns = earlier ++ column :: later)
      (distinct : (earlier.map dropMarker).Nodup)
      (repeated : dropMarker column ∈ earlier.map dropMarker) :
    Fault registry atom columns (.table (.duplicateColumn column))

section Prepare

variable {registry : Registry} {atom : Atom} {spec : Spec}

/-- **Which atoms are accepted**: those of a registered predicate that accepts their number of
arguments. -/
theorem prepare_eq_ok_iff :
    prepare registry atom = .ok spec ↔
      registry.get? atom.predicate = some spec ∧
        spec.predicate.arity.accepts atom.arguments.length = true := by
  unfold prepare Atom.checkCount
  cases registry.get? atom.predicate with
  | none => simp
  | some other =>
    by_cases accepts : other.predicate.arity.accepts atom.arguments.length = true
    · simp only [accepts, if_true, Except.map, Except.ok.injEq, Option.some.injEq]
      exact ⟨fun same => ⟨same, same ▸ accepts⟩, And.left⟩
    · simp only [accepts, if_false, Except.map, reduceCtorEq, Option.some.injEq, false_iff]
      rintro ⟨rfl, accepted⟩
      exact accepts accepted

/-- Why an atom is not accepted. -/
theorem prepare_eq_error_iff {error : Atom.Error} :
    prepare registry atom = .error error ↔
      (registry.get? atom.predicate = none ∧ error = .unknownPredicate atom.predicate) ∨
        ∃ spec, registry.get? atom.predicate = some spec ∧
          spec.predicate.arity.accepts atom.arguments.length = false ∧
          error = .wrongCount spec.predicate atom.arguments.length := by
  unfold prepare Atom.checkCount
  cases registry.get? atom.predicate with
  | none => simp [eq_comm (b := error)]
  | some other =>
    by_cases accepts : other.predicate.arity.accepts atom.arguments.length = true
    · simp [accepts, Except.map]
    · simp [accepts, Except.map, eq_comm (b := error)]

end Prepare

section Run

variable {registry : Registry} {atom : Atom} {table : BindingTable}

/-- An evaluation fails where its atom is not accepted or its columns make no relation. -/
theorem run_eq_error_iff {mode : EvaluationMode} {error : Error} :
    run registry mode atom table = .error error ↔
      (∃ atomError, prepare registry atom = .error atomError ∧ error = .atom atomError) ∨
        ∃ spec, prepare registry atom = .ok spec ∧ ∃ tableError,
          Relation.ofColumns table.columns = .error tableError ∧ error = .table tableError := by
  cases prepared : prepare registry atom with
  | error atomError => simp [run_of_prepare_error prepared, eq_comm]
  | ok spec =>
    cases made : Relation.ofColumns table.columns with
    | error tableError => simp [run_of_columns_error prepared made, eq_comm]
    | ok empty =>
      obtain ⟨outcome, succeeds, -⟩ := exists_run mode prepared made
      simp [succeeds]

/-- **An evaluation fails exactly for its first fault.** -/
theorem run_eq_error_iff_fault {mode : EvaluationMode} {error : Error} :
    run registry mode atom table = .error error ↔ Fault registry atom table.columns error := by
  rw [run_eq_error_iff]
  constructor
  · rintro (⟨atomError, refused, rfl⟩ | ⟨spec, prepared, tableError, failed, rfl⟩)
    · rcases prepare_eq_error_iff.mp refused with ⟨unknown, rfl⟩ | ⟨spec, found, refuses, rfl⟩
      · exact .unknownPredicate (Registry.get?_eq_none_iff.mp unknown)
      · obtain ⟨member, named⟩ := Registry.get?_eq_some_iff.mp found
        exact .wrongCount spec member named refuses
    · obtain ⟨found, accepted⟩ := prepare_eq_ok_iff.mp prepared
      obtain ⟨member, named⟩ := Registry.get?_eq_some_iff.mp found
      obtain ⟨earlier, column, later, parts, distinct, repeated, rfl⟩ :=
        Relation.ofColumns_eq_error_iff.mp failed
      exact .duplicateColumn spec member named accepted earlier later column parts distinct repeated
  · intro fault
    cases fault with
    | unknownPredicate unknown =>
      exact Or.inl ⟨_, prepare_eq_error_iff.mpr
        (Or.inl ⟨Registry.get?_eq_none_iff.mpr unknown, rfl⟩), rfl⟩
    | wrongCount spec member named refused =>
      have found := Registry.get?_eq_some_iff.mpr ⟨member, named⟩
      exact Or.inl ⟨_, prepare_eq_error_iff.mpr (Or.inr ⟨spec, found, refused, rfl⟩), rfl⟩
    | duplicateColumn spec member named accepted earlier later column parts distinct repeated =>
      have found := Registry.get?_eq_some_iff.mpr ⟨member, named⟩
      exact Or.inr ⟨spec, prepare_eq_ok_iff.mpr ⟨found, accepted⟩, _,
        Relation.ofColumns_eq_error_iff.mpr
          ⟨earlier, column, later, parts, distinct, repeated, rfl⟩, rfl⟩

/-- The loop fails with the error of the evaluation, and only before it has told anything. -/
theorem course_eq_error_iff {mode : EvaluationMode} {error : Error} {told : List Event} :
    course registry mode atom table = (.error error, told) ↔
      run registry mode atom table = .error error ∧ told = [] := by
  rw [course_eq_run]
  cases run registry mode atom table with
  | error other => simp [eq_comm]
  | ok outcome => simp

/-- An evaluation succeeds exactly for an accepted atom over distinct columns. -/
theorem exists_run_iff (mode : EvaluationMode) :
    (∃ outcome, run registry mode atom table = .ok outcome) ↔
      (∃ spec ∈ registry.specs, spec.predicate.iri = atom.predicate ∧
        spec.predicate.arity.accepts atom.arguments.length = true) ∧
        (table.columns.map dropMarker).Nodup := by
  constructor
  · rintro ⟨outcome, succeeds⟩
    cases prepared : prepare registry atom with
    | error error => cases succeeds.symm.trans (run_of_prepare_error prepared)
    | ok spec =>
      obtain ⟨found, accepted⟩ := prepare_eq_ok_iff.mp prepared
      obtain ⟨member, named⟩ := Registry.get?_eq_some_iff.mp found
      refine ⟨⟨spec, member, named, accepted⟩, Relation.exists_ofColumns_iff.mp ?_⟩
      cases made : Relation.ofColumns table.columns with
      | error error => cases succeeds.symm.trans (run_of_columns_error prepared made)
      | ok empty => exact ⟨empty, rfl⟩
  · rintro ⟨⟨spec, member, named, accepted⟩, distinct⟩
    have found := Registry.get?_eq_some_iff.mpr ⟨member, named⟩
    obtain ⟨empty, made⟩ := Relation.exists_ofColumns_iff.mpr distinct
    obtain ⟨outcome, succeeds, -⟩ :=
      exists_run mode (prepare_eq_ok_iff.mpr ⟨found, accepted⟩) made
    exact ⟨outcome, succeeds⟩

/-- The code under which a fault is reported tells its cause. -/
theorem Fault.code_eq {columns : List String} {error : Error} :
    Fault registry atom columns error →
      error.report.code = match error with
        | .atom (.unknownPredicate _) => .unknownBuiltin
        | .atom _ => .arityMismatch
        | .table _ => .duplicateColumn := by
  intro fault
  cases fault with
  | unknownPredicate => rfl
  | wrongCount => rfl
  | duplicateColumn => rfl

end Run

/-- **Evaluations fail for broken atoms and broken columns only.** For any table, also one with
repeated columns, with ragged rows or without some of its cells, an evaluation fails exactly for its
first fault, and is reported under one of three codes; the loop that carries it out has then told no
event. It succeeds exactly when the atom is accepted and the columns are distinct. So what becomes of
it does not depend on the mode, the rows or the cells. -/
theorem course_error_iff_fault (registry : Registry) (mode : EvaluationMode) (atom : Atom)
    (table : BindingTable) :
    (∀ error, run registry mode atom table = .error error ↔
      Fault registry atom table.columns error) ∧
    (∀ error told, course registry mode atom table = (.error error, told) ↔
      Fault registry atom table.columns error ∧ told = []) ∧
    (∀ error, Fault registry atom table.columns error →
      error.report.code = match error with
        | .atom (.unknownPredicate _) => .unknownBuiltin
        | .atom _ => .arityMismatch
        | .table _ => .duplicateColumn) ∧
    ((∃ made told, course registry mode atom table = (.ok made, told)) ↔
      (∃ spec ∈ registry.specs, spec.predicate.iri = atom.predicate ∧
        spec.predicate.arity.accepts atom.arguments.length = true) ∧
        (table.columns.map dropMarker).Nodup) ∧
    ∀ (otherMode : EvaluationMode) (other : BindingTable), other.columns = table.columns →
      ∀ error told, course registry otherMode atom other = (.error error, told) ↔
        course registry mode atom table = (.error error, told) := by
  refine ⟨fun error => run_eq_error_iff_fault, fun error told => ?_, fun error fault => fault.code_eq,
    ?_, ?_⟩
  · rw [course_eq_error_iff, run_eq_error_iff_fault]
  · rw [← exists_run_iff mode, course_eq_run]
    cases run registry mode atom table with
    | error error => simp
    | ok outcome => simp
  · intro otherMode other sameColumns error told
    rw [course_eq_error_iff, course_eq_error_iff, run_eq_error_iff_fault, run_eq_error_iff_fault,
      sameColumns]

/-- A table with a repeated column and ragged rows. -/
def raggedTable : BindingTable :=
  .unchecked ["?X", "Y", "X"] [[some "1"], [], [some "1", none, some "2", some "3"]]

/-- Over the ragged table both modes fail for the repeated column, which is all that is wrong, and no
event is told; so they do when the table has no rows. -/
theorem course_error_raggedTable :
    Fault Registry.standard (.binary .equal (.variable ⟨"X"⟩) (.variable ⟨"Y"⟩)) raggedTable.columns
        (.table (.duplicateColumn "X")) ∧
      course Registry.standard .filter (.binary .equal (.variable ⟨"X"⟩) (.variable ⟨"Y"⟩))
        raggedTable = (.error (.table (.duplicateColumn "X")), []) ∧
      course Registry.standard .bind (.binary .equal (.variable ⟨"X"⟩) (.variable ⟨"Y"⟩))
        (.unchecked raggedTable.columns []) = (.error (.table (.duplicateColumn "X")), []) := by
  let atom : Atom := .binary .equal (.variable ⟨"X"⟩) (.variable ⟨"Y"⟩)
  obtain ⟨-, fails, -, -, independent⟩ :=
    course_error_iff_fault Registry.standard .filter atom raggedTable
  have member : (Registry.standard.get? atom.predicate).isSome := rfl
  obtain ⟨spec, found⟩ := Option.isSome_iff_exists.mp member
  obtain ⟨inSpecs, named⟩ := Registry.get?_eq_some_iff.mp found
  have isEqual : spec.predicate = .equal := Predicate.iri_injective named
  have fault : Fault Registry.standard atom raggedTable.columns
      (.table (.duplicateColumn "X")) :=
    .duplicateColumn spec inSpecs named (isEqual ▸ rfl) ["?X", "Y"] [] "X" rfl (by decide)
      (by decide)
  have failed := (fails _ []).mpr ⟨fault, rfl⟩
  exact ⟨fault, failed, (independent .bind (.unchecked raggedTable.columns []) rfl _ _).mpr failed⟩

end RuleAtoms.Evaluation
