/-
**Atoms that are checked when they are made, and when they are evaluated.**

An atom may be made by `named`, which takes any name of a predicate and checks the number of arguments,
or by a factory, which checks nothing; an evaluation takes the full IRI only, and checks again. All
agree on which atoms there are.

* `build_missing`, `build_present`: a missing argument is found before the count is looked at;
* `named_eq_ok_iff`: which atoms are made;
* `FactoryMade.accepts`: a factory makes an atom that would pass the check;
* `named_eq_prepare`: making an atom is preparing its evaluation, unless its name is abbreviated;
* `named_evaluable`: **what is made is evaluated, and what is evaluated could have been made**.
-/

import RuleAtoms.Proofs.Evaluation.Faults
import RuleAtoms.Proofs.Evaluation.Filter
import RuleAtoms.Proofs.Predicate.Registration

namespace RuleAtoms

/-! ### All predicates -/

namespace Registry

variable {predicate : Predicate} {name iri : String}

theorem mem_predicates_standard (predicate : Predicate) :
    predicate ∈ standard.specs.map Spec.predicate := by
  unfold standard
  rw [predicates_ofSpecs, List.mem_eraseDups]
  cases predicate <;> decide

/-- **Each name of a predicate finds it** among all predicates, and no other name does. -/
theorem exists_lookup?_standard_iff :
    (∃ spec, standard.lookup? name = some spec ∧ spec.predicate = predicate) ↔
      predicate.HasName name := by
  simp only [lookup?_eq_some_iff]
  constructor
  · rintro ⟨spec, ⟨-, named⟩, rfl⟩
    exact named
  · intro named
    obtain ⟨spec, member, rfl⟩ := List.mem_map.mp (mem_predicates_standard predicate)
    exact ⟨spec, ⟨member, named⟩, rfl⟩

theorem exists_get?_standard_iff :
    (∃ spec, standard.get? iri = some spec ∧ spec.predicate = predicate) ↔
      iri = predicate.iri := by
  simp only [get?_eq_some_iff]
  constructor
  · rintro ⟨spec, ⟨-, rfl⟩, rfl⟩
    rfl
  · rintro rfl
    obtain ⟨spec, member, rfl⟩ := List.mem_map.mp (mem_predicates_standard predicate)
    exact ⟨spec, ⟨member, rfl⟩, rfl⟩

end Registry

namespace Atom

variable {predicate : Predicate} {name : String} {arguments : List Argument} {atom : Atom}
  {error : Error}

/-! ### Making atoms -/

theorem presentArguments_missing (predicate : Predicate) (position : Nat) (present : List Argument)
    (later : List (Option Argument)) :
    presentArguments predicate position (present.map some ++ none :: later) =
      .error (.missingArgument predicate (position + present.length)) := by
  induction present generalizing position with
  | nil => rfl
  | cons argument present ih =>
    rw [List.map_cons, List.cons_append, presentArguments, ih, List.length_cons, Nat.add_right_comm]
    rfl

theorem presentArguments_present (predicate : Predicate) (position : Nat)
    (present : List Argument) :
    presentArguments predicate position (present.map some) = .ok present := by
  induction present generalizing position with
  | nil => rfl
  | cons argument present ih =>
    rw [List.map_cons, presentArguments, ih]
    rfl

/-- **The first missing argument is reported**, however many arguments there are. -/
theorem build_missing (predicate : Predicate) (present : List Argument)
    (later : List (Option Argument)) :
    build predicate (present.map some ++ none :: later) =
      .error (.missingArgument predicate present.length) := by
  unfold build
  rw [presentArguments_missing, Nat.zero_add]
  rfl

/-- When no argument is missing, the count decides. -/
theorem build_present (predicate : Predicate) (present : List Argument) :
    build predicate (present.map some) =
      if predicate.arity.accepts present.length then .ok (ofPredicate predicate present)
      else .error (.wrongCount predicate present.length) := by
  unfold build checkCount
  rw [presentArguments_present]
  show Except.map _ (if _ then _ else _) = _
  split <;> rfl

theorem named_of_hasName (named : predicate.HasName name) (arguments : List Argument) :
    Atom.named name arguments = build predicate (arguments.map some) := by
  obtain ⟨spec, found, rfl⟩ := Registry.exists_lookup?_standard_iff.mpr named
  unfold Atom.named
  rw [found]

theorem named_of_unknown (unknown : ∀ predicate : Predicate, ¬ predicate.HasName name)
    (arguments : List Argument) : Atom.named name arguments = .error (.unknownPredicate name) := by
  unfold Atom.named
  cases found : Registry.standard.lookup? name with
  | none => rfl
  | some spec => exact absurd (Registry.exists_lookup?_standard_iff.mp ⟨spec, found, rfl⟩) (unknown _)

/-- **Which atoms are made**: those of a predicate that has the name and accepts the count. -/
theorem named_eq_ok_iff : Atom.named name arguments = .ok atom ↔
    ∃ predicate : Predicate, predicate.HasName name ∧
      predicate.arity.accepts arguments.length = true ∧ atom = ⟨predicate.iri, arguments⟩ := by
  constructor
  · intro made
    by_cases known : ∃ predicate : Predicate, predicate.HasName name
    · obtain ⟨predicate, named⟩ := known
      rw [named_of_hasName named, build_present] at made
      split at made
      · rename_i accepted
        exact ⟨predicate, named, accepted, (Except.ok.inj made).symm⟩
      · cases made
    · rw [named_of_unknown (not_exists.mp known)] at made
      cases made
  · rintro ⟨predicate, named, accepted, rfl⟩
    rw [named_of_hasName named, build_present, if_pos accepted]
    rfl

/-! ### Factories -/

/-- The predicates whose factory takes two arguments. -/
def binaryPredicates : List Predicate :=
  [.abs, .equal, .notEqual, .lessThan, .lessThanOrEqual, .greaterThan, .greaterThanOrEqual,
    .stringLength, .upperCase, .lowerCase, .contains, .startsWith, .endsWith]

/-- The predicates whose factory takes three arguments. -/
def ternaryPredicates : List Predicate :=
  [.mod, .substringBefore, .substringAfter, .subtract, .add, .multiply]

/-- What the factory of a predicate makes. -/
inductive FactoryMade : Predicate → Atom → Prop
  | binary (predicate : Predicate) (isBinary : predicate ∈ binaryPredicates)
      (first second : Argument) : FactoryMade predicate (.binary predicate first second)
  | ternary (predicate : Predicate) (isTernary : predicate ∈ ternaryPredicates)
      (result first second : Argument) : FactoryMade predicate (.ternary predicate result first second)
  | substring (result text start : Argument) (length? : Option Argument) :
      FactoryMade .substring (.substring result text start length?)
  | stringConcat (result : Argument) (parts : List Argument) :
      FactoryMade .stringConcat (.stringConcat result parts)

/-- **A factory makes an atom of its predicate**, with a number of arguments that the predicate
accepts. -/
theorem FactoryMade.accepts (made : FactoryMade predicate atom) :
    atom.predicate = predicate.iri ∧
      predicate.arity.accepts atom.arguments.length = true := by
  cases made with
  | binary _ isBinary first second =>
    have takesTwo : ∀ predicate ∈ binaryPredicates, predicate.arity.accepts 2 = true := by decide
    exact ⟨rfl, takesTwo predicate isBinary⟩
  | ternary _ isTernary result first second =>
    have takesThree : ∀ predicate ∈ ternaryPredicates, predicate.arity.accepts 3 = true := by decide
    exact ⟨rfl, takesThree predicate isTernary⟩
  | substring result text start length? => cases length? <;> exact ⟨rfl, rfl⟩
  | stringConcat result parts =>
    exact ⟨rfl, decide_eq_true (Nat.succ_le_succ (Nat.zero_le parts.length))⟩

/-- There is a factory for every predicate. -/
theorem exists_factoryMade (predicate : Predicate) : ∃ atom, FactoryMade predicate atom := by
  let argument : Argument := .literal (.plain "")
  by_cases isBinary : predicate ∈ binaryPredicates
  · exact ⟨_, .binary predicate isBinary argument argument⟩
  · by_cases isTernary : predicate ∈ ternaryPredicates
    · exact ⟨_, .ternary predicate isTernary argument argument argument⟩
    · cases predicate with
      | substring => exact ⟨_, .substring argument argument argument none⟩
      | stringConcat => exact ⟨_, .stringConcat argument []⟩
      | _ => exact absurd (by decide) (not_or.mpr ⟨isBinary, isTernary⟩)

end Atom

/-! ### Making and evaluating -/

namespace Evaluation

variable {registry : Registry} {relation : Relation} {mode : EvaluationMode} {atom : Atom}
  {name : String} {arguments : List Argument}

/-- Over a relation, an evaluation fails only for its atom. -/
theorem run_relation_eq_error_iff {failure : Error} :
    run registry mode atom relation.table = .error failure ↔
      ∃ error, prepare registry atom = .error error ∧ failure = .atom error := by
  rw [run_eq_error_iff, or_iff_left]
  rintro ⟨spec, -, tableError, failed, -⟩
  obtain ⟨empty, made⟩ := relation.ofColumns_columns
  exact nomatch made.symm.trans failed

theorem exists_run_relation_iff :
    (∃ outcome, run registry mode atom relation.table = .ok outcome) ↔
      ∃ spec, prepare registry atom = .ok spec := by
  cases prepared : prepare registry atom with
  | error error => simp [run_of_prepare_error prepared]
  | ok spec =>
    obtain ⟨empty, made⟩ : ∃ empty, Relation.ofColumns relation.table.columns = .ok empty :=
      relation.ofColumns_columns
    obtain ⟨outcome, succeeds, -⟩ := exists_run mode prepared made
    exact iff_of_true ⟨outcome, succeeds⟩ ⟨spec, rfl⟩

/-- A name is one of the two short names of a predicate. -/
def IsAbbreviation (name : String) : Prop :=
  ∃ predicate : Predicate, name = predicate.shortName ∨ name = predicate.localName

theorem not_isAbbreviation_iri (predicate : Predicate) : ¬ IsAbbreviation predicate.iri := by
  rintro ⟨other, isShort | isLocal⟩
  · exact predicate.iri_ne_shortName other isShort
  · exact predicate.iri_ne_localName other isLocal

/-- **Making an atom is preparing its evaluation**, unless its name is abbreviated. -/
theorem named_eq_prepare (inFull : ¬ IsAbbreviation name) (arguments : List Argument) :
    Atom.named name arguments =
      (prepare .standard ⟨name, arguments⟩).map fun _ => ⟨name, arguments⟩ := by
  have sameEntry : Registry.standard.lookup? name = Registry.standard.get? name := by
    refine Option.ext fun spec => ?_
    rw [Registry.lookup?_eq_some_iff, Registry.get?_eq_some_iff, eq_comm (b := name)]
    refine and_congr_right fun _ => or_iff_left fun isShort => inFull ⟨spec.predicate, isShort⟩
  unfold Atom.named prepare
  rw [sameEntry]
  cases found : Registry.standard.get? name with
  | none => rfl
  | some spec =>
    obtain ⟨-, rfl⟩ := Registry.get?_eq_some_iff.mp found
    show Atom.build spec.predicate (arguments.map some) = _
    rw [Atom.build_present]
    simp only [Atom.checkCount]
    split <;> rfl

/-- What is made is evaluated. -/
theorem exists_run_of_named (made : Atom.named name arguments = .ok atom) (mode : EvaluationMode)
    (relation : Relation) : ∃ outcome, run .standard mode atom relation.table = .ok outcome := by
  obtain ⟨predicate, -, accepted, rfl⟩ := Atom.named_eq_ok_iff.mp made
  obtain ⟨spec, found, rfl⟩ := Registry.exists_get?_standard_iff.mpr (rfl : predicate.iri = _)
  exact exists_run_relation_iff.mpr ⟨spec, prepare_eq_ok_iff.mpr ⟨found, accepted⟩⟩

/-- What is evaluated is made from its own predicate and arguments. -/
theorem named_of_run {outcome : Outcome}
    (succeeds : run .standard mode ⟨name, arguments⟩ relation.table = .ok outcome) :
    Atom.named name arguments = .ok ⟨name, arguments⟩ := by
  obtain ⟨spec, prepared⟩ := exists_run_relation_iff.mp ⟨outcome, succeeds⟩
  obtain ⟨found, -⟩ := prepare_eq_ok_iff.mp prepared
  have isIri : spec.predicate.iri = name := (Registry.get?_eq_some_iff.mp found).2
  have inFull : ¬ IsAbbreviation name := isIri ▸ not_isAbbreviation_iri spec.predicate
  rw [named_eq_prepare inFull, prepared]
  rfl

/-- What is not made is not evaluated, for the same reason, unless its name is abbreviated. -/
theorem run_eq_error_of_named {error : Atom.Error}
    (failed : Atom.named name arguments = .error error) (inFull : ¬ IsAbbreviation name)
    (mode : EvaluationMode) (relation : Relation) :
    run .standard mode ⟨name, arguments⟩ relation.table = .error (.atom error) := by
  rw [named_eq_prepare inFull] at failed
  cases prepared : prepare .standard ⟨name, arguments⟩ with
  | error other =>
    rw [prepared] at failed
    cases failed
    exact run_relation_eq_error_iff.mpr ⟨error, prepared, rfl⟩
  | ok spec =>
    rw [prepared] at failed
    cases failed

/-- **What is made can be evaluated, and what can be evaluated could have been made.** From any name
and any arguments an atom is made exactly when the name is one of a predicate that accepts their
number; it has the full IRI of the predicate and these arguments, and is evaluated over every relation
in both modes. An atom that is evaluated over some relation in some mode is the one that is made from
its predicate and arguments. Where none is made, and the name is not abbreviated, the evaluation over
any relation fails with the same report. Each predicate has a factory, and what a factory makes is
made from every name of the predicate too. When arguments may be missing, the first missing one is
reported whatever their number, which is looked at only when none is missing. -/
theorem named_evaluable :
    (∀ name arguments atom, Atom.named name arguments = .ok atom ↔
      ∃ predicate : Predicate, predicate.HasName name ∧
        predicate.arity.accepts arguments.length = true ∧ atom = ⟨predicate.iri, arguments⟩) ∧
    (∀ name arguments atom, Atom.named name arguments = .ok atom →
      ∀ mode (relation : Relation),
        ∃ outcome, run .standard mode atom relation.table = .ok outcome) ∧
    (∀ name arguments mode (relation : Relation) outcome,
      run .standard mode ⟨name, arguments⟩ relation.table = .ok outcome →
        Atom.named name arguments = .ok ⟨name, arguments⟩) ∧
    (∀ name arguments error, Atom.named name arguments = .error error → ¬ IsAbbreviation name →
      ∀ mode (relation : Relation),
        ∃ failure, run .standard mode ⟨name, arguments⟩ relation.table = .error failure ∧
          failure.report = error.report) ∧
    ((∀ predicate, ∃ atom, Atom.FactoryMade predicate atom) ∧
      ∀ predicate atom, Atom.FactoryMade predicate atom → ∀ name, predicate.HasName name →
        Atom.named name atom.arguments = .ok atom) ∧
    ((∀ predicate (present : List Argument) later,
        Atom.build predicate (present.map some ++ none :: later) =
          .error (.missingArgument predicate present.length)) ∧
      ∀ predicate (present : List Argument), Atom.build predicate (present.map some) =
        if predicate.arity.accepts present.length then .ok ⟨predicate.iri, present⟩
        else .error (.wrongCount predicate present.length)) := by
  refine ⟨fun name arguments atom => Atom.named_eq_ok_iff,
    fun name arguments atom made => exists_run_of_named made,
    fun name arguments mode relation outcome => named_of_run, ?_, ⟨Atom.exists_factoryMade, ?_⟩,
    Atom.build_missing, Atom.build_present⟩
  · intro name arguments error failed inFull mode relation
    exact ⟨.atom error, run_eq_error_of_named failed inFull mode relation, rfl⟩
  · intro predicate atom made name named
    obtain ⟨isIri, accepted⟩ := made.accepts
    exact Atom.named_eq_ok_iff.mpr ⟨predicate, named, accepted, by rw [← isIri]⟩

/-- The remainder of two columns is made from its short name as by its factory, and is evaluated; with
no arguments it is neither made nor evaluated. -/
theorem named_evaluable_remainder :
    Atom.FactoryMade .mod remainderAtom ∧
      Atom.named "swrlb:mod" remainderAtom.arguments = .ok remainderAtom ∧
      (∃ outcome, run .standard .bind remainderAtom remainders.table = .ok outcome) ∧
      Atom.named remainderAtom.predicate remainderAtom.arguments = .ok remainderAtom ∧
      ¬ IsAbbreviation Predicate.mod.iri ∧
      Atom.named Predicate.mod.iri [] = .error (.wrongCount .mod 0) ∧
      ∃ failure, run .standard .filter ⟨Predicate.mod.iri, []⟩ remainders.table = .error failure ∧
        failure.report = Report.wrongCount "swrlb:mod" "exactly 3" 0 := by
  obtain ⟨-, evaluates, made, fails, ⟨-, factories⟩, -, counted⟩ := named_evaluable
  have fromFactory : Atom.FactoryMade .mod remainderAtom := .ternary .mod (by decide) _ _ _
  have fromName : Atom.named "swrlb:mod" remainderAtom.arguments = .ok remainderAtom :=
    factories .mod remainderAtom fromFactory "swrlb:mod" (Or.inr (Or.inl rfl))
  obtain ⟨outcome, succeeds⟩ := evaluates _ _ _ fromName .bind remainders
  have inFull := not_isAbbreviation_iri .mod
  have refused : Atom.named Predicate.mod.iri [] = .error (.wrongCount .mod 0) :=
    (Atom.named_of_hasName (Or.inl rfl) []).trans (counted .mod [])
  exact ⟨fromFactory, fromName, ⟨outcome, succeeds⟩, made _ _ .bind remainders outcome succeeds, inFull,
    refused, fails _ _ _ refused inFull .filter remainders⟩

end Evaluation

end RuleAtoms
