/-
**What the events of an evaluation say.**

The events of an evaluation account for the rows of its table, whatever table it is: between one
start and one completion there is one event for each row, in order, which says whether the row was
kept or why it was left out. Here all of this is said without the evaluation: by the arguments that
have to be read in a row (`toRead`), by what they resolve to, and by the cells that a row comes out
with (`ComesFrom`).

* `evaluateRow_of_fillable`, `evaluateRow_of_not_fillable`: the verdict on a row, according to whether
  an absent result has to be computed in it;
* `rowEvents_account`: the events of a run of rows account for them;
* `run_events_account`: so do the events of an evaluation, and of the loop that carries it out.
-/

import RuleAtoms.Proofs.Evaluation.Faults
import RuleAtoms.Proofs.Evaluation.Filter

namespace RuleAtoms.Evaluation

/-! ### What a row is about -/

/-- In this row the absent result of a function has to be computed. -/
structure Fillable (mode : EvaluationMode) (meaning : Meaning) (atom : Atom) (table : BindingTable)
    (row : Nat) (compute? : List Literal → Option RuleAtoms.Outcome) (result : Variable)
    (operands : List Argument) : Prop where
  isBind : mode = .bind
  isFunction : meaning = .function compute?
  arguments : atom.arguments = .variable result :: operands
  hasColumn : table.hasVariable result = true
  absent : table.cell? row result.name = none

/-- The arguments that have to be read in a row: the operands alone where an absent result has to be
computed, all of them elsewhere. -/
def toRead (mode : EvaluationMode) (meaning : Meaning) (atom : Atom) (table : BindingTable)
    (row : Nat) : List Argument :=
  match mode, meaning, atom.arguments with
  | .bind, .function _, .variable result :: operands =>
    if table.hasVariable result && (table.cell? row result.name).isNone then operands
    else .variable result :: operands
  | _, _, arguments => arguments

/-- The cells that come out of a row: those of the table where the predicate holds, and where the
absent result of a function has been computed, those of the table but for the column of the result,
which holds the token. -/
inductive ComesFrom (mode : EvaluationMode) (meaning : Meaning) (atom : Atom)
    (table : BindingTable) (row : Nat) : Row → Prop
  | unchanged (values : List Literal)
      (complete : ∀ compute? result operands,
        ¬ Fillable mode meaning atom table row compute? result operands)
      (read : resolveAll? table row atom.arguments = some values)
      (holds : meaning.holds values = true) :
      ComesFrom mode meaning atom table row (table.columns.map (table.cell? row))
  | filled (compute? : List Literal → Option RuleAtoms.Outcome) (result : Variable)
      (operands : List Argument) (values : List Literal) (outcome : RuleAtoms.Outcome)
      (fillable : Fillable mode meaning atom table row compute? result operands)
      (read : resolveAll? table row operands = some values)
      (computed : compute? values = some outcome) :
      ComesFrom mode meaning atom table row (table.columns.map fun column =>
        if dropMarker column = dropMarker result.name then
          some (outcome.toLiteral values.head?).token
        else table.cell? row column)

/-- The number of a row that is kept. -/
def Event.keptRow? : Event → Option Nat
  | .kept row => some row
  | _ => none

/-- The events about the rows of a table account for the rows that are made of them. -/
structure Accounts (mode : EvaluationMode) (meaning : Meaning) (atom : Atom) (table : BindingTable)
    (made : List Row) (rowEvents : List Event) : Prop where
  /-- Without a column for each variable no row is looked at. -/
  nothing : (∃ wanted ∈ atom.variableList, table.hasVariable wanted = false) → rowEvents = []
  /-- With one, there is an event for each row. -/
  count : (∀ wanted ∈ atom.variableList, table.hasVariable wanted = true) →
    rowEvents.length = table.rowCount
  /-- Each event is about the row in its place. -/
  inOrder : ∀ (row : Nat) (event : Event), rowEvents[row]? = some event →
    event = .kept row ∨ ∃ reason, event = .excluded row reason
  /-- A row is unbound exactly when something that has to be read in it does not resolve. -/
  unbound : ∀ row reason, .excluded row reason ∈ rowEvents →
    (reason = .unbound ↔
      ∃ argument ∈ toRead mode meaning atom table row, resolve? table row argument = none)
  /-- The kept rows are the sources of the rows that are made, in order. -/
  sources : ∃ source : Fin made.length → Fin table.rowCount, StrictMono source ∧
    (rowEvents.filterMap Event.keptRow? = List.ofFn fun place => (source place).val) ∧
    ∀ place, ComesFrom mode meaning atom table (source place) (made.get place)

section Rows

variable {mode : EvaluationMode} {meaning : Meaning} {atom : Atom} {table : BindingTable}
  {row : Nat} {compute? : List Literal → Option RuleAtoms.Outcome} {result : Variable}
  {operands : List Argument}

/-! ### The verdict on a row -/

theorem resolveAll?_eq_none_iff {arguments : List Argument} :
    resolveAll? table row arguments = none ↔
      ∃ argument ∈ arguments, resolve? table row argument = none := by
  unfold resolveAll?
  induction arguments with
  | nil => simp
  | cons argument rest ih =>
    rw [List.mapM_cons]
    cases resolved : resolve? table row argument with
    | none => simp [resolved]
    | some value =>
      simp only [List.mem_cons, exists_eq_or_imp, resolved, reduceCtorEq, false_or, ← ih]
      cases List.mapM (resolve? table row) rest <;> simp

/-- The result that is written in a row is that of the function whose result is absent. -/
theorem filter_target?_eq_some_iff {target : Target} :
    (target? mode meaning atom table).filter
        (fun target => (table.cell? row target.result.name).isNone) = some target ↔
      ∃ operands, Fillable mode meaning atom table row target.compute? target.result operands := by
  rw [Option.filter_eq_some_iff, target?_eq_some_iff, Option.isNone_iff_eq_none]
  constructor
  · rintro ⟨⟨isBind, isFunction, operands, arguments, hasColumn⟩, absent⟩
    exact ⟨operands, isBind, isFunction, arguments, hasColumn, absent⟩
  · rintro ⟨operands, isBind, isFunction, arguments, hasColumn, absent⟩
    exact ⟨⟨isBind, isFunction, operands, arguments, hasColumn⟩, absent⟩

/-- Where the columns are distinct, writing a token changes the cell of the named column only. -/
theorem writeCell_map {columns : List String} (distinct : (columns.map dropMarker).Nodup)
    (cellOf : String → Option String) (name token : String) :
    writeCell columns (columns.map cellOf) name token =
      columns.map fun column =>
        if dropMarker column = dropMarker name then some token else cellOf column := by
  unfold writeCell
  split
  · rename_i index found
    obtain ⟨inColumns, named, -⟩ := List.findIdx?_eq_some_iff_getElem.mp found
    refine List.ext_getElem (by simp) fun place _ inside => ?_
    have inColumns' : place < columns.length := by simpa using inside
    rw [List.getElem_set, List.getElem_map, List.getElem_map]
    by_cases here : index = place
    · subst here
      rw [if_pos rfl, if_pos (beq_iff_eq.mp named)]
    · have other : dropMarker columns[place] ≠ dropMarker name := by
        intro same
        have indexInside : index < (columns.map dropMarker).length := by simpa using inColumns
        have placeInside : place < (columns.map dropMarker).length := by simpa using inColumns'
        have sameNames : (columns.map dropMarker)[index] = (columns.map dropMarker)[place] := by
          rw [List.getElem_map, List.getElem_map, same, beq_iff_eq.mp named]
        exact here ((List.Nodup.getElem_inj_iff distinct).mp sameNames)
      rw [if_neg here, if_neg other]
  · rename_i missing
    refine List.map_congr_left fun column member => ?_
    have other := List.findIdx?_eq_none_iff.mp missing column member
    rw [if_neg (by simpa using other)]

/-- **The verdict on a row whose absent result has to be computed.** -/
theorem evaluateRow_of_fillable (distinct : (table.columns.map dropMarker).Nodup)
    (fillable : Fillable mode meaning atom table row compute? result operands) :
    evaluateRow table meaning (target? mode meaning atom table) atom.arguments row =
      match resolveAll? table row operands with
      | none => .error .unbound
      | some values =>
        match compute? values with
        | none => .error .failed
        | some outcome => .ok (table.columns.map fun column =>
            if dropMarker column = dropMarker result.name then
              some (outcome.toLiteral values.head?).token
            else table.cell? row column) := by
  have target : (target? mode meaning atom table).filter
      (fun target => (table.cell? row target.result.name).isNone) = some ⟨compute?, result⟩ :=
    filter_target?_eq_some_iff.mpr ⟨operands, fillable⟩
  unfold evaluateRow computeCell
  rw [target, fillable.arguments]
  simp only [List.tail_cons]
  cases resolveAll? table row operands with
  | none => rfl
  | some values =>
    cases computed : compute? values with
    | none => simp only [computed]; rfl
    | some outcome =>
      simp only [computed]
      exact congrArg Except.ok (writeCell_map distinct _ _ _)

/-- **The verdict on any other row.** -/
theorem evaluateRow_of_not_fillable
    (complete : ∀ compute? result operands,
      ¬ Fillable mode meaning atom table row compute? result operands) :
    evaluateRow table meaning (target? mode meaning atom table) atom.arguments row =
      match resolveAll? table row atom.arguments with
      | none => .error .unbound
      | some values =>
        if meaning.holds values then .ok (table.columns.map (table.cell? row))
        else .error .failed := by
  have noTarget : (target? mode meaning atom table).filter
      (fun target => (table.cell? row target.result.name).isNone) = none := by
    rw [Option.eq_none_iff_forall_ne_some]
    intro target found
    obtain ⟨operands, fillable⟩ := filter_target?_eq_some_iff.mp found
    exact complete _ _ _ fillable
  unfold evaluateRow check
  rw [noTarget]
  cases resolveAll? table row atom.arguments with
  | none => rfl
  | some values =>
    by_cases holds : meaning.holds values = true
    · simp only [holds, if_true]
      rfl
    · simp only [holds]
      rfl

theorem toRead_of_fillable
    (fillable : Fillable mode meaning atom table row compute? result operands) :
    toRead mode meaning atom table row = operands := by
  unfold toRead
  rw [fillable.isBind, fillable.isFunction, fillable.arguments]
  simp only [fillable.hasColumn, fillable.absent, Option.isNone_none, Bool.and_self, if_true]

theorem toRead_of_not_fillable
    (complete : ∀ compute? result operands,
      ¬ Fillable mode meaning atom table row compute? result operands) :
    toRead mode meaning atom table row = atom.arguments := by
  unfold toRead
  split
  · rename_i compute? result operands arguments
    split
    · rename_i absent
      rw [Bool.and_eq_true, Option.isNone_iff_eq_none] at absent
      exact absurd ⟨rfl, rfl, arguments, absent.1, absent.2⟩ (complete compute? result operands)
    · exact arguments.symm
  · rfl

/-- A row comes out with the cells that it comes from. -/
theorem comesFrom_of_evaluateRow {out : Row} (distinct : (table.columns.map dropMarker).Nodup)
    (kept : evaluateRow table meaning (target? mode meaning atom table) atom.arguments row =
      .ok out) :
    ComesFrom mode meaning atom table row out := by
  by_cases fills : ∃ compute? result operands,
      Fillable mode meaning atom table row compute? result operands
  · obtain ⟨compute?, result, operands, fillable⟩ := fills
    rw [evaluateRow_of_fillable distinct fillable] at kept
    split at kept
    · cases kept
    · rename_i values read
      split at kept
      · cases kept
      · rename_i outcome computed
        rw [← Except.ok.inj kept]
        exact .filled compute? result operands values outcome fillable read computed
  · have complete : ∀ compute? result operands,
        ¬ Fillable mode meaning atom table row compute? result operands := by simpa using fills
    rw [evaluateRow_of_not_fillable complete] at kept
    split at kept
    · cases kept
    · rename_i values read
      split at kept
      · rename_i holds
        rw [← Except.ok.inj kept]
        exact .unchanged values complete read holds
      · cases kept

/-- **A row is unbound** exactly when something that has to be read in it does not resolve. -/
theorem evaluateRow_eq_unbound_iff (distinct : (table.columns.map dropMarker).Nodup) :
    evaluateRow table meaning (target? mode meaning atom table) atom.arguments row =
        .error .unbound ↔
      ∃ argument ∈ toRead mode meaning atom table row, resolve? table row argument = none := by
  by_cases fills : ∃ compute? result operands,
      Fillable mode meaning atom table row compute? result operands
  · obtain ⟨compute?, result, operands, fillable⟩ := fills
    rw [evaluateRow_of_fillable distinct fillable, toRead_of_fillable fillable,
      ← resolveAll?_eq_none_iff]
    cases resolveAll? table row operands with
    | none => simp
    | some values => cases computed : compute? values <;> simp [computed]
  · have complete : ∀ compute? result operands,
        ¬ Fillable mode meaning atom table row compute? result operands := by simpa using fills
    rw [evaluateRow_of_not_fillable complete, toRead_of_not_fillable complete,
      ← resolveAll?_eq_none_iff]
    cases resolveAll? table row atom.arguments with
    | none => simp
    | some values => by_cases holds : meaning.holds values = true <;> simp [holds]

end Rows

section Log

variable {registry : Registry} {mode : EvaluationMode} {spec : Spec} {atom : Atom}
  {table : BindingTable}

/-! ### All rows -/

/-- The rows that are looked at: all of them, or none where a variable names no column. -/
def scannedCount (atom : Atom) (table : BindingTable) : Nat :=
  if atom.variableList.all table.hasVariable then table.rowCount else 0

theorem scannedCount_le : scannedCount atom table ≤ table.rowCount := by
  unfold scannedCount
  split <;> omega

theorem verdicts_eq_map : verdicts spec mode atom table =
    (List.range (scannedCount atom table)).map
      (evaluateRow table spec.meaning (target? mode spec.meaning atom table) atom.arguments) := by
  unfold verdicts scannedCount
  split <;> rfl

theorem keptRows_eq_filterMap : keptRows (verdicts spec mode atom table) =
    (List.range (scannedCount atom table)).filterMap fun row =>
      (evaluateRow table spec.meaning (target? mode spec.meaning atom table)
        atom.arguments row).toOption := by
  unfold keptRows
  rw [verdicts_eq_map, List.filterMap_map]
  rfl

theorem eq_ok_of_toOption {verdict : Except Exclusion Row} {cells : Row}
    (kept : verdict.toOption = some cells) : verdict = .ok cells := by
  cases verdict with
  | error reason => cases kept
  | ok other => exact congrArg Except.ok (Option.some.inj kept)

/-- An event about a row is the one that its verdict tells. -/
theorem getElem?_rowEvents_eq_some_iff {row : Nat} {event : Event} :
    ((verdicts spec mode atom table).mapIdx rowEvent)[row]? = some event ↔
      row < scannedCount atom table ∧
        event = rowEvent row (evaluateRow table spec.meaning (target? mode spec.meaning atom table)
          atom.arguments row) := by
  rw [verdicts_eq_map, mapIdx_rowEvent, List.getElem?_map]
  by_cases inside : row < scannedCount atom table
  · rw [List.getElem?_range inside]
    simp [inside, eq_comm]
  · rw [List.getElem?_eq_none (by simpa using inside)]
    simp [inside]

/-- The kept rows are those that come out, in order. -/
theorem filterMap_keptRow? (count : Nat) (verdict : Nat → Except Exclusion Row) :
    ((List.range count).map fun row => rowEvent row (verdict row)).filterMap Event.keptRow? =
      (List.range count).filter fun row => (verdict row).toOption.isSome := by
  rw [List.filterMap_map, ← List.filterMap_eq_filter]
  refine List.filterMap_congr fun row _ => ?_
  show Event.keptRow? (rowEvent row (verdict row)) =
    if (verdict row).toOption.isSome then some row else none
  cases verdict row <;> rfl

/-- **The events of a run of rows account for them.** -/
theorem rowEvents_account (mode : EvaluationMode) (spec : Spec) (atom : Atom)
    (distinct : (table.columns.map dropMarker).Nodup) :
    Accounts mode spec.meaning atom table (keptRows (verdicts spec mode atom table))
      ((verdicts spec mode atom table).mapIdx rowEvent) where
  nothing := by
    rintro ⟨wanted, member, missing⟩
    have notAll : ¬ atom.variableList.all table.hasVariable = true := fun all => by
      rw [List.all_eq_true.mp all wanted member] at missing
      cases missing
    unfold verdicts
    rw [if_neg notAll]
    rfl
  count := by
    intro all
    rw [List.length_mapIdx, verdicts_eq_map, List.length_map, List.length_range]
    exact if_pos (List.all_eq_true.mpr all)
  inOrder := by
    intro row event isEvent
    rw [(getElem?_rowEvents_eq_some_iff.mp isEvent).2]
    cases evaluateRow table spec.meaning (target? mode spec.meaning atom table) atom.arguments row
      with
    | ok cells => exact Or.inl rfl
    | error reason => exact Or.inr ⟨reason, rfl⟩
  unbound := by
    intro row reason member
    obtain ⟨place, isEvent⟩ := List.mem_iff_getElem?.mp member
    have told := (getElem?_rowEvents_eq_some_iff.mp isEvent).2
    cases verdict : evaluateRow table spec.meaning (target? mode spec.meaning atom table)
        atom.arguments place with
    | ok cells =>
      rw [verdict] at told
      cases told
    | error other =>
      rw [verdict] at told
      cases told
      rw [← evaluateRow_eq_unbound_iff distinct, verdict, Except.error.injEq]
  sources := by
    obtain ⟨source, increasing, comesOut, sources⟩ :=
      Positions.exists_sources (fun row => (evaluateRow table spec.meaning
        (target? mode spec.meaning atom table) atom.arguments row).toOption)
        (scannedCount atom table)
    rw [verdicts_eq_map, mapIdx_rowEvent, filterMap_keptRow?, ← verdicts_eq_map,
      keptRows_eq_filterMap]
    refine ⟨fun place => (source place).castLE scannedCount_le,
      fun _ _ before => increasing before, ?_, fun place => ?_⟩
    · simp only [Fin.val_castLE]
      rw [List.ofFn_eq_map, sources]
    · exact comesFrom_of_evaluateRow distinct (eq_ok_of_toOption (comesOut place))

end Log

/-- **The events of an evaluation account for every row.** Of an evaluation that succeeds, the loop
that carries it out tells one start with the number of rows, then the events about the rows, and then
one completion with the number of kept ones, which is the number of rows that are made. -/
theorem run_events_account {registry : Registry} {mode : EvaluationMode} {atom : Atom}
    {table : BindingTable} {outcome : Outcome}
    (succeeds : run registry mode atom table = .ok outcome) :
    course registry mode atom table = (.ok outcome.relation.store, outcome.events) ∧
      ∃ spec rowEvents, registry.get? atom.predicate = some spec ∧
        outcome.events = .start atom.predicate table.rowCount :: rowEvents ++
          [.complete atom.predicate (rowEvents.filterMap Event.keptRow?).length] ∧
        (rowEvents.filterMap Event.keptRow?).length = outcome.relation.rows.length ∧
        Accounts mode spec.meaning atom table outcome.relation.rows rowEvents := by
  refine ⟨?_, ?_⟩
  · rw [course_eq_run, succeeds]
  · obtain ⟨⟨spec, member, named, accepted⟩, distinct⟩ := (exists_run_iff mode).mp ⟨outcome, succeeds⟩
    have found := Registry.get?_eq_some_iff.mpr ⟨member, named⟩
    obtain ⟨empty, made⟩ := Relation.exists_ofColumns_iff.mpr distinct
    obtain ⟨other, otherSucceeds, -, rows, events⟩ :=
      exists_run mode (prepare_eq_ok_iff.mpr ⟨found, accepted⟩) made
    obtain rfl := Except.ok.inj (otherSucceeds.symm.trans succeeds)
    have account := rowEvents_account mode spec atom distinct
    rw [← rows] at account
    obtain ⟨source, -, sources, -⟩ := account.sources
    have count : (((verdicts spec mode atom table).mapIdx rowEvent).filterMap
        Event.keptRow?).length = other.relation.rows.length := by
      rw [sources, List.length_ofFn]
    exact ⟨spec, _, found, count ▸ events, count, account⟩

/-- Of the remainders, bind mode keeps the first two, one of them computed; it leaves out a wrong one,
one with an absent operand and one whose operand is no number. -/
theorem run_events_remainders :
    ∃ outcome, run Registry.standard .bind remainderAtom remainders.table = .ok outcome ∧
      course Registry.standard .bind remainderAtom remainders.table =
        (.ok outcome.relation.store, outcome.events) ∧
      outcome.events =
        [.start remainderAtom.predicate 5, .kept 0, .kept 1, .excluded 2 .failed,
          .excluded 3 .unbound, .excluded 4 .failed, .complete remainderAtom.predicate 2] ∧
      ∃ spec rowEvents, Registry.standard.get? remainderAtom.predicate = some spec ∧
        outcome.events = .start remainderAtom.predicate 5 :: rowEvents ++
          [.complete remainderAtom.predicate (rowEvents.filterMap Event.keptRow?).length] ∧
        Accounts .bind spec.meaning remainderAtom remainders.table outcome.relation.rows
          rowEvents := by
  have prepared : prepare Registry.standard remainderAtom = .ok remainderSpec := rfl
  have distinct : (remainders.table.columns.map dropMarker).Nodup := remainders.distinct
  obtain ⟨empty, made⟩ := Relation.exists_ofColumns_iff.mpr distinct
  obtain ⟨outcome, succeeds, -, rows, events⟩ :=
    exists_run .bind prepared made
  obtain ⟨looped, spec, rowEvents, found, shape, -, account⟩ := run_events_account succeeds
  refine ⟨outcome, succeeds, looped, ?_, spec, rowEvents, found, shape, account⟩
  rw [events, rows]
  decide

end RuleAtoms.Evaluation
