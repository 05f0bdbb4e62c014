/-
**Everything that can be done to a store.**

Nothing in a store ties its rows to its columns, or the names it keeps its columns under to the
columns. Here a store is put through any sequence of operations that make or change one: from columns,
from columns and rows, from JSON, by adding rows, by evaluating atoms over it or over other tables. It
is always the store of a relation, namely of the one that the same operations make of relations.

* `exists_ofRows_iff`: which columns and rows make a relation;
* `perform_store`: an operation does to the store of a relation what it does to the relation, and fails
  with it, leaving the store as it was;
* `performAll_store`: so do all operations of a sequence;
* `faithful_of_performAll`: hence columns and rows fit together in every store that can be reached,
  names are looked up rightly in it, and an operation that fails leaves it as it was.
-/

import RuleAtoms.Proofs.Evaluation.Faults
import RuleAtoms.Relation.Json

namespace RuleAtoms

/-! ### Columns and rows that make a relation -/

namespace Relation

variable {relation : Relation}

theorem foldlM_pushRow_eq_ok_iff {rows : List Row} {longer : Relation} :
    rows.foldlM pushRow relation = .ok longer ↔
      (∀ row ∈ rows, row.length = relation.columns.length) ∧
        longer.columns = relation.columns ∧ longer.rows = relation.rows ++ rows := by
  induction rows generalizing relation with
  | nil =>
    simp only [List.foldlM_nil, List.not_mem_nil, false_implies, implies_true, true_and,
      List.append_nil]
    constructor
    · intro same
      obtain rfl := Except.ok.inj same
      exact ⟨rfl, rfl⟩
    · rintro ⟨columns, rows⟩
      exact congrArg Except.ok (eq_of_columns_rows columns.symm rows.symm)
  | cons row rest ih =>
    rw [List.foldlM_cons]
    unfold pushRow
    by_cases fits : row.length = relation.columns.length
    · rw [dif_pos fits]
      refine ih.trans ?_
      simp only [withRows, List.append_assoc, List.singleton_append, List.forall_mem_cons, fits,
        true_and]
    · rw [dif_neg fits]
      constructor
      · intro failed
        cases failed
      · rintro ⟨widths, -⟩
        exact absurd (widths row List.mem_cons_self) fits

/-- Columns that are distinct up to markers, and rows with a cell for each. -/
structure Fits (columns : List String) (rows : List Row) : Prop where
  distinct : (columns.map dropMarker).Nodup
  rectangular : ∀ row ∈ rows, row.length = columns.length

/-- **Which columns and rows make a relation**, namely the one with just these. -/
theorem ofRows_eq_ok_iff {columns : List String} {rows : List Row} :
    ofRows columns rows = .ok relation ↔
      Fits columns rows ∧ relation.columns = columns ∧ relation.rows = rows := by
  unfold ofRows
  cases made : ofColumns columns with
  | error error =>
    constructor
    · intro failed
      cases failed
    · rintro ⟨fits, -⟩
      obtain ⟨empty, made'⟩ := exists_ofColumns_iff.mpr fits.distinct
      cases made.symm.trans made'
  | ok empty =>
    have distinct := exists_ofColumns_iff.mp ⟨empty, made⟩
    refine foldlM_pushRow_eq_ok_iff.trans ?_
    rw [columns_ofColumns made, rows_ofColumns made, List.nil_append]
    exact and_congr_left fun _ => ⟨fun widths => ⟨distinct, widths⟩, Fits.rectangular⟩

theorem exists_ofRows_iff {columns : List String} {rows : List Row} :
    (∃ relation, ofRows columns rows = .ok relation) ↔ Fits columns rows := by
  simp only [ofRows_eq_ok_iff]
  constructor
  · rintro ⟨relation, fits, -⟩
    exact fits
  · intro fits
    exact ⟨⟨columns, rows, fits.distinct, fits.rectangular⟩, fits, rfl, rfl⟩

theorem Error.code_eq_or (error : Error) :
    error.report.code = .duplicateColumn ∨ error.report.code = .rowWidthMismatch := by
  cases error with
  | duplicateColumn => exact Or.inl rfl
  | rowWidth => exact Or.inr rfl

end Relation

/-! ### Operations -/

/-- What can be done to a relation in place, or to have another in its place. -/
inductive Operation where
  | new (columns : List String)
  | withRows (columns : List String) (rows : List Row)
  | emptyLike
  /-- From a JSON text. -/
  | fromJson (text : String)
  /-- From a JSON value that has been read already. -/
  | deserialize (value : Json)
  | pushRow (row : Row)
  | pushTokens (tokens : List String)
  /-- The result of an atom over the relation itself. -/
  | evaluate (registry : Registry) (mode : EvaluationMode) (atom : Atom)
  /-- The result of an atom over any other table. -/
  | evaluateOver (registry : Registry) (mode : EvaluationMode) (atom : Atom) (table : BindingTable)

namespace Operation

/-- Why an operation fails. -/
inductive Failure where
  | table (error : Relation.Error)
  | json (error : Relation.JsonError)
  /-- The reader of a JSON value has errors of its own. They cite what is wrong with the columns and
  rows, if the value lists any. -/
  | value (cited? : Option Relation.Error)
  | evaluation (error : Evaluation.Error)
deriving DecidableEq

/-- The code under which a failure is reported, if it has one. -/
def Failure.code? : Failure → Option Report.Code
  | table error => some error.report.code
  | json error => some error.report.code
  | value _ => none
  | evaluation error => some error.report.code

/-- What is wrong with a JSON text: it lists no columns and rows, or they make no relation. -/
def Failure.ofText : Option Relation.Error → Failure
  | none => .json .malformed
  | some error => .json (.invalid error)

/-- The relation of the columns and rows that have been read, if there are any. -/
def ofParts (onError : Option Relation.Error → Failure) :
    Option (List String × List Row) → Except Failure Relation
  | some (columns, rows) => (Relation.ofRows columns rows).mapError fun error => onError (some error)
  | none => .error (onError none)

/-- What an operation makes of a relation. -/
def resultOf (relation : Relation) : Operation → Except Failure Relation
  | new columns => (Relation.ofColumns columns).mapError .table
  | withRows columns rows => (Relation.ofRows columns rows).mapError .table
  | emptyLike => .ok relation.emptyLike
  | fromJson text => (Relation.ofJsonText text).mapError .json
  | deserialize value => ofParts .value (Relation.partsOfJson? value)
  | pushRow row => (relation.pushRow row).mapError .table
  | pushTokens tokens => (relation.pushTokens tokens).mapError .table
  | evaluate registry mode atom =>
    ((Evaluation.run registry mode atom relation.table).mapError .evaluation).map (·.relation)
  | evaluateOver registry mode atom table =>
    ((Evaluation.run registry mode atom table).mapError .evaluation).map (·.relation)

/-- The relation after an operation; one that fails changes nothing. -/
def after (relation : Relation) (operation : Operation) : Relation :=
  match operation.resultOf relation with
  | .ok next => next
  | .error _ => relation

end Operation

namespace Store

open Operation (Failure)

/-- The store of the columns and rows that have been read, if there are any. -/
def ofParts (onError : Option Relation.Error → Failure) :
    Option (List String × List Row) → Except Failure Store
  | some (columns, rows) => (ofRows columns rows).mapError fun error => onError (some error)
  | none => .error (onError none)

/-- Puts a store that has been made in the place of the one there is. -/
def replace (made : Except Failure Store) : Work Failure Store Unit := do
  let next ← MonadExcept.ofExcept made
  set next

/-- An operation as work on the store. Rows are added in place; all other operations make a store of
their own first. Evaluations are carried out row by row. -/
def operate : Operation → Work Failure Store Unit
  | .new columns => replace ((ofColumns columns).mapError .table)
  | .withRows columns rows => replace ((ofRows columns rows).mapError .table)
  | .emptyLike => modify emptyLike
  | .fromJson text => replace (ofParts .ofText ((Json.read? text).bind Relation.partsOfJson?))
  | .deserialize value => replace (ofParts .value (Relation.partsOfJson? value))
  | .pushRow row => (pushRow row).adapt .table
  | .pushTokens tokens => (pushTokens tokens).adapt .table
  | .evaluate registry mode atom => do
    let store ← get
    replace ((Evaluation.course registry mode atom store.table).1.mapError .evaluation)
  | .evaluateOver registry mode atom table =>
    replace ((Evaluation.course registry mode atom table).1.mapError .evaluation)

/-- Performs an operation: what becomes of it, and the store that it leaves. -/
def perform (store : Store) (operation : Operation) : Except Failure Unit × Store :=
  (operate operation).after store

/-- The store after a sequence of operations, whether they fail or not. -/
def performAll (store : Store) (operations : List Operation) : Store :=
  operations.foldl (fun current operation => (current.perform operation).2) store

/-! ### Operations on the stores of relations -/

theorem mapError_map {ε ε' α β : Type} (made : Except ε α) (onError : ε → ε') (onOk : α → β) :
    (made.map onOk).mapError onError = (made.mapError onError).map onOk := by
  cases made <;> rfl

theorem ofParts_eq (onError : Option Relation.Error → Failure)
    (parts? : Option (List String × List Row)) :
    ofParts onError parts? = (Operation.ofParts onError parts?).map Relation.store := by
  cases parts? with
  | none => rfl
  | some parts =>
    unfold ofParts Operation.ofParts
    simp only [ofRows_eq, mapError_map]

/-- What the loop makes is the store of what `run` makes. -/
theorem course_fst (registry : Registry) (mode : EvaluationMode) (atom : Atom)
    (table : BindingTable) :
    (Evaluation.course registry mode atom table).1 =
      ((Evaluation.run registry mode atom table).map (·.relation)).map Relation.store := by
  rw [Evaluation.course_eq_run]
  cases Evaluation.run registry mode atom table <;> rfl

/-- A JSON text makes the relation of the columns and rows that it lists. -/
theorem resultOf_fromJson (relation : Relation) (text : String) :
    Operation.resultOf relation (.fromJson text) =
      Operation.ofParts .ofText ((Json.read? text).bind Relation.partsOfJson?) := by
  show (Relation.ofJsonText text).mapError Failure.json = _
  unfold Relation.ofJsonText Operation.ofParts
  cases (Json.read? text).bind Relation.partsOfJson? with
  | none => rfl
  | some parts =>
    simp only
    cases Relation.ofRows parts.1 parts.2 <;> rfl

theorem after_replace_ok (store next : Store) :
    (replace (.ok next)).after store = (.ok (), next) := rfl

theorem after_replace_error (store : Store) (failure : Failure) :
    (replace (.error failure)).after store = (.error failure, store) := rfl

theorem after_replace (relation : Relation) (made : Except Failure Relation) :
    (replace (made.map Relation.store)).after relation.store = relation.settled made := by
  cases made <;> rfl

theorem after_adapt_pushRow (relation : Relation) (row : Row) :
    Work.after ((pushRow row).adapt Failure.table) relation.store =
      relation.settled ((relation.pushRow row).mapError .table) := by
  rw [Work.after_adapt, pushRow_store]
  cases relation.pushRow row <;> rfl

/-- **One operation**: it does to the store of a relation what it does to the relation. When it fails,
the store is left as it was. -/
theorem perform_store (relation : Relation) (operation : Operation) :
    relation.store.perform operation = relation.settled (operation.resultOf relation) := by
  unfold perform
  cases operation with
  | new columns =>
    rw [operate, ofColumns_eq, mapError_map, after_replace]
    rfl
  | withRows columns rows =>
    rw [operate, ofRows_eq, mapError_map, after_replace]
    rfl
  | emptyLike => rfl
  | fromJson text => rw [operate, ofParts_eq, after_replace, resultOf_fromJson]
  | deserialize value =>
    rw [operate, ofParts_eq, after_replace]
    rfl
  | pushRow row => exact after_adapt_pushRow relation row
  | pushTokens tokens => exact after_adapt_pushRow relation (tokens.map some)
  | evaluate registry mode atom =>
    rw [operate, Work.after_bind_of_ok Work.after_get, course_fst, Relation.table_store,
      mapError_map, mapError_map, after_replace]
    rfl
  | evaluateOver registry mode atom table =>
    rw [operate, course_fst, mapError_map, mapError_map, after_replace]
    rfl

/-- An operation leaves the store of the relation that it leaves. -/
theorem perform_store_snd (relation : Relation) (operation : Operation) :
    (relation.store.perform operation).2 = (operation.after relation).store := by
  unfold Operation.after
  rw [perform_store]
  cases operation.resultOf relation <;> rfl

/-- **All operations of a sequence**, by induction: they leave the store of the relation that they
leave. -/
theorem performAll_store (relation : Relation) (operations : List Operation) :
    performAll relation.store operations = (operations.foldl Operation.after relation).store := by
  induction operations generalizing relation with
  | nil => rfl
  | cons operation rest ih =>
    unfold performAll at ih ⊢
    rw [List.foldl_cons, perform_store_snd, ih, List.foldl_cons]

/-! ### Stores that can be reached -/

/-- Columns, rows and lookups of a store fit together. -/
structure Faithful (store : Store) : Prop where
  distinct : (store.names.map dropMarker).Nodup
  rectangular : ∀ row ∈ store.rows, row.length = store.names.length
  /-- The position of a name is that of the column with this name, up to markers. -/
  position_iff : ∀ name index, store.columnIndex? name = some index ↔
    ∃ column, store.names[index]? = some column ∧ dropMarker column = dropMarker name
  /-- There is no other column with this name. -/
  position_unique : ∀ name index place column, store.columnIndex? name = some index →
    store.names[place]? = some column → dropMarker column = dropMarker name → place = index
  position_none_iff : ∀ name, store.columnIndex? name = none ↔
    ∀ column ∈ store.names, dropMarker column ≠ dropMarker name
  /-- What is found in a row is the cell at the position of the name. -/
  cell : ∀ row name index cells, store.columnIndex? name = some index →
    store.rows[row]? = some cells → cells[index]? = some (store.cell? row name)
  noCell : ∀ row name, store.columnIndex? name = none ∨ store.rows[row]? = none →
    store.cell? row name = none

/-- An operation makes a store of just these columns and rows, and succeeds exactly when they fit. -/
structure Builds (store : Store) (operation : Operation) (columns : List String)
    (rows : List Row) : Prop where
  succeeds_iff : (store.perform operation).1 = .ok () ↔ Relation.Fits columns rows
  made : ∀ next, store.perform operation = (.ok (), next) → next.names = columns ∧ next.rows = rows

theorem empty_eq : empty = Relation.empty.store := rfl

/-- The store of a relation is faithful. -/
theorem faithful_store (relation : Relation) : Faithful relation.store where
  distinct := by
    rw [Relation.names_store]
    exact relation.distinct
  rectangular := by
    rw [Relation.names_store]
    exact relation.rectangular
  position_iff := by
    intro name index
    rw [Relation.columnIndex?_store, Relation.names_store]
    exact Relation.columnIndex?_eq_some_iff
  position_unique := by
    intro name index place column found isColumn named
    rw [Relation.columnIndex?_store, Relation.columnIndex?_eq_some_iff] at found
    rw [Relation.names_store] at isColumn
    obtain ⟨other, isOther, otherNamed⟩ := found
    exact Relation.index_unique isColumn isOther (named.trans otherNamed.symm)
  position_none_iff := by
    intro name
    rw [Relation.columnIndex?_store, Relation.names_store]
    unfold Relation.columnIndex?
    simp
  cell := by
    intro row name index cells found isRow
    rw [Relation.columnIndex?_store, Relation.columnIndex?_eq_some_iff] at found
    obtain ⟨column, isColumn, named⟩ := found
    have inside : index < cells.length := by
      rw [Relation.length_of_row isRow]
      exact (List.getElem?_eq_some_iff.mp isColumn).1
    rw [Relation.cell?_store, Relation.cell?_of_column isRow isColumn named,
      List.getElem?_eq_getElem inside, Option.join_some]
  noCell := by
    rintro row name (noColumn | noRow)
    · unfold cell?
      rw [noColumn, Option.bind_none]
    · unfold cell?
      rw [noRow]
      cases relation.store.columnIndex? name <;> rfl

/-- An operation that makes the relation of some columns and rows builds their store. -/
theorem builds_of_resultOf {relation : Relation} {operation : Operation} {columns : List String}
    {rows : List Row} {onError : Relation.Error → Failure}
    (made : operation.resultOf relation = (Relation.ofRows columns rows).mapError onError) :
    Builds relation.store operation columns rows := by
  have performed := perform_store relation operation
  cases built : Relation.ofRows columns rows with
  | error error =>
    have failed : relation.store.perform operation = (.error (onError error), relation.store) := by
      rw [performed, made, built]
      rfl
    refine ⟨?_, ?_⟩
    · rw [failed, ← Relation.exists_ofRows_iff, built]
      simp
    · intro next succeeded
      cases failed.symm.trans succeeded
  | ok other =>
    have done : relation.store.perform operation = (.ok (), other.store) := by
      rw [performed, made, built]
      rfl
    obtain ⟨fits, columnsEq, rowsEq⟩ := Relation.ofRows_eq_ok_iff.mp built
    refine ⟨?_, ?_⟩
    · rw [done]
      exact iff_of_true rfl fits
    · intro next succeeded
      obtain rfl := (Prod.mk.inj (done.symm.trans succeeded)).2
      exact ⟨(Relation.names_store other).trans columnsEq, rowsEq⟩

/-! ### Operations that fail -/

theorem eq_of_mapError {ε ε' α : Type} {made : Except ε α} {onError : ε → ε'} {error : ε'}
    (failed : made.mapError onError = .error error) :
    ∃ cause, made = .error cause ∧ error = onError cause := by
  cases made with
  | error cause => exact ⟨cause, rfl, (Except.error.inj failed).symm⟩
  | ok value => cases failed

theorem eq_of_map {ε α β : Type} {made : Except ε α} {onOk : α → β} {error : ε}
    (failed : made.map onOk = .error error) : made = .error error := by
  cases made with
  | error cause => exact congrArg _ (Except.error.inj failed)
  | ok value => cases failed

/-- What a failure tells: a column is repeated or a row has another width, unless what was to be read
lists no columns and rows, the reader of a value says so in its own way, or the atom that was to be
evaluated is not accepted. -/
inductive Explained : Operation → Failure → Prop
  | unfit (operation : Operation) (failure : Failure)
      (code : failure.code? = some .duplicateColumn ∨ failure.code? = some .rowWidthMismatch) :
      Explained operation failure
  | malformed (text : String) (unreadable : (Json.read? text).bind Relation.partsOfJson? = none) :
      Explained (.fromJson text) (.json .malformed)
  | value (value : Json) (cited? : Option Relation.Error)
      (cites : cited? = none ↔ Relation.partsOfJson? value = none) :
      Explained (.deserialize value) (.value cited?)
  | refused (registry : Registry) (mode : EvaluationMode) (atom : Atom) (error : Atom.Error)
      (notAccepted : Evaluation.prepare registry atom = .error error) :
      Explained (.evaluate registry mode atom) (.evaluation (.atom error))
  | refusedOver (registry : Registry) (mode : EvaluationMode) (atom : Atom) (table : BindingTable)
      (error : Atom.Error) (notAccepted : Evaluation.prepare registry atom = .error error) :
      Explained (.evaluateOver registry mode atom table) (.evaluation (.atom error))

theorem explained_of_error {operation : Operation} {failure : Failure} (error : Relation.Error)
    (same : failure.code? = some error.report.code) : Explained operation failure := by
  rcases error.code_eq_or with code | code
  · exact .unfit _ _ (Or.inl (same.trans (congrArg some code)))
  · exact .unfit _ _ (Or.inr (same.trans (congrArg some code)))

theorem explained_of_table {operation : Operation} {failure : Failure}
    {made : Except Relation.Error Relation} (failed : made.mapError .table = .error failure) :
    Explained operation failure := by
  obtain ⟨error, -, rfl⟩ := eq_of_mapError failed
  exact explained_of_error error rfl

/-- Where what has been read makes no relation, it lists no columns and rows, or they are cited. -/
theorem eq_of_ofParts {onError : Option Relation.Error → Failure} {failure : Failure}
    {parts? : Option (List String × List Row)}
    (failed : Operation.ofParts onError parts? = .error failure) :
    ∃ cited?, failure = onError cited? ∧ (cited? = none ↔ parts? = none) := by
  cases parts? with
  | none => exact ⟨none, (Except.error.inj failed).symm, by simp⟩
  | some parts =>
    obtain ⟨error, -, rfl⟩ := eq_of_mapError failed
    exact ⟨some error, rfl, by simp⟩

theorem eq_of_run {failure : Failure} {registry : Registry} {mode : EvaluationMode} {atom : Atom}
    {table : BindingTable}
    (failed : ((Evaluation.run registry mode atom table).mapError .evaluation).map
      (·.relation) = .error failure) :
    (∃ error, Evaluation.prepare registry atom = .error error ∧
        failure = .evaluation (.atom error)) ∨
      ∃ error, failure = .evaluation (.table error) := by
  obtain ⟨cause, stopped, rfl⟩ := eq_of_mapError (eq_of_map failed)
  rcases Evaluation.run_eq_error_iff.mp stopped with
    ⟨error, notAccepted, rfl⟩ | ⟨spec, -, error, -, rfl⟩
  · exact Or.inl ⟨error, notAccepted, rfl⟩
  · exact Or.inr ⟨error, rfl⟩

/-- **Why operations fail.** -/
theorem explained_of_resultOf {relation : Relation} {operation : Operation} {failure : Failure}
    (failed : operation.resultOf relation = .error failure) : Explained operation failure := by
  cases operation with
  | new columns => exact explained_of_table failed
  | withRows columns rows => exact explained_of_table failed
  | emptyLike => cases failed
  | fromJson text =>
    rw [resultOf_fromJson] at failed
    obtain ⟨cited?, rfl, cites⟩ := eq_of_ofParts failed
    cases cited? with
    | none => exact .malformed text (cites.mp rfl)
    | some error => exact explained_of_error error rfl
  | deserialize value =>
    obtain ⟨cited?, rfl, cites⟩ := eq_of_ofParts failed
    exact .value value cited? cites
  | pushRow row => exact explained_of_table failed
  | pushTokens tokens => exact explained_of_table failed
  | evaluate registry mode atom =>
    rcases eq_of_run failed with ⟨error, notAccepted, rfl⟩ | ⟨error, rfl⟩
    · exact .refused registry mode atom error notAccepted
    · exact explained_of_error error rfl
  | evaluateOver registry mode atom table =>
    rcases eq_of_run failed with ⟨error, notAccepted, rfl⟩ | ⟨error, rfl⟩
    · exact .refusedOver registry mode atom table error notAccepted
    · exact explained_of_error error rfl

/-- **An operation that fails** leaves the store of a relation as it was. -/
theorem perform_eq_error {relation : Relation} {left : Store} {operation : Operation}
    {failure : Failure} (failed : relation.store.perform operation = (.error failure, left)) :
    left = relation.store ∧ operation.resultOf relation = .error failure := by
  rw [perform_store] at failed
  cases isError : operation.resultOf relation with
  | ok next =>
    rw [isError] at failed
    cases failed
  | error other =>
    rw [isError] at failed
    cases failed
    exact ⟨rfl, rfl⟩

end Store

open Store in
/-- **Whatever is done to a store, it stays the store of a relation, and faithful**: its columns are
distinct up to markers, each row has a cell for each column, and names find just the cells in their
columns. An operation that fails leaves the store as it was, and tells of a repeated column or a row of
another width, unless what was to be read lists no columns and rows, the reader of a value says so in
its own way, or the atom that was to be evaluated is not accepted. Columns and rows, given or read,
build a store exactly when they fit together. -/
theorem faithful_of_performAll {operations : List Operation} {store : Store}
    (reached : performAll empty operations = store) :
    store = (operations.foldl Operation.after Relation.empty).store ∧
      Faithful store ∧
      (∀ operation failure left, store.perform operation = (.error failure, left) →
        left = store ∧ Explained operation failure) ∧
      (∀ columns rows, Builds store (.withRows columns rows) columns rows) ∧
      (∀ text columns rows, (Json.read? text).bind Relation.partsOfJson? = some (columns, rows) →
        Builds store (.fromJson text) columns rows) ∧
      ∀ value columns rows, Relation.partsOfJson? value = some (columns, rows) →
        Builds store (.deserialize value) columns rows := by
  subst reached
  rw [empty_eq, performAll_store]
  generalize operations.foldl Operation.after Relation.empty = relation
  refine ⟨rfl, faithful_store relation, ?_, ?_, ?_, ?_⟩
  · intro operation failure left failed
    obtain ⟨same, isError⟩ := perform_eq_error failed
    exact ⟨same, explained_of_resultOf isError⟩
  · intro columns rows
    exact builds_of_resultOf rfl
  · intro text columns rows lists
    have made : Operation.resultOf relation (.fromJson text) =
        (Relation.ofRows columns rows).mapError fun error => .ofText (some error) := by
      rw [resultOf_fromJson, lists]
      rfl
    exact builds_of_resultOf made
  · intro value columns rows lists
    have made : Operation.resultOf relation (.deserialize value) =
        (Relation.ofRows columns rows).mapError fun error => .value (some error) := by
      show Operation.ofParts .value (Relation.partsOfJson? value) = _
      rw [lists]
      rfl
    exact builds_of_resultOf made

namespace Store

open Operation (Failure)

/-- Operations that make a store of pairs. The second, the fourth and the last but one fail. -/
def pairOperations : List Operation :=
  [.new ["?X", "Y"], .pushRow [some "1"], .pushRow [some "1", none], .withRows ["X", "?X"] [],
    .pushTokens ["2", "3"], .pushTokens ["4", "4"],
    .fromJson "\x7b\"columns\": [\"A\"], \"rows\": [[], [\"1\"]]\x7d",
    .evaluate Registry.standard .filter
      (.binary .lessThan (.variable ⟨"X"⟩) (.literal (.plain "3")))]

/-- The pairs are two rows in the end; the first has no second cell. A row with a single cell is then
refused, and the pairs are left as they were. -/
theorem faithful_pairs :
    (performAll empty pairOperations).rows = [[some "1", none], [some "2", some "3"]] ∧
      (performAll empty pairOperations).columnIndex? "?Y" = some 1 ∧
      (performAll empty pairOperations).cell? 1 "?Y" = some "3" ∧
      Faithful (performAll empty pairOperations) ∧
      (performAll empty pairOperations).perform (.pushRow [some "5"]) =
        (.error (.table (.rowWidth 2 1 2)), performAll empty pairOperations) := by
  obtain ⟨-, faithful, failing, -⟩ :=
    faithful_of_performAll (rfl : performAll empty pairOperations = _)
  have refused : ((performAll empty pairOperations).perform (.pushRow [some "5"])).1 =
      .error (.table (.rowWidth 2 1 2)) := by decide +kernel
  refine ⟨by decide +kernel, by decide +kernel, by decide +kernel, faithful, ?_⟩
  generalize performAll empty pairOperations = pairs at *
  rcases performed : pairs.perform (.pushRow [some "5"]) with ⟨outcome, left⟩
  rw [performed] at refused
  obtain rfl : outcome = _ := refused
  obtain ⟨rfl, -⟩ := failing _ _ _ performed
  rfl

/-- A text that lists no columns and rows changes nothing. -/
theorem perform_fromJson_of_unreadable (store : Store) {text : String}
    (unreadable : (Json.read? text).bind Relation.partsOfJson? = none) :
    store.perform (.fromJson text) = (.error (.json .malformed), store) := by
  unfold perform
  rw [operate, unreadable]
  exact after_replace_error store _

/-- The JSON text of a repeated column and of a row whose cells are numbers. -/
def numberCells : String := "\x7b\"columns\": [\"?X\", \"X\"], \"rows\": [[1, 2]]\x7d"

/-- A text whose cells are neither tokens nor null lists no rows, which is told before its columns and
rows are looked at: neither a repeated column nor a row of another width is reported. -/
theorem perform_fromJson_numberCells :
    empty.perform (.fromJson numberCells) = (.error (.json .malformed), empty) ∧
      Failure.code? (.json .malformed) = some .parseError ∧
      Failure.code? (.json .malformed) ≠ some .duplicateColumn ∧
      Failure.code? (.json .malformed) ≠ some .rowWidthMismatch := by
  have unreadable : (Json.read? numberCells).bind Relation.partsOfJson? = none := by decide +kernel
  exact ⟨perform_fromJson_of_unreadable empty unreadable, rfl, by decide, by decide⟩

end Store

end RuleAtoms
