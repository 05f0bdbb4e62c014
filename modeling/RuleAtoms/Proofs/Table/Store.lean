/-
**Relations as they are kept.**

A relation may be kept as a map from names without marker to columns, and rows by position. Nothing
in such a store ties a row to the columns, or a column to the name it is kept under: only the
operations do. Each of them does to a store what the operation of relations does to the relation.

Rows are added to a store in place. Adding is `Work` on a state: it leaves a store also when it fails,
and what it has changed by then is not taken back.

* `ofColumns_eq`, `ofRows_eq`: making and filling a store makes the store of a relation, and fails as
  the relation would;
* `pushRow_store`: a row is added to the store of a relation as to the relation, and one that is
  refused leaves the store as it was;
* `table_store`: reading a store by name is reading the relation;
* `repeatedColumn?_eq_some_iff`: which column is reported as repeated.
-/

import RuleAtoms.Proofs.Table.Lookup

namespace RuleAtoms

/-! ### Work that changes a state -/

/-- Work that changes a state in place, and may fail. What it has changed by then stays changed. -/
abbrev Work (ε σ : Type) := ExceptT ε (StateM σ)

namespace Work

variable {ε ε' σ α β : Type} {state later : σ}

/-- What becomes of the work, and the state that it leaves. -/
def after (work : Work ε σ α) (state : σ) : Except ε α × σ := work.run.run state

/-- The state that the work leaves, unless it fails. -/
def completed (work : Work ε σ Unit) (state : σ) : Except ε σ :=
  (work.after state).1.map fun _ => (work.after state).2

@[simp] theorem after_pure (value : α) :
    after (pure value : Work ε σ α) state = (.ok value, state) := rfl

@[simp] theorem after_get : after (get : Work ε σ σ) state = (.ok state, state) := rfl

/-- Only the error is another one. -/
theorem after_adapt (work : Work ε σ α) (asError : ε → ε') :
    after (ExceptT.adapt asError work) state =
      ((work.after state).1.mapError asError, (work.after state).2) := rfl

/-- Work goes on after work that has not failed. -/
theorem after_bind_of_ok {work : Work ε σ α} {next : α → Work ε σ β} {value : α}
    (done : work.after state = (.ok value, later)) :
    (work >>= next).after state = (next value).after later := by
  unfold after at done ⊢
  rw [ExceptT.run_bind, StateT.run_bind, done]
  rfl

/-- Work ends where it fails. -/
theorem after_bind_of_error {work : Work ε σ α} {next : α → Work ε σ β} {error : ε}
    (failed : work.after state = (.error error, later)) :
    (work >>= next).after state = (.error error, later) := by
  unfold after at failed ⊢
  rw [ExceptT.run_bind, StateT.run_bind, failed]
  rfl

end Work

/-! ### Stores -/

/-- Columns under their names without marker, and rows. -/
@[ext] structure Store where
  columns : Keyed String
  rows : List Row

namespace Store

/-- The columns as they were given. -/
def names (store : Store) : List String := store.columns.entries.map Prod.snd

def width (store : Store) : Nat := store.columns.entries.length

/-- The store without columns and rows. -/
def empty : Store := ⟨Keyed.empty, []⟩

/-! ### Building -/

/-- The columns with one more at the end, unless its name is taken. -/
def addColumn (columns : Keyed String) (column : String) :
    Except Relation.Error (Keyed String) :=
  if columns.contains (dropMarker column) then .error (.duplicateColumn column)
  else .ok (columns.insert (dropMarker column) column)

/-- The store with the given columns and no rows. -/
def ofColumns (columns : List String) : Except Relation.Error Store :=
  (columns.foldlM addColumn Keyed.empty).map fun kept => ⟨kept, []⟩

/-- The store with the same columns and no rows. -/
def emptyLike (store : Store) : Store := { store with rows := [] }

/-- Adds a row at the end. A row that has not one cell for each column is refused. -/
def pushRow (row : Row) : Work Relation.Error Store Unit := do
  let store ← get
  unless row.length = store.width do
    throw (.rowWidth store.rows.length row.length store.width)
  set { store with rows := store.rows ++ [row] }

/-- Adds a row of tokens, all present. -/
def pushTokens (tokens : List String) : Work Relation.Error Store Unit := pushRow (tokens.map some)

/-- The store with the given columns and rows. -/
def ofRows (columns : List String) (rows : List Row) : Except Relation.Error Store :=
  (ofColumns columns).bind (Work.completed (forM rows pushRow))

/-! ### Looking things up -/

/-- The position of a column, whatever the marker of the name. -/
def columnIndex? (store : Store) (column : String) : Option Nat :=
  store.columns.entries.findIdx? (·.1 == dropMarker column)

/-- The token in a row and a column; `none` also when there is no such row or column. -/
def cell? (store : Store) (row : Nat) (column : String) : Option String :=
  (store.columnIndex? column).bind fun index =>
    (store.rows[row]?).bind fun cells => (cells[index]?).join

/-- A store as a table to evaluate over. -/
def table (store : Store) : BindingTable := ⟨store.names, store.rows.length, store.cell?⟩

end Store

/-- A relation as it is kept. -/
def Relation.store (relation : Relation) : Store where
  columns :=
    ⟨relation.columns.map fun column => (dropMarker column, column), by
      rw [List.map_map]
      exact relation.distinct⟩
  rows := relation.rows

namespace Relation

variable {relation : Relation}

/-! ### Reading a store -/

@[simp] theorem names_store (relation : Relation) : relation.store.names = relation.columns := by
  unfold Store.names store
  rw [List.map_map]
  exact List.map_id' _

@[simp] theorem width_store (relation : Relation) :
    relation.store.width = relation.columns.length := List.length_map _

@[simp] theorem rows_store (relation : Relation) : relation.store.rows = relation.rows := rfl

@[simp] theorem columnIndex?_store (relation : Relation) (name : String) :
    relation.store.columnIndex? name = relation.columnIndex? name := by
  unfold Store.columnIndex? columnIndex? store
  rw [List.findIdx?_map]
  rfl

@[simp] theorem cell?_store (relation : Relation) (row : Nat) (name : String) :
    relation.store.cell? row name = relation.cell? row name := by
  unfold Store.cell? cell?
  rw [columnIndex?_store, rows_store]

/-- **Reading a store by name is reading the relation.** -/
theorem table_store (relation : Relation) : relation.store.table = relation.table := by
  unfold Store.table table
  rw [names_store, rows_store]
  congr 1
  funext row name
  exact cell?_store relation row name

/-! ### Columns -/

/-- **Which column is reported**: the first one that names the same as one before it. -/
theorem repeatedColumn?_eq_some_iff {seen columns : List String} {column : String} :
    repeatedColumn? seen columns = some column ↔
      ∃ earlier later, columns = earlier ++ column :: later ∧
        (earlier.map dropMarker).Nodup ∧ (∀ name ∈ earlier.map dropMarker, name ∉ seen) ∧
        (dropMarker column ∈ seen ∨ dropMarker column ∈ earlier.map dropMarker) := by
  induction columns generalizing seen with
  | nil => simp [repeatedColumn?]
  | cons first rest ih =>
    have moved : ∀ more : List String,
        (dropMarker column ∈ dropMarker first :: seen ∨ dropMarker column ∈ more.map dropMarker) ↔
          (dropMarker column ∈ seen ∨ dropMarker column ∈ (first :: more).map dropMarker) := by
      intro more
      rw [List.map_cons, List.mem_cons, List.mem_cons, or_assoc, or_left_comm]
    rw [repeatedColumn?]
    by_cases known : dropMarker first ∈ seen
    · rw [if_pos known]
      constructor
      · intro same
        obtain rfl := Option.some.inj same
        exact ⟨[], rest, rfl, List.nodup_nil, by simp, Or.inl known⟩
      · rintro ⟨earlier, later, parts, -, fresh, -⟩
        cases earlier with
        | nil => rw [(List.cons.inj parts).1]
        | cons other more =>
          rw [(List.cons.inj parts).1] at known
          exact absurd known (fresh _ (by simp))
    · rw [if_neg known, ih]
      constructor
      · rintro ⟨earlier, later, rfl, distinct, fresh, repeated⟩
        refine ⟨first :: earlier, later, rfl, ?_, ?_, (moved earlier).mp repeated⟩
        · refine List.nodup_cons.mpr ⟨fun member => ?_, distinct⟩
          exact fresh _ member List.mem_cons_self
        · intro name member
          rcases List.mem_cons.mp member with rfl | inEarlier
          · exact known
          · exact fun seenBefore => fresh name inEarlier (List.mem_cons_of_mem _ seenBefore)
      · rintro ⟨earlier, later, parts, distinct, fresh, repeated⟩
        cases earlier with
        | nil =>
          obtain ⟨rfl, -⟩ := List.cons.inj parts
          exact absurd repeated (by simp [known])
        | cons other more =>
          obtain ⟨rfl, rfl⟩ := List.cons.inj parts
          obtain ⟨notInMore, moreDistinct⟩ := List.nodup_cons.mp distinct
          refine ⟨more, later, rfl, moreDistinct, ?_, (moved more).mpr repeated⟩
          intro name member seenBefore
          rcases List.mem_cons.mp seenBefore with rfl | inSeen
          · exact notInMore member
          · exact fresh name (List.mem_cons_of_mem _ member) inSeen

theorem ofColumns_eq_error_iff {columns : List String} {error : Error} :
    ofColumns columns = .error error ↔
      ∃ earlier column later, columns = earlier ++ column :: later ∧
        (earlier.map dropMarker).Nodup ∧ dropMarker column ∈ earlier.map dropMarker ∧
        error = .duplicateColumn column := by
  have reported : ofColumns columns = .error error ↔
      ∃ column, repeatedColumn? [] columns = some column ∧ error = .duplicateColumn column := by
    unfold ofColumns
    split
    · rename_i column found
      simp [found, eq_comm]
    · rename_i found
      simp [found]
  simp only [reported, repeatedColumn?_eq_some_iff, List.not_mem_nil, not_false_eq_true,
    implies_true, true_and, false_or]
  constructor
  · rintro ⟨column, ⟨earlier, later, parts, distinct, repeated⟩, isError⟩
    exact ⟨earlier, column, later, parts, distinct, repeated, isError⟩
  · rintro ⟨earlier, column, later, parts, distinct, repeated, isError⟩
    exact ⟨column, ⟨earlier, later, parts, distinct, repeated⟩, isError⟩

/-- Columns make a relation exactly when they are distinct up to markers. -/
theorem exists_ofColumns_iff {columns : List String} :
    (∃ relation, ofColumns columns = .ok relation) ↔ (columns.map dropMarker).Nodup := by
  constructor
  · rintro ⟨relation, made⟩
    rw [← columns_ofColumns made]
    exact relation.distinct
  · intro distinct
    exact ofColumns_columns ⟨columns, [], distinct, by simp⟩

theorem rows_ofColumns {columns : List String} (made : ofColumns columns = .ok relation) :
    relation.rows = [] := by
  unfold ofColumns at made
  split at made
  · cases made
  · rw [← Except.ok.inj made]

end Relation

namespace Store

/-- Adding columns one by one stops at the first that names the same as one before it. -/
theorem foldlM_addColumn (columns : List String) {seen : List String} {map : Keyed String}
    (same : ∀ name, name ∈ seen ↔ name ∈ map.keys) :
    (∀ column, Relation.repeatedColumn? seen columns = some column →
        columns.foldlM addColumn map = .error (.duplicateColumn column)) ∧
      (Relation.repeatedColumn? seen columns = none →
        ∃ kept, columns.foldlM addColumn map = .ok kept ∧
          kept.entries = map.entries ++ columns.map fun column => (dropMarker column, column)) := by
  induction columns generalizing seen map with
  | nil =>
    refine ⟨?_, fun _ => ⟨map, rfl, ?_⟩⟩
    · intro column reported
      cases reported
    · rw [List.map_nil, List.append_nil]
  | cons column rest ih =>
    rw [Relation.repeatedColumn?, List.foldlM_cons]
    have contains : map.contains (dropMarker column) = true ↔ dropMarker column ∈ seen := by
      rw [same]
      unfold Keyed.contains Keyed.keys
      simp
    by_cases known : dropMarker column ∈ seen
    · have stopped : addColumn map column = .error (.duplicateColumn column) :=
        if_pos (contains.mpr known)
      rw [if_pos known, stopped]
      refine ⟨?_, ?_⟩
      · intro other reported
        obtain rfl := Option.some.inj reported
        rfl
      · intro noRepeat
        cases noRepeat
    · have absent : ¬ map.contains (dropMarker column) = true := fun found =>
        known (contains.mp found)
      have added : addColumn map column = .ok (map.insert (dropMarker column) column) :=
        if_neg absent
      have entries : (map.insert (dropMarker column) column).entries =
          map.entries ++ [(dropMarker column, column)] :=
        Keyed.entries_insert (Bool.eq_false_iff.mpr absent) column
      have sameNext : ∀ name, name ∈ dropMarker column :: seen ↔
          name ∈ (map.insert (dropMarker column) column).keys := by
        intro name
        rw [Keyed.keys_insert, if_neg absent, List.mem_append, List.mem_singleton, List.mem_cons,
          same, or_comm]
      obtain ⟨reported, filled⟩ := ih sameNext
      rw [if_neg known, added]
      refine ⟨reported, fun noRepeat => ?_⟩
      obtain ⟨kept, made, keptEntries⟩ := filled noRepeat
      refine ⟨kept, made, ?_⟩
      rw [keptEntries, entries, List.append_assoc]
      rfl

/-- **Making a store of columns** makes the store of the relation with these columns. -/
theorem ofColumns_eq (columns : List String) :
    ofColumns columns = (Relation.ofColumns columns).map Relation.store := by
  have empty : ∀ name, name ∈ ([] : List String) ↔ name ∈ (Keyed.empty : Keyed String).keys :=
    fun name => Iff.rfl
  obtain ⟨reported, filled⟩ := foldlM_addColumn columns empty
  unfold ofColumns
  cases made : Relation.ofColumns columns with
  | error error =>
    unfold Relation.ofColumns at made
    split at made
    · rename_i column found
      rw [reported column found, ← Except.error.inj made]
      rfl
    · cases made
  | ok relation =>
    have columnsEq := Relation.columns_ofColumns made
    have rowsEq := Relation.rows_ofColumns made
    have noRepeat : Relation.repeatedColumn? [] columns = none :=
      Relation.repeatedColumn?_eq_none (columnsEq ▸ relation.distinct) fun _ _ =>
        List.not_mem_nil
    obtain ⟨kept, isKept, entries⟩ := filled noRepeat
    rw [isKept]
    show Except.ok _ = Except.ok _
    obtain ⟨keptEntries, keptDistinct⟩ := kept
    subst columnsEq
    simp only [Keyed.empty, List.nil_append] at entries
    subst entries
    unfold Relation.store
    rw [rowsEq]

/-! ### Rows -/

theorem after_pushRow (store : Store) (row : Row) :
    (pushRow row).after store =
      if row.length = store.width then (.ok (), { store with rows := store.rows ++ [row] })
      else (.error (.rowWidth store.rows.length row.length store.width), store) := by
  unfold pushRow
  rw [Work.after_bind_of_ok Work.after_get]
  by_cases fits : row.length = store.width
  · rw [if_pos fits, if_pos fits]
    rfl
  · rw [if_neg fits, if_neg fits]
    rfl

end Store

/-- The outcome of a change to a relation, with the store of the relation that there is then. -/
def Relation.settled {ε : Type} (relation : Relation) : Except ε Relation → Except ε Unit × Store
  | .ok next => (.ok (), next.store)
  | .error error => (.error error, relation.store)

namespace Store

/-- **Adding a row to the store of a relation** is adding it to the relation. A row that is refused
leaves the store as it was. -/
theorem pushRow_store (relation : Relation) (row : Row) :
    (pushRow row).after relation.store = relation.settled (relation.pushRow row) := by
  rw [after_pushRow, Relation.width_store]
  unfold Relation.pushRow
  split
  · rfl
  · rfl

/-- A row with a cell for each column is not refused. -/
theorem exists_pushRow_store {relation : Relation} {row : Row}
    (fits : row.length = relation.columns.length) :
    ∃ longer : Relation, (pushRow row).completed relation.store = .ok longer.store ∧
      longer.columns = relation.columns ∧ longer.rows = relation.rows ++ [row] := by
  unfold Work.completed
  rw [pushRow_store]
  unfold Relation.pushRow
  rw [dif_pos fits]
  exact ⟨_, rfl, rfl, rfl⟩

/-- **Rows are added** one after another, until one of them is refused. -/
theorem forM_pushRow_store (relation : Relation) (rows : List Row) :
    Work.completed (forM rows pushRow) relation.store =
      (rows.foldlM Relation.pushRow relation).map Relation.store := by
  unfold Work.completed
  induction rows generalizing relation with
  | nil => rfl
  | cons row rest ih =>
    have first := pushRow_store relation row
    rw [List.forM_cons, List.foldlM_cons]
    cases pushed : relation.pushRow row with
    | error error =>
      rw [pushed] at first
      rw [Work.after_bind_of_error first]
      rfl
    | ok longer =>
      rw [pushed] at first
      rw [Work.after_bind_of_ok first]
      exact ih longer

/-- **Making a store of columns and rows** makes the store of the relation with these. -/
theorem ofRows_eq (columns : List String) (rows : List Row) :
    ofRows columns rows = (Relation.ofRows columns rows).map Relation.store := by
  unfold ofRows Relation.ofRows
  rw [ofColumns_eq]
  cases Relation.ofColumns columns with
  | error error => rfl
  | ok relation => exact forM_pushRow_store relation rows

end Store

end RuleAtoms
