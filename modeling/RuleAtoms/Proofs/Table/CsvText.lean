/-
**What comma-separated values tell of a relation.**

The values can be read back from the text alone: a quote at the beginning of a field opens it, a
doubled quote stands for one, and a comma or a line feed ends a field when no quote is open. A reader
goes over the text character by character and knows at which place of a field it stands (`Place`).

* `foldl_csvField`: reading passes over a written field;
* `foldl_csvLine`: over the fields of a line;
* `records_csv`: the records of the text of a relation are its columns and its rows;
* `csv_eq_iff`: which relations have the same text.
-/

import RuleAtoms.Proofs.Table.Lookup
import RuleAtoms.Relation.Csv

namespace RuleAtoms.Csv

/-! ### Reading -/

/-- Where a reader stands in a field. -/
inductive Place where
  /-- In front of the first character. -/
  | start
  /-- In a field without quotes around it. -/
  | bare
  /-- Between the quotes. -/
  | quoted
  /-- Behind a quote between the quotes: the field is closed, unless another quote follows. -/
  | closed
deriving DecidableEq

/-- What has been read: the characters of the field, the fields of the record before it, and the
records before that one, each in reverse. -/
structure Reading where
  place : Place
  field : List Char
  fields : List (List Char)
  records : List (List (List Char))

namespace Reading

def start : Reading := ⟨.start, [], [], []⟩

def endField (reading : Reading) : Reading :=
  { reading with place := .start, field := [], fields := reading.field.reverse :: reading.fields }

def endRecord (reading : Reading) : Reading :=
  ⟨.start, [], [], (reading.field.reverse :: reading.fields).reverse :: reading.records⟩

/-- What has been read after one more character. -/
def step (reading : Reading) (c : Char) : Reading :=
  match reading.place with
  | .quoted =>
    if c = '"' then { reading with place := .closed }
    else { reading with field := c :: reading.field }
  | place =>
    if c = ',' then reading.endField
    else if c = '\n' then reading.endRecord
    else if c = '"' ∧ place = .start then { reading with place := .quoted }
    else if c = '"' ∧ place = .closed then { reading with place := .quoted, field := c :: reading.field }
    else { reading with place := .bare, field := c :: reading.field }

end Reading

/-- The records of a text. -/
def records (text : List Char) : List (List (List Char)) :=
  (text.foldl Reading.step .start).records.reverse

open RuleAtoms.Relation

/-! ### One field -/

section Fields

variable {field : List Char} {before : List (List Char)} {done : List (List (List Char))}

/-- Characters without a meaning are read as they are. -/
theorem foldl_bare {place : Place} (notQuoted : place ≠ .quoted) {text : List Char}
    (plain : text.any isCsvSpecial = false) :
    ∃ other ≠ Place.quoted, text.foldl Reading.step ⟨place, field, before, done⟩ =
      ⟨other, text.reverse ++ field, before, done⟩ := by
  induction text generalizing place field with
  | nil => exact ⟨place, notQuoted, rfl⟩
  | cons c rest ih =>
    rw [List.any_cons, Bool.or_eq_false_iff] at plain
    obtain ⟨isPlain, restPlain⟩ := plain
    simp only [isCsvSpecial, Bool.or_eq_false_iff, beq_eq_false_iff_ne] at isPlain
    obtain ⟨⟨⟨noComma, noQuote⟩, noLineFeed⟩, -⟩ := isPlain
    have stepped : Reading.step ⟨place, field, before, done⟩ c = ⟨.bare, c :: field, before, done⟩ := by
      unfold Reading.step
      cases place <;> simp_all
    obtain ⟨other, isOther, read⟩ := @ih (c :: field) .bare (by decide) restPlain
    refine ⟨other, isOther, ?_⟩
    rw [List.foldl_cons, stepped, read, List.reverse_cons, List.append_assoc, List.singleton_append]

/-- Between quotes every character is read as itself, a doubled quote as one. -/
theorem foldl_csvChar (c : Char) :
    (csvChar c).foldl Reading.step ⟨.quoted, field, before, done⟩ =
      ⟨.quoted, c :: field, before, done⟩ := by
  unfold csvChar
  by_cases isQuote : c = '"'
  · subst isQuote
    rfl
  · have noQuote : (c == '"') = false := beq_eq_false_iff_ne.mpr isQuote
    simp only [noQuote, Bool.false_eq_true, if_false, List.foldl_cons, List.foldl_nil, Reading.step,
      isQuote]

theorem foldl_flatMap_csvChar (text : List Char) :
    (text.flatMap csvChar).foldl Reading.step ⟨.quoted, field, before, done⟩ =
      ⟨.quoted, text.reverse ++ field, before, done⟩ := by
  induction text generalizing field with
  | nil => rfl
  | cons c rest ih =>
    rw [List.flatMap_cons, List.foldl_append, foldl_csvChar, ih, List.reverse_cons, List.append_assoc,
      List.singleton_append]

/-- **Reading passes over a written field**, and then no quote is open. -/
theorem foldl_csvField (text : List Char) :
    ∃ place ≠ Place.quoted, (csvField text).foldl Reading.step ⟨.start, [], before, done⟩ =
      ⟨place, text.reverse, before, done⟩ := by
  unfold csvField
  split
  · refine ⟨.closed, by decide, ?_⟩
    have opened : Reading.step ⟨.start, [], before, done⟩ '"' = ⟨.quoted, [], before, done⟩ := rfl
    rw [List.cons_append, List.foldl_cons, opened, List.foldl_append, foldl_flatMap_csvChar,
      List.append_nil]
    rfl
  · rename_i plain
    obtain ⟨place, notQuoted, read⟩ := @foldl_bare [] before done .start (by decide) text
      (Bool.eq_false_iff.mpr plain)
    exact ⟨place, notQuoted, by rw [read, List.append_nil]⟩

theorem step_comma {place : Place} (notQuoted : place ≠ .quoted) :
    Reading.step ⟨place, field, before, done⟩ ',' = ⟨.start, [], field.reverse :: before, done⟩ := by
  cases place with
  | quoted => exact absurd rfl notQuoted
  | start => rfl
  | bare => rfl
  | closed => rfl

theorem step_lineFeed {place : Place} (notQuoted : place ≠ .quoted) :
    Reading.step ⟨place, field, before, done⟩ '\n' =
      ⟨.start, [], [], (field.reverse :: before).reverse :: done⟩ := by
  cases place with
  | quoted => exact absurd rfl notQuoted
  | start => rfl
  | bare => rfl
  | closed => rfl

end Fields

/-! ### Lines -/

/-- **Reading passes over a written line** and adds its fields as one record. -/
theorem foldl_csvLine {fields : List (List Char)} (nonempty : fields ≠ [])
    {before : List (List Char)} {done : List (List (List Char))} :
    (csvLine fields).foldl Reading.step ⟨.start, [], before, done⟩ =
      ⟨.start, [], [], (before.reverse ++ fields) :: done⟩ := by
  unfold csvLine
  induction fields generalizing before with
  | nil => exact absurd rfl nonempty
  | cons text rest ih =>
    obtain ⟨place, notQuoted, read⟩ := @foldl_csvField before done text
    cases rest with
    | nil =>
      rw [List.map_singleton, Text.join, List.foldl_append, read, List.foldl_cons, List.foldl_nil,
        step_lineFeed notQuoted, List.reverse_reverse, List.reverse_cons]
    | cons next others =>
      have joined : Text.join [','] ((text :: next :: others).map csvField) =
          csvField text ++ [','] ++ Text.join [','] ((next :: others).map csvField) := rfl
      rw [joined, List.append_assoc, List.append_assoc, List.foldl_append, read,
        List.singleton_append, List.foldl_cons, step_comma notQuoted, ih (List.cons_ne_nil _ _),
        List.reverse_cons, List.reverse_reverse, List.append_assoc, List.singleton_append]

/-- **Written lines are read** as the records they were written from, if each has a field. -/
theorem foldl_flatMap_csvLine {lines : List (List (List Char))} (nonempty : ∀ line ∈ lines, line ≠ [])
    {done : List (List (List Char))} :
    (lines.flatMap csvLine).foldl Reading.step ⟨.start, [], [], done⟩ =
      ⟨.start, [], [], lines.reverse ++ done⟩ := by
  induction lines generalizing done with
  | nil => rfl
  | cons line rest ih =>
    obtain ⟨someField, restNonempty⟩ := List.forall_mem_cons.mp nonempty
    rw [List.flatMap_cons, List.foldl_append, foldl_csvLine someField, ih restNonempty,
      List.reverse_cons, List.append_assoc, List.reverse_nil, List.nil_append, List.singleton_append]

/-! ### Relations -/

/-- A row with its absent cells as empty texts. -/
def filled (row : Row) : List String := row.map (·.getD "")

/-- The columns and the rows as records of texts. -/
def recordsOf (relation : Relation) : List (List String) :=
  relation.columns :: relation.rows.map filled

theorem csv_eq_flatMap (relation : Relation) :
    relation.csv = ((recordsOf relation).map (·.map String.toList)).flatMap csvLine := by
  have cells : ∀ row : Row, row.map csvCell = (filled row).map String.toList := by
    intro row
    rw [filled, List.map_map]
    rfl
  unfold csv recordsOf
  simp only [cells, List.map_cons, List.flatMap_cons, List.flatMap_map]

/-- In a relation with columns every record has a field. -/
theorem ne_nil_of_mem_recordsOf {relation : Relation} (someColumn : relation.columns ≠ []) :
    ∀ record ∈ recordsOf relation, record ≠ [] := by
  refine List.forall_mem_cons.mpr ⟨someColumn, fun record member isNil => ?_⟩
  obtain ⟨row, isRow, rfl⟩ := List.mem_map.mp member
  have width := relation.rectangular row isRow
  rw [List.map_eq_nil_iff.mp isNil] at width
  exact someColumn (List.length_eq_zero_iff.mp width.symm)

/-- **The records of the text of a relation** are its columns and its rows, absent cells read as empty
ones. -/
theorem records_csv {relation : Relation} (someColumn : relation.columns ≠ []) :
    records relation.csv = (recordsOf relation).map (·.map String.toList) := by
  have nonempty : ∀ line ∈ (recordsOf relation).map (·.map String.toList), line ≠ [] := by
    intro line member isNil
    obtain ⟨record, isRecord, rfl⟩ := List.mem_map.mp member
    exact ne_nil_of_mem_recordsOf someColumn record isRecord (List.map_eq_nil_iff.mp isNil)
  unfold records Reading.start
  rw [csv_eq_flatMap, foldl_flatMap_csvLine nonempty, List.append_nil, List.reverse_reverse]

/-- **Nothing is lost in comma-separated values** but the difference between absent and empty cells.
Relations with columns have the same text exactly when they have the same columns in the same order and
the same rows, absent cells read as empty texts. -/
theorem csv_eq_iff {first second : Relation} (firstColumns : first.columns ≠ [])
    (secondColumns : second.columns ≠ []) :
    first.csv = second.csv ↔
      first.columns = second.columns ∧ first.rows.length = second.rows.length ∧
        first.rows.map filled = second.rows.map filled := by
  have textsInjective : Function.Injective fun record : List String => record.map String.toList :=
    List.map_injective_iff.mpr fun _ _ => String.toList_inj.mp
  constructor
  · intro same
    have sameRecords := congrArg records same
    rw [records_csv firstColumns, records_csv secondColumns] at sameRecords
    obtain ⟨columns, rows⟩ := List.cons.inj (List.map_injective_iff.mpr textsInjective sameRecords)
    have sameCount := congrArg List.length rows
    rw [List.length_map, List.length_map] at sameCount
    exact ⟨columns, sameCount, rows⟩
  · rintro ⟨columns, -, rows⟩
    rw [csv_eq_flatMap, csv_eq_flatMap, recordsOf, recordsOf, columns, rows]

/-- A relation with every special character, and with an absent cell. -/
def specialCells : Relation :=
  ⟨["?a,b", "\"c\""], [[none, some "1\r\n2"], [some ",", some "\"\""]], by decide, by decide⟩

/-- The same relation with the absent cell empty. -/
def emptiedCells : Relation :=
  ⟨["?a,b", "\"c\""], [[some "", some "1\r\n2"], [some ",", some "\"\""]], by decide, by decide⟩

/-- The text of both is the same, and with it all but the absent cell. -/
theorem csv_specialCells :
    specialCells.csv = emptiedCells.csv ∧
      specialCells.csv = ("\"?a,b\",\"\"\"c\"\"\"\n,\"1\r\n2\"\n" ++
        "\",\",\"\"\"\"\"\"\n").toList ∧
      specialCells.rows ≠ emptiedCells.rows ∧
      specialCells.columns = emptiedCells.columns ∧
        specialCells.rows.length = emptiedCells.rows.length ∧
        specialCells.rows.map filled = emptiedCells.rows.map filled := by
  have same : specialCells.csv = emptiedCells.csv := by decide
  exact ⟨same, by decide, by decide, (csv_eq_iff (by decide) (by decide)).mp same⟩

end RuleAtoms.Csv
