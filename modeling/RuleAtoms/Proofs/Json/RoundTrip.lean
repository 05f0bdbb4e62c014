/-
**Values on several lines read back.**

Every character of a text is written so that reading it adds just this character to the text, so
texts of any characters read back (`readString?_quote`). Blanks in front of a value are skipped, so
the line ends and the depth of nesting do not matter, and a value is followed by what ends it. The
induction is on the value. It carries the fuel: a value, an item or an entry uses up one of it and
has at least one character.

Numbers keep their text, which need not be the text of a number, so the values here hold none.

* `readPieces_escapeChar`, `readString?_quote`: characters and texts read back;
* `readValue?_prettyAt`: so does a value in front of anything;
* `read?_pretty`: hence the text of a value holds this value.
-/

import RuleAtoms.Json.Reader
import RuleAtoms.Proofs.Text.Runs

namespace RuleAtoms.Json

/-! ### Strings -/

section strings

variable {rest : List Char}

/-- The digits of a control character are those of its number. -/
theorem hexNumber?_digits : ∀ code < 0x20,
    Number.hexNumber? ['0', '0', Nat.digitChar (code / 16), Nat.digitChar (code % 16)] =
      some code := by
  decide

/-- A unit that is no half of a surrogate pair is a character of the text by itself. -/
theorem joinPieces_unit {code : Nat} (isControl : code < 0x20) (pieces : List Piece) :
    joinPieces (.unit code :: pieces) = (joinPieces pieces).map (Char.ofNat code :: ·) := by
  have notHigh : isHighHalf code = false := by
    unfold isHighHalf
    rw [decide_eq_false (by omega), Bool.false_and]
  have notLow : isLowHalf code = false := by
    unfold isLowHalf
    rw [decide_eq_false (by omega), Bool.false_and]
  cases pieces with
  | nil => simp only [joinPieces, notHigh, notLow, Bool.or_self, Bool.false_eq_true, if_false]
  | cons next others =>
    cases next with
    | char => simp only [joinPieces, notHigh, notLow, Bool.or_self, Bool.false_eq_true, if_false]
    | unit => rw [joinPieces, notHigh, notLow, if_neg Bool.false_ne_true, if_neg Bool.false_ne_true]

/-- **A written character** is read as one piece, which adds this character to the text. -/
theorem readPieces_escapeChar (c : Char) : ∃ piece : Piece,
    (∀ rest, readPieces (escapeChar c ++ rest) =
      (readPieces rest).map fun (pieces, tail) => (piece :: pieces, tail)) ∧
    ∀ pieces, joinPieces (piece :: pieces) = (joinPieces pieces).map (c :: ·) := by
  unfold escapeChar
  split
  iterate 7 exact ⟨.char _, fun _ => rfl, fun _ => rfl⟩
  rename_i notQuote notBackslash _ _ _ _ _
  by_cases isControl : c.toNat < 0x20
  · refine ⟨.unit c.toNat, fun rest => ?_, fun pieces => ?_⟩
    · rw [if_pos isControl]
      simp only [List.cons_append, List.nil_append, readPieces, hexNumber?_digits _ isControl,
        Option.bind_some]
    · rw [joinPieces_unit isControl, Char.ofNat_toNat]
  · refine ⟨.char c, fun rest => ?_, fun pieces => by rw [joinPieces]⟩
    have plain : (c == '\\' || decide (c.toNat < 0x20)) = false := by
      rw [decide_eq_false isControl, Bool.or_false]
      exact beq_eq_false_iff_ne.mpr notBackslash
    rw [if_neg isControl, List.singleton_append, readPieces, plain, if_neg Bool.false_ne_true]
    · exact notQuote
    · exact fun _ _ _ _ _ isBackslash _ => notBackslash isBackslash
    · exact fun _ _ isBackslash _ => notBackslash isBackslash

/-- **Texts of any characters read back** behind their opening quote, up to the closing one. -/
theorem readString?_quote (text : String) (rest : List Char) :
    readString? (text.toList.flatMap escapeChar ++ '"' :: rest) = some (some text, rest) := by
  have read : ∀ written : List Char, ∃ pieces,
      readPieces (written.flatMap escapeChar ++ '"' :: rest) = some (pieces, rest) ∧
        joinPieces pieces = some written := by
    intro written
    induction written with
    | nil => exact ⟨[], rfl, rfl⟩
    | cons c others ih =>
      obtain ⟨piece, takes, adds⟩ := readPieces_escapeChar c
      obtain ⟨pieces, readsOthers, joins⟩ := ih
      refine ⟨piece :: pieces, ?_, ?_⟩
      · rw [List.flatMap_cons, List.append_assoc, takes, readsOthers, Option.map_some]
      · rw [adds, joins, Option.map_some]
  obtain ⟨pieces, reads, joins⟩ := read text.toList
  rw [readString?, reads, Option.map_some]
  dsimp only
  rw [joins, Option.map_some, String.ofList_toList]

/-- A key reads back, also one that is no text. -/
theorem exists_quoteKey (key : Option String) : ∃ body, quoteKey key = '"' :: body ∧
    ∀ rest, readString? (body ++ rest) = some (key, rest) := by
  cases key with
  | none => exact ⟨"\\ud800\"".toList, rfl, fun _ => rfl⟩
  | some text =>
    refine ⟨text.toList.flatMap escapeChar ++ ['"'], rfl, fun rest => ?_⟩
    rw [List.append_assoc, List.singleton_append, readString?_quote]

end strings

/-! ### Values -/

mutual

/-- Whether there are no numbers in a value. -/
def isNumberless : Json → Bool
  | number _ => false
  | array items => areNumberless items
  | object entries => haveNumberless entries
  | _ => true

def areNumberless : List Json → Bool
  | [] => true
  | item :: rest => isNumberless item && areNumberless rest

def haveNumberless : List (Option String × Json) → Bool
  | [] => true
  | (_, value) :: rest => isNumberless value && haveNumberless rest

end

theorem skipBlanks_newLine (depth : Nat) (text : List Char) :
    skipBlanks (newLine depth ++ text) = skipBlanks text := by
  have blank : ∀ c ∈ newLine depth, isBlank c = true := by
    intro c member
    rcases List.mem_cons.mp member with rfl | inRun
    · rfl
    · rw [(List.mem_replicate.mp inRun).2]
      rfl
  exact List.dropWhile_append_of_pos blank

/-- A line end uses up one of the fuel. -/
theorem length_le_of_newLine_append {depth fuel : Nat} {text : List Char}
    (enough : (newLine depth ++ text).length ≤ fuel + 1) : text.length ≤ fuel := by
  rw [newLine, List.cons_append, List.length_cons, List.length_append] at enough
  omega

theorem skipBlanks_cons {c : Char} (noBlank : isBlank c = false) (text : List Char) :
    skipBlanks (c :: text) = c :: text := Text.dropWhile_of_ends (Text.ends_cons noBlank)

theorem readValue?_skipBlanks {text other : List Char} (same : skipBlanks text = skipBlanks other)
    (fuel : Nat) : readValue? fuel text = readValue? fuel other := by
  cases fuel with
  | zero => rfl
  | succ fuel => rw [readValue?, readValue?, same]

theorem readEntries?_skipBlanks {text other : List Char}
    (same : skipBlanks text = skipBlanks other) (fuel : Nat) :
    readEntries? fuel text = readEntries? fuel other := by
  cases fuel with
  | zero => rfl
  | succ fuel => rw [readEntries?, readEntries?, same]

/-- A value begins with neither a blank nor the end of an array. -/
theorem exists_prettyAt {value : Json} (numberless : isNumberless value = true) (depth : Nat) :
    ∃ first body, prettyAt depth value = first :: body ∧ isBlank first = false ∧ first ≠ ']' := by
  cases value with
  | null => exact ⟨'n', _, rfl, rfl, by decide⟩
  | bool value =>
    cases value with
    | false => exact ⟨'f', _, rfl, rfl, by decide⟩
    | true => exact ⟨'t', _, rfl, rfl, by decide⟩
  | number text => cases numberless
  | string text => exact ⟨'"', _, rfl, rfl, by decide⟩
  | brokenString => exact ⟨'"', _, rfl, rfl, by decide⟩
  | array items =>
    cases items with
    | nil => exact ⟨'[', _, rfl, rfl, by decide⟩
    | cons => exact ⟨'[', _, rfl, rfl, by decide⟩
  | object entries =>
    cases entries with
    | nil => exact ⟨'\x7b', _, rfl, rfl, by decide⟩
    | cons => exact ⟨'\x7b', _, rfl, rfl, by decide⟩

theorem readValue?_quoteKey (key : Option String) (fuel : Nat) (rest : List Char) :
    readValue? (fuel + 1) (quoteKey key ++ rest) =
      some (key.elim brokenString string, rest) := by
  obtain ⟨body, quoted, reads⟩ := exists_quoteKey key
  rw [quoted, List.cons_append, readValue?, skipBlanks_cons rfl]
  change (readString? (body ++ rest)).map _ = _
  rw [reads]
  cases key with
  | none => rfl
  | some text => rfl

theorem readValue?_array {text : List Char} (hasItem : (skipBlanks text).head? ≠ some ']')
    (fuel : Nat) :
    readValue? (fuel + 1) ('[' :: text) =
      (readItems? fuel text).map fun (items, tail) => (array items, tail) := by
  rw [readValue?, skipBlanks_cons rfl]
  simp only
  split
  · rename_i isEmpty
    exact absurd (congrArg List.head? isEmpty) hasItem
  · rfl

theorem readValue?_object {text : List Char} (hasEntry : (skipBlanks text).head? ≠ some '\x7d')
    (fuel : Nat) :
    readValue? (fuel + 1) ('\x7b' :: text) =
      (readEntries? fuel text).map fun (entries, tail) => (object entries, tail) := by
  rw [readValue?, skipBlanks_cons rfl]
  simp only
  split
  · rename_i isEmpty
    exact absurd (congrArg List.head? isEmpty) hasEntry
  · rfl

/-- What reading the entries of an object does with one more entry. -/
theorem readEntries?_entry (key : Option String) (fuel depth : Nat) (text : List Char) :
    readEntries? (fuel + 1) (newLine depth ++ (quoteKey key ++ ':' :: ' ' :: text)) =
      (readValue? fuel text).bind fun (value, afterValue) =>
        match skipBlanks afterValue with
        | ',' :: tail =>
          (readEntries? fuel tail).map fun (entries, behind) => ((key, value) :: entries, behind)
        | '\x7d' :: tail => some ([(key, value)], tail)
        | _ => none := by
  obtain ⟨body, quoted, reads⟩ := exists_quoteKey key
  rw [readEntries?_skipBlanks (skipBlanks_newLine depth _), quoted, List.cons_append, readEntries?,
    skipBlanks_cons rfl]
  change (readString? (body ++ ':' :: ' ' :: text)).bind _ = _
  rw [reads]
  have sameBlanks : skipBlanks (' ' :: text) = skipBlanks text := rfl
  change (readValue? fuel (' ' :: text)).bind _ = _
  exact congrArg (Option.bind · _) (readValue?_skipBlanks sameBlanks fuel)

section items

variable (depth : Nat) (item next : Json) (others : List Json) (rest : List Char)

theorem prettyItems_singleton :
    prettyItems depth [item] ++ rest = newLine depth ++ (prettyAt depth item ++ rest) := by
  rw [prettyItems, List.append_assoc]

theorem prettyItems_cons :
    prettyItems depth (item :: next :: others) ++ rest =
      newLine depth ++ (prettyAt depth item ++ ',' :: (prettyItems depth (next :: others) ++ rest)) := by
  rw [prettyItems, List.append_assoc, List.append_assoc, List.cons_append]
  exact List.cons_ne_nil next others

/-- The items of an array begin with no end of the array. -/
theorem head?_prettyItems (numberless : isNumberless item = true) :
    (skipBlanks (prettyItems depth (item :: others) ++ rest)).head? ≠ some ']' := by
  obtain ⟨first, body, starts, noBlank, noEnd⟩ := exists_prettyAt numberless depth
  have begins : ∃ tail, prettyItems depth (item :: others) ++ rest =
      newLine depth ++ (first :: tail) := by
    cases others with
    | nil => exact ⟨_, by rw [prettyItems_singleton, starts, List.cons_append]⟩
    | cons next others => exact ⟨_, by rw [prettyItems_cons, starts, List.cons_append]⟩
  obtain ⟨tail, begins⟩ := begins
  rw [begins, skipBlanks_newLine, skipBlanks_cons noBlank, List.head?_cons]
  exact fun same => noEnd (Option.some.inj same)

end items

section entries

variable (depth : Nat) (key : Option String) (value : Json) (next : Option String × Json)
  (others : List (Option String × Json)) (rest : List Char)

theorem prettyEntries_singleton :
    prettyEntries depth [(key, value)] ++ rest =
      newLine depth ++ (quoteKey key ++ ':' :: ' ' :: (prettyAt depth value ++ rest)) := by
  rw [prettyEntries]
  simp only [List.append_assoc, List.cons_append]

theorem prettyEntries_cons :
    prettyEntries depth ((key, value) :: next :: others) ++ rest =
      newLine depth ++ (quoteKey key ++ ':' :: ' ' :: (prettyAt depth value ++
        ',' :: (prettyEntries depth (next :: others) ++ rest))) := by
  rw [prettyEntries]
  · simp only [List.append_assoc, List.cons_append]
  · exact List.cons_ne_nil next others

/-- The entries of an object begin with no end of the object. -/
theorem head?_prettyEntries :
    (skipBlanks (prettyEntries depth ((key, value) :: others) ++ rest)).head? ≠ some '\x7d' := by
  obtain ⟨body, quoted, -⟩ := exists_quoteKey key
  have begins : ∃ tail, prettyEntries depth ((key, value) :: others) ++ rest =
      newLine depth ++ ('"' :: tail) := by
    cases others with
    | nil => exact ⟨_, by rw [prettyEntries_singleton, quoted, List.cons_append]⟩
    | cons next others => exact ⟨_, by rw [prettyEntries_cons, quoted, List.cons_append]⟩
  obtain ⟨tail, begins⟩ := begins
  rw [begins, skipBlanks_newLine, skipBlanks_cons rfl, List.head?_cons]
  exact fun same => absurd (Option.some.inj same) (by decide)

end entries

mutual

/-- **A value reads back** in front of anything. -/
theorem readValue?_prettyAt : ∀ value : Json, isNumberless value = true →
    ∀ (depth fuel : Nat) (rest : List Char), (prettyAt depth value ++ rest).length ≤ fuel →
      readValue? fuel (prettyAt depth value ++ rest) = some (value, rest)
  | value, numberless, depth, 0, rest, enough => by
    obtain ⟨first, body, starts, -⟩ := exists_prettyAt numberless depth
    rw [starts] at enough
    cases enough
  | null, _, _, _ + 1, _, _ => rfl
  | bool false, _, _, _ + 1, _, _ => rfl
  | bool true, _, _, _ + 1, _, _ => rfl
  | string text, _, _, fuel + 1, rest, _ => readValue?_quoteKey (some text) fuel rest
  | brokenString, _, _, fuel + 1, rest, _ => readValue?_quoteKey none fuel rest
  | array [], _, _, _ + 1, _, _ => rfl
  | object [], _, _, _ + 1, _, _ => rfl
  | array (item :: others), numberless, depth, fuel + 1, rest, enough => by
    have first : isNumberless item = true := ((Bool.and_eq_true _ _).mp numberless).1
    have written : prettyAt depth (array (item :: others)) ++ rest =
        '[' :: (prettyItems (depth + 1) (item :: others) ++ (newLine depth ++ ']' :: rest)) := by
      rw [prettyAt]
      simp only [List.cons_append, List.append_assoc, List.nil_append]
    rw [written, List.length_cons] at enough
    rw [written, readValue?_array (head?_prettyItems _ _ _ _ first),
      readItems?_prettyItems (item :: others) numberless (List.cons_ne_nil _ _) _ _ _ _
        (Nat.le_of_succ_le_succ enough)]
    rfl
  | object ((key, value) :: others), numberless, depth, fuel + 1, rest, enough => by
    have written : prettyAt depth (object ((key, value) :: others)) ++ rest =
        '\x7b' :: (prettyEntries (depth + 1) ((key, value) :: others) ++
          (newLine depth ++ '\x7d' :: rest)) := by
      rw [prettyAt]
      simp only [List.cons_append, List.append_assoc, List.nil_append]
    rw [written, List.length_cons] at enough
    rw [written, readValue?_object (head?_prettyEntries _ _ _ _ _),
      readEntries?_prettyEntries ((key, value) :: others) numberless (List.cons_ne_nil _ _) _ _ _ _
        (Nat.le_of_succ_le_succ enough)]
    rfl

theorem readItems?_prettyItems : ∀ items : List Json, areNumberless items = true → items ≠ [] →
    ∀ (depth outer fuel : Nat) (rest : List Char),
      (prettyItems depth items ++ (newLine outer ++ ']' :: rest)).length ≤ fuel →
        readItems? fuel (prettyItems depth items ++ (newLine outer ++ ']' :: rest)) =
          some (items, rest)
  | [], _, nonempty, _, _, _, _, _ => absurd rfl nonempty
  | _ :: _, _, _, _, _, 0, _, enough => by
    simp only [newLine, List.length_append, List.length_cons] at enough
    omega
  | [item], numberless, _, depth, outer, fuel + 1, rest, enough => by
    have first : isNumberless item = true := ((Bool.and_eq_true _ _).mp numberless).1
    rw [prettyItems_singleton] at enough ⊢
    have shorter := length_le_of_newLine_append enough
    rw [readItems?, readValue?_skipBlanks (skipBlanks_newLine depth _),
      readValue?_prettyAt item first depth fuel _ shorter, Option.bind_some]
    dsimp only
    rw [skipBlanks_newLine]
    rfl
  | item :: next :: others, numberless, _, depth, outer, fuel + 1, rest, enough => by
    obtain ⟨first, remaining⟩ := (Bool.and_eq_true _ _).mp numberless
    rw [prettyItems_cons] at enough ⊢
    have shorter := length_le_of_newLine_append enough
    have othersShorter : (prettyItems depth (next :: others) ++
        (newLine outer ++ ']' :: rest)).length ≤ fuel := by
      rw [List.length_append, List.length_cons] at shorter
      omega
    rw [readItems?, readValue?_skipBlanks (skipBlanks_newLine depth _),
      readValue?_prettyAt item first depth fuel _ shorter, Option.bind_some]
    dsimp only
    rw [skipBlanks_cons rfl]
    change (readItems? fuel _).map _ = _
    rw [readItems?_prettyItems (next :: others) remaining (List.cons_ne_nil _ _) _ _ _ _
      othersShorter]
    rfl

theorem readEntries?_prettyEntries : ∀ entries : List (Option String × Json),
    haveNumberless entries = true → entries ≠ [] →
      ∀ (depth outer fuel : Nat) (rest : List Char),
        (prettyEntries depth entries ++ (newLine outer ++ '\x7d' :: rest)).length ≤ fuel →
          readEntries? fuel (prettyEntries depth entries ++ (newLine outer ++ '\x7d' :: rest)) =
            some (entries, rest)
  | [], _, nonempty, _, _, _, _, _ => absurd rfl nonempty
  | _ :: _, _, _, _, _, 0, _, enough => by
    simp only [newLine, List.length_append, List.length_cons] at enough
    omega
  | [(key, value)], numberless, _, depth, outer, fuel + 1, rest, enough => by
    have first : isNumberless value = true := ((Bool.and_eq_true _ _).mp numberless).1
    rw [prettyEntries_singleton] at enough ⊢
    have shorter : (prettyAt depth value ++ (newLine outer ++ '\x7d' :: rest)).length ≤ fuel := by
      have behindKey := length_le_of_newLine_append enough
      rw [List.length_append, List.length_cons, List.length_cons] at behindKey
      omega
    rw [readEntries?_entry, readValue?_prettyAt value first depth fuel _ shorter, Option.bind_some]
    dsimp only
    rw [skipBlanks_newLine]
    rfl
  | (key, value) :: next :: others, numberless, _, depth, outer, fuel + 1, rest, enough => by
    obtain ⟨first, remaining⟩ := (Bool.and_eq_true _ _).mp numberless
    rw [prettyEntries_cons] at enough ⊢
    have shorter : (prettyAt depth value ++
        ',' :: (prettyEntries depth (next :: others) ++ (newLine outer ++ '\x7d' :: rest))).length ≤
          fuel := by
      have behindKey := length_le_of_newLine_append enough
      rw [List.length_append, List.length_cons, List.length_cons] at behindKey
      omega
    have othersShorter : (prettyEntries depth (next :: others) ++
        (newLine outer ++ '\x7d' :: rest)).length ≤ fuel := by
      rw [List.length_append, List.length_cons] at shorter
      omega
    rw [readEntries?_entry, readValue?_prettyAt value first depth fuel _ shorter, Option.bind_some]
    dsimp only
    rw [skipBlanks_cons rfl]
    change (readEntries? fuel _).map _ = _
    rw [readEntries?_prettyEntries (next :: others) remaining (List.cons_ne_nil _ _) _ _ _ _
      othersShorter]
    rfl

end

/-- **The text of a value holds this value.** -/
theorem read?_pretty {value : Json} (numberless : isNumberless value = true) :
    read? (String.ofList value.pretty) = some value := by
  have reads := readValue?_prettyAt value numberless 0 (value.pretty.length + 1) []
    (by rw [List.append_nil]; exact Nat.le_succ _)
  rw [List.append_nil] at reads
  unfold read?
  rw [String.toList_ofList]
  unfold pretty at reads ⊢
  rw [reads]
  rfl

end RuleAtoms.Json
