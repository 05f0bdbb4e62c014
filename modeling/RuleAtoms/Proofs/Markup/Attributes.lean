/-
**How attributes are read.**

An attribute is a name up to an equals sign or a blank, and behind the sign a value between two
quotes of one kind. Attributes are read one behind another until nothing but blanks is left
(`AttributesRead`). A value ends inside the text it was read from, so what is read does not depend on
what follows.

* `oneAttribute?_eq_some_iff`: what is read as one attribute;
* `AttributesRead.append`: behind attributes that are read, reading goes on with these known;
* `AttributesRead.blank`: if reading adds no attribute, there is nothing but blanks;
* `AttributesRead.keys`: which names attributes have.
-/

import RuleAtoms.Markup.Piece
import RuleAtoms.Proofs.Text.Runs

namespace RuleAtoms.Markup

open Text (Ends)

section Attributes

variable {text rest value name : List Char}

/-! ### One attribute -/

/-- A value stands between two quotes of one kind, which is not in it. -/
theorem attributeValue?_eq_some_iff :
    attributeValue? text = some (value, rest) ↔
      ∃ blanks quote, text = blanks ++ quote :: (value ++ quote :: rest) ∧
        (∀ c ∈ blanks, isTagBlank c = true) ∧ (quote = '"' ∨ quote = '\'') ∧ quote ∉ value := by
  unfold attributeValue?
  constructor
  · intro isRead
    obtain ⟨blanks, quoted, rfl, blank, visible⟩ := Text.exists_run isTagBlank text
    rw [Text.dropWhile_run blank visible] at isRead
    cases quoted with
    | nil => cases isRead
    | cons quote behind =>
      simp only at isRead
      split at isRead
      · rename_i isQuote
        rw [Bool.or_eq_true, beq_iff_eq, beq_iff_eq] at isQuote
        obtain ⟨inside, left, rfl, noQuote, ends⟩ := Text.exists_run (· != quote) behind
        rw [Text.dropWhile_run noQuote ends, Text.takeWhile_run noQuote ends] at isRead
        cases left with
        | nil => cases isRead
        | cons c tail =>
          obtain rfl : c = quote := by simpa using ends c rfl
          obtain ⟨rfl, rfl⟩ := Prod.mk.inj (Option.some.inj isRead)
          exact ⟨blanks, c, rfl, blank, isQuote, fun member => by simpa using noQuote c member⟩
      · cases isRead
  · rintro ⟨blanks, quote, rfl, blank, isQuote, noQuote⟩
    have visible : isTagBlank quote = false := by
      rcases isQuote with rfl | rfl <;> decide
    have isRun : ∀ c ∈ value, (c != quote) = true := by
      intro c member
      rw [bne_iff_ne]
      rintro rfl
      exact noQuote member
    have ends : Ends (· != quote) (quote :: rest) := Text.ends_cons (by simp)
    rw [Text.dropWhile_run blank (Text.ends_cons visible)]
    simp only [Text.dropWhile_run isRun ends, Text.takeWhile_run isRun ends]
    rw [if_pos (by simpa using isQuote)]

theorem attributeValue?_append (isRead : attributeValue? text = some (value, rest))
    (more : List Char) : attributeValue? (text ++ more) = some (value, rest ++ more) := by
  obtain ⟨blanks, quote, rfl, blank, isQuote, noQuote⟩ := attributeValue?_eq_some_iff.mp isRead
  refine attributeValue?_eq_some_iff.mpr ⟨blanks, quote, ?_, blank, isQuote, noQuote⟩
  simp only [List.append_assoc, List.cons_append]

/-- An attribute is a name, an equals sign, which blanks may precede, and a value. -/
theorem oneAttribute?_eq_some_iff {first : Char} :
    oneAttribute? first text = some (name, value, rest) ↔
      ∃ key blanks quoted, name = first :: key ∧ text = key ++ (blanks ++ '=' :: quoted) ∧
        (∀ c ∈ key, (c != '=' && !isTagBlank c) = true) ∧ (∀ c ∈ blanks, isTagBlank c = true) ∧
        attributeValue? quoted = some (value, rest) := by
  unfold oneAttribute?
  constructor
  · intro isRead
    obtain ⟨key, behind, rfl, inKey, keyEnds⟩ :=
      Text.exists_run (fun c => c != '=' && !isTagBlank c) text
    obtain ⟨blanks, signed, rfl, blank, visible⟩ := Text.exists_run isTagBlank behind
    simp only [Text.dropWhile_run inKey keyEnds, Text.takeWhile_run inKey keyEnds,
      Text.dropWhile_run blank visible] at isRead
    split at isRead
    · rename_i quoted
      obtain ⟨⟨denoted, tail⟩, isValue, same⟩ := Option.map_eq_some_iff.mp isRead
      cases same
      exact ⟨key, blanks, quoted, rfl, rfl, inKey, blank, isValue⟩
    · cases isRead
  · rintro ⟨key, blanks, quoted, rfl, rfl, inKey, blank, isValue⟩
    have keyEnds : Ends (fun c => c != '=' && !isTagBlank c) (blanks ++ '=' :: quoted) := by
      cases blanks with
      | nil => exact Text.ends_cons (by decide)
      | cons c others => exact Text.ends_cons (by simp [blank c List.mem_cons_self])
    have visible : Ends isTagBlank ('=' :: quoted) := Text.ends_cons (by decide)
    simp only [Text.dropWhile_run inKey keyEnds, Text.takeWhile_run inKey keyEnds,
      Text.dropWhile_run blank visible, isValue, Option.map_some]

theorem oneAttribute?_append {first : Char}
    (isRead : oneAttribute? first text = some (name, value, rest)) (more : List Char) :
    oneAttribute? first (text ++ more) = some (name, value, rest ++ more) := by
  obtain ⟨key, blanks, quoted, rfl, rfl, inKey, blank, isValue⟩ :=
    oneAttribute?_eq_some_iff.mp isRead
  refine oneAttribute?_eq_some_iff.mpr ⟨key, blanks, quoted ++ more, rfl, ?_, inKey, blank,
    attributeValue?_append isValue more⟩
  simp only [List.append_assoc, List.cons_append]

theorem length_lt_of_oneAttribute? {first : Char}
    (isRead : oneAttribute? first text = some (name, value, rest)) : rest.length < text.length := by
  obtain ⟨key, blanks, quoted, -, rfl, -, -, isValue⟩ := oneAttribute?_eq_some_iff.mp isRead
  obtain ⟨spaces, quote, rfl, -⟩ := attributeValue?_eq_some_iff.mp isValue
  simp only [List.length_append, List.length_cons]
  omega

/-! ### Attributes one behind another -/

variable {known result : Keyed String}

/-- Reading attributes ends because every attribute takes something of the text. -/
theorem attributesBehind?_eq (known : Keyed String) (text : List Char) :
    attributesBehind? known text =
      match text.dropWhile isTagBlank with
      | [] => some known
      | first :: behind =>
        (oneAttribute? first behind).bind fun (name, value, rest) =>
          if known.contains (String.ofList name) then none
          else
            (unescape? value).bind fun denoted =>
              attributesBehind? (known.insert (String.ofList name) (String.ofList denoted)) rest := by
  rw [attributesBehind?]
  cases start : text.dropWhile isTagBlank with
  | nil => rfl
  | cons first behind =>
    simp only
    cases isRead : oneAttribute? first behind with
    | none => rfl
    | some found =>
      obtain ⟨name, value, rest⟩ := found
      have shorter : rest.length < text.length := by
        have inBehind := length_lt_of_oneAttribute? isRead
        have inText := List.length_dropWhile_le isTagBlank text
        rw [start, List.length_cons] at inText
        omega
      simp only [shorter, if_true, Option.bind_some]
      cases unescape? value with
      | none => rfl
      | some denoted => rfl

theorem attributesBehind?_blanks {blanks : List Char} (blank : ∀ c ∈ blanks, isTagBlank c = true)
    (known : Keyed String) (text : List Char) :
    attributesBehind? known (blanks ++ text) = attributesBehind? known text := by
  rw [attributesBehind?_eq, List.dropWhile_append_of_pos blank, ← attributesBehind?_eq]

/-- Behind an attribute with a new name, reading goes on with this one known. -/
theorem attributesBehind?_attribute {blanks denoted : List Char} {first : Char}
    (blank : ∀ c ∈ blanks, isTagBlank c = true) (visible : isTagBlank first = false)
    (isRead : oneAttribute? first text = some (name, value, rest))
    (fresh : known.contains (String.ofList name) = false)
    (isValue : unescape? value = some denoted) :
    attributesBehind? known (blanks ++ first :: text) =
      attributesBehind? (known.insert (String.ofList name) (String.ofList denoted)) rest := by
  rw [attributesBehind?_eq, Text.dropWhile_run blank (Text.ends_cons visible)]
  simp only [isRead, Option.bind_some, fresh, Bool.false_eq_true, if_false, isValue]

/-- The second attributes are the first ones and those that are read in the text behind them. -/
inductive AttributesRead : Keyed String → List Char → Keyed String → Prop
  | done {known : Keyed String} {blanks : List Char}
      (blank : ∀ c ∈ blanks, isTagBlank c = true) : AttributesRead known blanks known
  | more {known result : Keyed String} {blanks text name value rest denoted : List Char}
      {first : Char} (blank : ∀ c ∈ blanks, isTagBlank c = true)
      (visible : isTagBlank first = false)
      (isRead : oneAttribute? first text = some (name, value, rest))
      (fresh : known.contains (String.ofList name) = false)
      (isValue : unescape? value = some denoted)
      (behind : AttributesRead (known.insert (String.ofList name) (String.ofList denoted)) rest
        result) :
      AttributesRead known (blanks ++ first :: text) result

theorem attributesRead_of_attributesBehind? (found : attributesBehind? known text = some result) :
    AttributesRead known text result := by
  induction length : text.length using Nat.strongRecOn generalizing known text with
  | ind size ih =>
    obtain ⟨blanks, behind, rfl, blank, visible⟩ := Text.exists_run isTagBlank text
    rw [attributesBehind?_eq, Text.dropWhile_run blank visible] at found
    cases behind with
    | nil =>
      obtain rfl := Option.some.inj found
      rw [List.append_nil]
      exact .done blank
    | cons first text =>
      obtain ⟨⟨name, value, rest⟩, isRead, found⟩ := Option.bind_eq_some_iff.mp found
      simp only [Option.ite_none_left_eq_some, Bool.not_eq_true] at found
      obtain ⟨fresh, found⟩ := found
      obtain ⟨denoted, isValue, found⟩ := Option.bind_eq_some_iff.mp found
      have shorter : rest.length < size := by
        have inText := length_lt_of_oneAttribute? isRead
        rw [← length, List.length_append, List.length_cons]
        omega
      exact .more blank (visible first rfl) isRead fresh isValue (ih _ shorter found rfl)

/-- **Behind attributes that are read** reading goes on with these known. -/
theorem AttributesRead.append (read : AttributesRead known text result) (more : List Char) :
    attributesBehind? known (text ++ more) = attributesBehind? result more := by
  induction read with
  | done blank => exact attributesBehind?_blanks blank _ more
  | more blank visible isRead fresh isValue _ ih =>
    rw [List.append_assoc, List.cons_append, attributesBehind?_attribute blank visible
      (oneAttribute?_append isRead more) fresh isValue, ih]

/-- Reading adds attributes, or there is nothing but blanks. -/
theorem AttributesRead.blank_or_lt (read : AttributesRead known text result) :
    (result = known ∧ ∀ c ∈ text, isTagBlank c = true) ∨
      known.entries.length < result.entries.length := by
  induction read with
  | done blank => exact Or.inl ⟨rfl, blank⟩
  | more blank visible isRead fresh isValue _ ih =>
    rw [Keyed.entries_insert fresh, List.length_append, List.length_singleton] at ih
    rcases ih with ⟨rfl, -⟩ | longer
    · rw [Keyed.entries_insert fresh, List.length_append, List.length_singleton]
      exact Or.inr (Nat.lt_succ_self _)
    · exact Or.inr (by omega)

/-- **If reading adds no attribute**, there is nothing but blanks. -/
theorem AttributesRead.blank (read : AttributesRead known text known) :
    ∀ c ∈ text, isTagBlank c = true :=
  read.blank_or_lt.elim And.right (fun longer => absurd longer (Nat.lt_irrefl _))

/-! ### Names of attributes -/

/-- A name that an attribute can have: behind its first character there is no equals sign, and there
are no blanks in it. -/
def IsKey (key : String) : Prop :=
  ∃ first rest, key.toList = first :: rest ∧ isTagBlank first = false ∧
    ∀ c ∈ rest, (c != '=' && !isTagBlank c) = true

/-- The names of attributes that are read are such names. -/
theorem AttributesRead.keys (read : AttributesRead known text result)
    (keys : ∀ entry ∈ known.entries, IsKey entry.1) : ∀ entry ∈ result.entries, IsKey entry.1 := by
  induction read with
  | done blank => exact keys
  | more blank visible isRead fresh isValue _ ih =>
    refine ih fun entry member => ?_
    rw [Keyed.entries_insert fresh, List.mem_append, List.mem_singleton] at member
    rcases member with isKnown | rfl
    · exact keys entry isKnown
    · obtain ⟨key, _, _, rfl, -, inKey, -⟩ := oneAttribute?_eq_some_iff.mp isRead
      exact ⟨_, key, String.toList_ofList, visible, inKey⟩

end Attributes

end RuleAtoms.Markup
