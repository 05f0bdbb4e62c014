/-
**Where a quoted text ends.**

The inside of a quoted text (`IsInside`) is made of ordinary characters and of backslashes, each with
the character behind it. Reading recognises the inside in pieces and then takes the escapes out of it;
both go the same way through the text, so they can be done in one pass. Which quotes end the text is
decided by the backslashes directly in front of them, and needs no way through the text at all.

* `quotedRest?_inside`: the inside of a quoted text is read with its escapes undone;
* `quoted?_eq_recognized?`: **reading is recognising and then taking out the escapes**;
* `isInside_iff`: an inside ends with an even number of backslashes, and no quote in it follows such a
  number;
* `quoted?_first_closing`: **where a quoted text ends**, and what was quoted reads back.
-/

import Mathlib.Algebra.Group.Nat.Even
import Mathlib.Data.List.DropRight
import RuleAtoms.Proofs.AtomText.Readers

namespace RuleAtoms.AtomText

variable {text inside found rest : List Char} {c : Char}

/-! ### The inside of a quoted text -/

/-- What can stand between quotes: ordinary characters, and backslashes with the character behind. -/
inductive IsInside : List Char → Prop
  | nil : IsInside []
  | ordinary (c : Char) (rest : List Char) (isOrdinary : isOrdinary c = true)
      (others : IsInside rest) : IsInside (c :: rest)
  | escape (c : Char) (rest : List Char) (others : IsInside rest) : IsInside ('\\' :: c :: rest)

/-- A text without its escapes. A backslash disappears in front of a quote or another backslash
only. -/
def unescape : List Char → List Char
  | '\\' :: c :: rest => (if c == '"' || c == '\\' then [c] else ['\\', c]) ++ unescape rest
  | c :: rest => c :: unescape rest
  | [] => []

/-- A text is gone through character by character, but for the one behind a backslash, up to a quote
or a last backslash. -/
theorem induction_on_escapes {P : List Char → Prop} (nil : P []) (backslash : P ['\\'])
    (quote : ∀ rest, P ('"' :: rest))
    (ordinary : ∀ c rest, isOrdinary c = true → P rest → P (c :: rest))
    (escape : ∀ c rest, P rest → P ('\\' :: c :: rest)) (text : List Char) : P text := by
  fun_induction quotedRest? text with
  | case1 => exact nil
  | case2 rest => exact quote rest
  | case3 c rest ih => exact escape c rest ih
  | case4 c rest noQuote noEscape isBackslash =>
    obtain rfl : c = '\\' := beq_iff_eq.mp isBackslash
    cases rest with
    | nil => exact backslash
    | cons d more => exact (noEscape d more rfl rfl).elim
  | case5 c rest noQuote noEscape noBackslash ih =>
    have isOrdinary : isOrdinary c = true :=
      isOrdinary_eq_true_iff.mpr ⟨noQuote, fun same => noBackslash (beq_iff_eq.mpr same)⟩
    exact ordinary c rest isOrdinary ih

theorem unescape_ordinary (ordinary : isOrdinary c = true) (text : List Char) :
    unescape (c :: text) = c :: unescape text := by
  obtain ⟨-, noBackslash⟩ := isOrdinary_eq_true_iff.mp ordinary
  rw [unescape]
  exact fun _ _ isBackslash => absurd isBackslash noBackslash

/-- **The inside of a quoted text** is read with its escapes undone. -/
theorem quotedRest?_inside (isInside : IsInside inside) (rest : List Char) :
    quotedRest? (inside ++ rest) =
      (quotedRest? rest).map fun (front, back) => (unescape inside ++ front, back) := by
  induction isInside with
  | nil =>
    rw [unescape, List.nil_append]
    cases quotedRest? rest <;> rfl
  | ordinary c behind ordinary _ ih =>
    rw [List.cons_append, quotedRest?_ordinary ordinary, ih, unescape_ordinary ordinary,
      Option.map_map]
    rfl
  | escape c behind _ ih =>
    rw [List.cons_append, List.cons_append, quotedRest?, ih, unescape, Option.map_map]
    simp only [Function.comp_def, List.append_assoc]

/-- **What is read up to a closing quote** is an inside without its escapes. -/
theorem quotedRest?_eq_some_iff :
    quotedRest? text = some (found, rest) ↔
      ∃ inside, text = inside ++ '"' :: rest ∧ IsInside inside ∧ found = unescape inside := by
  constructor
  · intro isRead
    induction text using induction_on_escapes generalizing found with
    | nil => cases isRead
    | backslash => cases isRead
    | quote behind =>
      cases isRead
      exact ⟨[], rfl, .nil, rfl⟩
    | ordinary c behind ordinary ih =>
      rw [quotedRest?_ordinary ordinary] at isRead
      obtain ⟨⟨more, remaining⟩, isMore, same⟩ := Option.map_eq_some_iff.mp isRead
      cases same
      obtain ⟨inside, rfl, isInside, rfl⟩ := ih isMore
      exact ⟨c :: inside, rfl, .ordinary c inside ordinary isInside,
        (unescape_ordinary ordinary inside).symm⟩
    | escape c behind ih =>
      rw [quotedRest?] at isRead
      obtain ⟨⟨more, remaining⟩, isMore, same⟩ := Option.map_eq_some_iff.mp isRead
      cases same
      obtain ⟨inside, rfl, isInside, rfl⟩ := ih isMore
      exact ⟨'\\' :: c :: inside, rfl, .escape c inside isInside, rfl⟩
  · rintro ⟨inside, rfl, isInside, rfl⟩
    rw [quotedRest?_inside isInside, quotedRest?]
    simp only [Option.map_some, List.append_nil]

/-! ### Recognising and taking out the escapes -/

/-- One piece of the inside: ordinary characters, as many as there are, or a backslash with the
character behind it. -/
def piece? (text : List Char) : Option (List Char × List Char) :=
  (oneOrMore? isOrdinary text).or <|
    match text with
    | '\\' :: c :: rest => some (['\\', c], rest)
    | _ => none

theorem IsInside.append (isInside : IsInside inside) (others : IsInside rest) :
    IsInside (inside ++ rest) := by
  induction isInside with
  | nil => exact others
  | ordinary c behind ordinary _ ih => exact .ordinary c _ ordinary ih
  | escape c behind _ ih => exact .escape c _ ih

theorem isInside_of_ordinary (ordinary : ∀ c ∈ text, isOrdinary c = true) : IsInside text := by
  induction text with
  | nil => exact .nil
  | cons c text ih =>
    obtain ⟨first, others⟩ := List.forall_mem_cons.mp ordinary
    exact .ordinary c text first (ih others)

theorem eq_of_piece? (isPiece : piece? text = some (found, rest)) :
    text = found ++ rest ∧ found ≠ [] ∧ IsInside found := by
  unfold piece? at isPiece
  rcases Option.or_eq_some_iff.mp isPiece with isRun | ⟨-, isEscape⟩
  · obtain ⟨isText, nonempty, ordinary, -⟩ := oneOrMore?_eq_some_iff.mp isRun
    exact ⟨isText, nonempty, isInside_of_ordinary ordinary⟩
  · split at isEscape
    · cases isEscape
      exact ⟨rfl, List.cons_ne_nil _ _, .escape _ _ .nil⟩
    · cases isEscape

/-- What follows a closing quote, if there is one here. -/
def closing? : List Char → Option (List Char)
  | '"' :: rest => some rest
  | _ => none

/-- Where no piece begins, the text is closed, or ends too soon. -/
theorem quotedRest?_of_piece? (noPiece : piece? text = none) :
    quotedRest? text = (closing? text).map fun rest => ([], rest) := by
  obtain ⟨noRun, noEscape⟩ := Option.or_eq_none_iff.mp noPiece
  induction text using induction_on_escapes with
  | nil => rfl
  | backslash => rfl
  | quote behind => rfl
  | ordinary c behind ordinary =>
    unfold oneOrMore? at noRun
    rw [List.takeWhile_cons_of_pos ordinary] at noRun
    cases noRun
  | escape c behind => cases noEscape

/-- The pieces at the beginning of a text, as many as there are, and what follows them. -/
def pieces (text : List Char) : List Char × List Char :=
  match _ : piece? text with
  | some (found, rest) =>
    let (others, tail) := pieces rest
    (found ++ others, tail)
  | none => ([], text)
termination_by text.length
decreasing_by
  obtain ⟨rfl, nonempty, -⟩ := eq_of_piece? ‹_›
  have := List.length_pos_iff.mpr nonempty
  rw [List.length_append]
  omega

/-- The pieces are an inside, behind which no other piece begins. -/
theorem pieces_spec (text : List Char) :
    text = (pieces text).1 ++ (pieces text).2 ∧ IsInside (pieces text).1 ∧
      piece? (pieces text).2 = none := by
  fun_induction pieces text with
  | case1 text found rest isPiece others tail isMore ih =>
    rw [isMore] at ih
    obtain ⟨isRest, isInside, noPiece⟩ := ih
    obtain ⟨isText, -, isFound⟩ := eq_of_piece? isPiece
    refine ⟨?_, isFound.append isInside, noPiece⟩
    rw [List.append_assoc, ← isRest]
    exact isText
  | case2 text noPiece => exact ⟨rfl, .nil, noPiece⟩

/-- The inside of a quoted text, as it is written, and what follows the closing quote. -/
def recognized? : List Char → Option (List Char × List Char)
  | '"' :: text => (closing? (pieces text).2).map fun rest => ((pieces text).1, rest)
  | _ => none

/-- **Reading is recognising and then taking out the escapes.** -/
theorem quoted?_eq_recognized? (text : List Char) :
    quoted? text = (recognized? text).map fun (inside, rest) => (unescape inside, rest) := by
  fun_cases recognized? text with
  | case1 behind =>
    obtain ⟨isText, isInside, noPiece⟩ := pieces_spec behind
    calc quoted? ('"' :: behind)
      _ = quotedRest? ((pieces behind).1 ++ (pieces behind).2) := by rw [quoted?, ← isText]
      _ = (closing? (pieces behind).2).map fun rest => (unescape (pieces behind).1, rest) := by
        rw [quotedRest?_inside isInside, quotedRest?_of_piece? noPiece, Option.map_map]
        simp only [Function.comp_def, List.append_nil]
      _ = _ := by rw [Option.map_map]; rfl
  | case2 text noQuote =>
    rw [quoted?]
    · rfl
    · exact noQuote

/-! ### Backslashes in front of a quote -/

/-- The number of backslashes directly in front of the end of a text. -/
def backslashesAtEnd (text : List Char) : Nat := (text.rtakeWhile (· == '\\')).length

/-- Whether a text holds a quote with an even number of backslashes directly in front of it. -/
def HasClosing (text : List Char) : Prop :=
  ∃ before after, text = before ++ '"' :: after ∧ Even (backslashesAtEnd before)

theorem backslashesAtEnd_concat (text : List Char) (c : Char) :
    backslashesAtEnd (text ++ [c]) = if c = '\\' then backslashesAtEnd text + 1 else 0 := by
  unfold backslashesAtEnd
  rw [List.rtakeWhile_concat]
  by_cases isBackslash : c = '\\'
  · rw [if_pos isBackslash, if_pos (beq_iff_eq.mpr isBackslash), List.length_append,
      List.length_singleton]
  · rw [if_neg isBackslash, if_neg (by simpa using isBackslash), List.length_nil]

theorem backslashesAtEnd_ordinary (ordinary : isOrdinary c = true) (text : List Char) :
    backslashesAtEnd (c :: text) = backslashesAtEnd text := by
  obtain ⟨-, noBackslash⟩ := isOrdinary_eq_true_iff.mp ordinary
  induction text using List.reverseRecOn with
  | nil => exact (backslashesAtEnd_concat [] c).trans (if_neg noBackslash)
  | append_singleton front last ih =>
    rw [← List.cons_append, backslashesAtEnd_concat, backslashesAtEnd_concat, ih]

/-- A backslash and the character behind it do not change whether the number is even. -/
theorem even_backslashesAtEnd_escape (c : Char) (text : List Char) :
    Even (backslashesAtEnd ('\\' :: c :: text)) ↔ Even (backslashesAtEnd text) := by
  induction text using List.reverseRecOn with
  | nil =>
    rw [show ['\\', c] = ['\\'] ++ [c] from rfl, backslashesAtEnd_concat]
    split <;> decide
  | append_singleton front last ih =>
    rw [← List.cons_append, ← List.cons_append, backslashesAtEnd_concat, backslashesAtEnd_concat]
    split
    · rw [Nat.even_add_one, Nat.even_add_one, ih]
    · rfl

/-- A quote in a text is its first character, or is behind it. -/
theorem exists_quote_cons {P : List Char → Prop} :
    (∃ before after, c :: text = before ++ '"' :: after ∧ P before) ↔
      (c = '"' ∧ P []) ∨ ∃ before after, text = before ++ '"' :: after ∧ P (c :: before) := by
  constructor
  · rintro ⟨before, after, same, holds⟩
    cases before with
    | nil => exact .inl ⟨(List.cons.inj same).1, holds⟩
    | cons first others =>
      obtain ⟨rfl, isRest⟩ := List.cons.inj same
      exact .inr ⟨others, after, isRest, holds⟩
  · rintro (⟨rfl, holds⟩ | ⟨before, after, rfl, holds⟩)
    · exact ⟨[], text, rfl, holds⟩
    · exact ⟨c :: before, after, rfl, holds⟩

theorem not_hasClosing_nil : ¬ HasClosing [] := by simp [HasClosing]

theorem not_hasClosing_backslash : ¬ HasClosing ['\\'] := by
  unfold HasClosing
  rw [exists_quote_cons]
  simp

theorem hasClosing_quote (text : List Char) : HasClosing ('"' :: text) :=
  ⟨[], text, rfl, by decide⟩

theorem hasClosing_ordinary (ordinary : isOrdinary c = true) :
    HasClosing (c :: text) ↔ HasClosing text := by
  obtain ⟨noQuote, -⟩ := isOrdinary_eq_true_iff.mp ordinary
  unfold HasClosing
  rw [exists_quote_cons, or_iff_right fun both => noQuote both.1]
  simp only [backslashesAtEnd_ordinary ordinary]

theorem hasClosing_escape (c : Char) (text : List Char) :
    HasClosing ('\\' :: c :: text) ↔ HasClosing text := by
  have odd : ¬ Even (backslashesAtEnd ['\\']) := by decide
  unfold HasClosing
  rw [exists_quote_cons, or_iff_right fun both => absurd both.1 (by decide), exists_quote_cons,
    or_iff_right fun both => odd both.2]
  simp only [even_backslashesAtEnd_escape]

theorem isSome_quotedRest?_iff : (quotedRest? text).isSome = true ↔ HasClosing text := by
  induction text using induction_on_escapes with
  | nil => exact iff_of_false Bool.false_ne_true not_hasClosing_nil
  | backslash => exact iff_of_false Bool.false_ne_true not_hasClosing_backslash
  | quote behind => exact iff_of_true rfl (hasClosing_quote behind)
  | ordinary c behind ordinary ih =>
    rw [quotedRest?_ordinary ordinary, Option.isSome_map, ih, hasClosing_ordinary ordinary]
  | escape c behind ih => rw [quotedRest?, Option.isSome_map, ih, hasClosing_escape]

/-- **The inside of a quoted text** ends with an even number of backslashes, and no quote in it
follows an even number of them. -/
theorem isInside_iff :
    IsInside inside ↔ Even (backslashesAtEnd inside) ∧ ¬ HasClosing inside := by
  constructor
  · intro isInside
    induction isInside with
    | nil => exact ⟨by decide, not_hasClosing_nil⟩
    | ordinary c behind ordinary _ ih =>
      rwa [backslashesAtEnd_ordinary ordinary, hasClosing_ordinary ordinary]
    | escape c behind _ ih => rwa [even_backslashesAtEnd_escape, hasClosing_escape]
  · rintro ⟨even, noClosing⟩
    induction inside using induction_on_escapes with
    | nil => exact .nil
    | backslash => exact absurd even (by decide)
    | quote behind => exact absurd (hasClosing_quote behind) noClosing
    | ordinary c behind ordinary ih =>
      rw [backslashesAtEnd_ordinary ordinary] at even
      rw [hasClosing_ordinary ordinary] at noClosing
      exact .ordinary c behind ordinary (ih even noClosing)
    | escape c behind ih =>
      rw [even_backslashesAtEnd_escape] at even
      rw [hasClosing_escape] at noClosing
      exact .escape c behind (ih even noClosing)

/-! ### Where a quoted text ends -/

theorem quoted?_eq_some_iff {read : List Char × List Char} :
    quoted? text = some read ↔ ∃ behind, text = '"' :: behind ∧ quotedRest? behind = some read := by
  fun_cases quoted? text with
  | case1 behind => simp only [List.cons.injEq, true_and, exists_eq_left']
  | case2 text noQuote =>
    refine iff_of_false (Option.some_ne_none _).symm ?_
    rintro ⟨behind, rfl, -⟩
    exact noQuote behind rfl

theorem isSome_quoted?_iff :
    (quoted? text).isSome = true ↔ ∃ behind, text = '"' :: behind ∧ HasClosing behind := by
  simp only [← isSome_quotedRest?_iff, Option.isSome_iff_exists, quoted?_eq_some_iff]
  constructor
  · rintro ⟨read, behind, isText, isRead⟩
    exact ⟨behind, isText, read, isRead⟩
  · rintro ⟨behind, isText, read, isRead⟩
    exact ⟨read, behind, isText, isRead⟩

/-- **Where a quoted text ends.** What was quoted reads back, whatever follows it. In general a text is
accepted when it begins with a quote and some later quote has an even number of backslashes directly in
front of it; the first one of these is where reading stops, and what is in front of it is returned with
its escapes taken out. -/
theorem quoted?_first_closing :
    (∀ text rest, quoted? (quote text ++ rest) = some (text, rest)) ∧
    (∀ input, (quoted? input).isSome = true ↔ ∃ text, input = '"' :: text ∧ HasClosing text) ∧
    (∀ input found rest, quoted? input = some (found, rest) ↔
      ∃ inside, input = '"' :: (inside ++ '"' :: rest) ∧ Even (backslashesAtEnd inside) ∧
        ¬ HasClosing inside ∧ found = unescape inside) ∧
    ∀ input, quoted? input =
      (recognized? input).map fun (inside, rest) => (unescape inside, rest) := by
  refine ⟨quoted?_quote, fun _ => isSome_quoted?_iff, fun input found rest => ?_,
    quoted?_eq_recognized?⟩
  rw [quoted?_eq_some_iff]
  constructor
  · rintro ⟨behind, rfl, isRead⟩
    obtain ⟨inside, rfl, isInside, rfl⟩ := quotedRest?_eq_some_iff.mp isRead
    obtain ⟨even, noClosing⟩ := isInside_iff.mp isInside
    exact ⟨inside, rfl, even, noClosing, rfl⟩
  · rintro ⟨inside, rfl, even, noClosing, rfl⟩
    have isInside := isInside_iff.mpr ⟨even, noClosing⟩
    exact ⟨_, rfl, quotedRest?_eq_some_iff.mpr ⟨inside, rfl, isInside, rfl⟩⟩

/-- A quote behind three backslashes does not end the text, and an `n` keeps the backslash in front. -/
example : quoted? "\"\\\\\\\"\\n\", \"next\"".toList =
    some ("\\\"\\n".toList, ", \"next\"".toList) := by decide +kernel

end RuleAtoms.AtomText
