/-
**Where a separator occurs in a text.**

Both cuts of a text fail exactly when the separator does not occur in it (`splitFirst?_eq_none_iff`,
`splitLast?_eq_none_iff`). The first cut leaves no more in front of it than any other
(`length_le_of_splitFirst?`), and the last cut is the one behind which the separator does not begin
again (`splitLast?_eq_some_iff`). An occurrence does not reach across a character that the separator
does not hold (`infix_append_cons_iff`).
-/

import Mathlib.Data.List.Infix
import RuleAtoms.Text.Split

namespace RuleAtoms.Text

variable {separator text before after : List Char}

theorem isPrefixOf?_eq_none_iff : separator.isPrefixOf? text = none ↔ ¬ separator <+: text := by
  rw [← Option.not_isSome_iff_eq_none, List.isSome_isPrefixOf?_eq_isPrefixOf,
    List.isPrefixOf_iff_prefix]

/-! ### Whether there is a cut -/

theorem splitFirst?_eq_none_iff : splitFirst? separator text = none ↔ ¬ separator <:+: text := by
  fun_induction splitFirst? separator text with
  | case1 text rest isPrefix =>
    have occurs := List.isPrefixOf?_eq_some_iff_append_eq.mp isPrefix
    constructor
    · intro failed
      cases failed
    · exact fun absent => absurd ⟨[], rest, occurs⟩ absent
  | case2 noPrefix =>
    rw [List.infix_nil, ← List.prefix_nil, ← isPrefixOf?_eq_none_iff]
    exact ⟨fun _ => noPrefix, fun _ => rfl⟩
  | case3 c rest noPrefix ih =>
    rw [Option.map_eq_none_iff, ih, List.infix_cons_iff, not_or]
    exact ⟨fun later => ⟨isPrefixOf?_eq_none_iff.mp noPrefix, later⟩, And.right⟩

theorem splitLast?_eq_none_iff : splitLast? separator text = none ↔ ¬ separator <:+: text := by
  fun_induction splitLast? separator text with
  | case1 isEmpty =>
    rw [List.isEmpty_iff.mp isEmpty]
    constructor
    · intro failed
      cases failed
    · exact fun absent => absurd List.infix_rfl absent
  | case2 nonempty =>
    rw [List.infix_nil, ← List.isEmpty_iff]
    exact ⟨fun _ => nonempty, fun _ => rfl⟩
  | case3 c rest before after found ih =>
    rw [found] at ih
    constructor
    · intro failed
      cases failed
    · intro absent
      cases ih.mpr fun later => absent (List.infix_cons later)
  | case4 c rest notLater ih =>
    rw [Option.map_eq_none_iff, isPrefixOf?_eq_none_iff, List.infix_cons_iff, not_or]
    exact ⟨fun noPrefix => ⟨noPrefix, ih.mp notLater⟩, And.left⟩

/-! ### The first cut -/

/-- **The first cut of a text** leaves no more in front of it than any other cut. -/
theorem length_le_of_splitFirst? (found : splitFirst? separator text = some (before, after))
    {front back : List Char} (isText : text = front ++ separator ++ back) :
    before.length ≤ front.length := by
  fun_induction splitFirst? separator text generalizing before after front with
  | case1 text rest isPrefix =>
    cases found
    exact Nat.zero_le _
  | case2 => cases found
  | case3 c rest noPrefix ih =>
    obtain ⟨⟨inner, tail⟩, innerFound, same⟩ := Option.map_eq_some_iff.mp found
    cases same
    cases front with
    | nil => exact absurd ⟨back, isText.symm⟩ (isPrefixOf?_eq_none_iff.mp noPrefix)
    | cons first others =>
      have isRest : rest = others ++ separator ++ back := (List.cons.inj isText).2
      exact Nat.succ_le_succ (ih innerFound isRest)

/-- A character is cut at where it stands for the first time. -/
theorem splitFirst?_singleton {c : Char} (absent : c ∉ before) (after : List Char) :
    splitFirst? [c] (before ++ c :: after) = some (before, after) := by
  induction before with
  | nil =>
    have isPrefix : [c].isPrefixOf? (c :: after) = some after :=
      List.isPrefixOf?_eq_some_iff_append_eq.mpr rfl
    rw [List.nil_append, splitFirst?.eq_def, isPrefix]
  | cons first rest ih =>
    obtain ⟨other, absentThere⟩ := not_or.mp (List.mem_cons.not.mp absent)
    have noPrefix : [c].isPrefixOf? ((first :: rest) ++ c :: after) = none := by
      rw [isPrefixOf?_eq_none_iff, List.cons_append, List.cons_prefix_cons]
      exact fun isPrefix => other isPrefix.1
    rw [splitFirst?.eq_def, noPrefix, List.cons_append]
    simp only [ih absentThere, Option.map_some]

/-! ### The last cut -/

/-- **The last cut of a text** is the one behind which the separator does not begin again. -/
theorem splitLast?_eq_some_iff (nonempty : separator ≠ []) :
    splitLast? separator text = some (before, after) ↔
      text = before ++ separator ++ after ∧ ¬ separator <:+: (separator ++ after).tail := by
  induction text generalizing before with
  | nil =>
    have absent : ¬ separator <:+: [] := fun occurs => nonempty (List.infix_nil.mp occurs)
    rw [splitLast?_eq_none_iff.mpr absent]
    constructor
    · intro failed
      cases failed
    · rintro ⟨isText, -⟩
      exact absurd ⟨before, after, isText.symm⟩ absent
  | cons c rest ih =>
    have cut : c :: rest = before ++ separator ++ after ↔
        (before = [] ∧ separator ++ after = c :: rest) ∨
          ∃ front, before = c :: front ∧ rest = front ++ separator ++ after := by
      cases before with
      | nil => simp [eq_comm]
      | cons first front =>
        simp only [List.cons_append, List.cons.injEq, reduceCtorEq, false_and, false_or]
        constructor
        · rintro ⟨rfl, isRest⟩
          exact ⟨front, ⟨rfl, rfl⟩, isRest⟩
        · rintro ⟨_, ⟨rfl, rfl⟩, isRest⟩
          exact ⟨rfl, isRest⟩
    rw [cut, splitLast?]
    cases inner : splitLast? separator rest with
    | some pair =>
      obtain ⟨front, back⟩ := pair
      constructor
      · intro found
        cases found
        exact ⟨Or.inr ⟨front, rfl, (ih.mp inner).1⟩, (ih.mp inner).2⟩
      · rintro ⟨⟨rfl, isText⟩ | ⟨other, rfl, isRest⟩, final⟩
        · rw [isText, List.tail_cons, ← splitLast?_eq_none_iff, inner] at final
          cases final
        · cases inner.symm.trans (ih.mpr ⟨isRest, final⟩)
          rfl
    | none =>
      have absent := splitLast?_eq_none_iff.mp inner
      constructor
      · intro found
        obtain ⟨tail, isPrefix, same⟩ := Option.map_eq_some_iff.mp found
        cases same
        have isText := List.isPrefixOf?_eq_some_iff_append_eq.mp isPrefix
        refine ⟨Or.inl ⟨rfl, isText⟩, ?_⟩
        rwa [isText, List.tail_cons]
      · rintro ⟨⟨rfl, isText⟩ | ⟨front, rfl, isRest⟩, -⟩
        · rw [List.isPrefixOf?_eq_some_iff_append_eq.mpr isText]
          rfl
        · exact absurd ⟨front, after, isRest.symm⟩ absent

/-- A character is cut at where it stands for the last time. -/
theorem splitLast?_singleton {c : Char} (absent : c ∉ after) (before : List Char) :
    splitLast? [c] (before ++ c :: after) = some (before, after) := by
  rw [splitLast?_eq_some_iff (List.cons_ne_nil _ _)]
  refine ⟨by rw [List.append_assoc, List.singleton_append], ?_⟩
  rwa [List.singleton_append, List.tail_cons, List.singleton_infix_iff]

/-! ### Occurrences across a character -/

theorem prefix_append_cons_iff {c : Char} (notHeld : c ∉ separator) :
    separator <+: before ++ c :: after ↔ separator <+: before := by
  constructor
  · intro isPrefix
    have upTo : before ++ [c] <+: before ++ c :: after := ⟨after, by simp⟩
    rcases List.prefix_or_prefix_of_prefix isPrefix upTo with short | long
    · rcases List.prefix_concat_iff.mp short with same | inFront
      · exact absurd (by simp [same]) notHeld
      · exact inFront
    · exact absurd (long.subset (by simp)) notHeld
  · exact fun isPrefix => isPrefix.trans (List.prefix_append _ _)

/-- **An occurrence lies on one side** of a character that the separator does not hold. -/
theorem infix_append_cons_iff {c : Char} (nonempty : separator ≠ []) (notHeld : c ∉ separator) :
    separator <:+: before ++ c :: after ↔ separator <:+: before ∨ separator <:+: after := by
  induction before with
  | nil =>
    have noPrefix : ¬ separator <+: [] ++ c :: after := by
      rw [prefix_append_cons_iff notHeld, List.prefix_nil]
      exact nonempty
    rw [List.infix_nil, List.nil_append, List.infix_cons_iff]
    refine or_congr_left ?_
    exact ⟨fun isPrefix => absurd isPrefix noPrefix, fun isNil => absurd isNil nonempty⟩
  | cons first rest ih =>
    rw [List.cons_append, List.infix_cons_iff, ih, List.infix_cons_iff, ← List.cons_append,
      prefix_append_cons_iff notHeld, or_assoc]

end RuleAtoms.Text
