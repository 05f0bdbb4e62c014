/-
**One cut of a text, seen by five predicates.**

What stands before and after the first occurrence of a separator makes up the text together with it.
The tests of texts ask for nothing else: a text contains the separator when the three parts make it
up, and begins with it when the part before is not needed.

* `splitFirst?_of_occurs`: where the separator occurs, there is a first cut;
* `before_append_after_iff`: the parts make up the text exactly where the separator occurs;
* `parts_of_cut`: **the five predicates describe one cut**.
-/

import RuleAtoms.Predicate.TextFunctions
import RuleAtoms.Proofs.Text.Occurrence

namespace RuleAtoms.TextFunctions

open Text

/-- A text occurs in another one. -/
def Occurs (part text : String) : Prop := ∃ front back, text = front ++ part ++ back

/-! ### Texts as lists of characters -/

section lists

variable {text separator : List Char}

/-- The parts before and after a separator, where it occurs, are those of the first cut. -/
theorem splitFirst?_of_occurs (occurs : separator <:+: text) :
    splitFirst? separator text = some (before text separator, after text separator) := by
  cases found : splitFirst? separator text with
  | none => exact absurd occurs (splitFirst?_eq_none_iff.mp found)
  | some parts =>
    obtain ⟨front, back⟩ := parts
    have isAfter : after text separator = back := by
      unfold after
      rw [found]
    have isBefore : before text separator = front := by
      unfold before
      rw [found]
      by_cases isEmpty : separator.isEmpty = true
      · have isText : text = [] ++ separator ++ text := by rw [List.isEmpty_iff.mp isEmpty]; rfl
        have noLonger := length_le_of_splitFirst? found isText
        rw [if_pos isEmpty, List.eq_nil_of_length_eq_zero (Nat.le_zero.mp noLonger)]
      · rw [if_neg isEmpty]
    rw [isBefore, isAfter]

/-- A separator that does not occur leaves nothing on either side. -/
theorem parts_eq_nil (absent : ¬ separator <:+: text) :
    before text separator = [] ∧ after text separator = [] := by
  have noCut := splitFirst?_eq_none_iff.mpr absent
  unfold before after
  rw [noCut]
  exact ⟨ite_self _, rfl⟩

theorem before_append_after (occurs : separator <:+: text) :
    before text separator ++ separator ++ after text separator = text :=
  (splitFirst?_eq_some (splitFirst?_of_occurs occurs)).symm

/-- **The parts make up the text** exactly where the separator occurs. -/
theorem before_append_after_iff :
    before text separator ++ separator ++ after text separator = text ↔ separator <:+: text :=
  ⟨fun same => ⟨_, _, same⟩, before_append_after⟩

/-- No occurrence has less in front of it than the first one. -/
theorem length_before_le {front back : List Char} (isText : text = front ++ separator ++ back) :
    (before text separator).length ≤ front.length :=
  length_le_of_splitFirst? (splitFirst?_of_occurs ⟨front, back, isText.symm⟩) isText

theorem parts_of_empty (text : List Char) : before text [] = [] ∧ after text [] = text := by
  have isText : text = [] ++ [] ++ text := rfl
  have isBefore := List.eq_nil_of_length_eq_zero (Nat.le_zero.mp (length_before_le isText))
  have whole : before text [] ++ [] ++ after text [] = text := before_append_after List.nil_infix
  rw [isBefore] at whole
  exact ⟨isBefore, whole⟩

/-- A text begins with a separator when the part after the first one is all that is missing. -/
theorem prefix_iff_append_after : separator <+: text ↔ text = separator ++ after text separator := by
  constructor
  · rintro ⟨back, isText⟩
    have isCut : text = [] ++ separator ++ back := isText.symm
    have whole := before_append_after (List.IsPrefix.isInfix ⟨back, isText⟩)
    rw [List.eq_nil_of_length_eq_zero (Nat.le_zero.mp (length_before_le isCut))] at whole
    exact whole.symm
  · exact fun isText => ⟨_, isText.symm⟩

end lists

/-! ### Literals -/

theorem eq_append_iff {whole first second : String} :
    whole = first ++ second ↔ whole.toList = first.toList ++ second.toList := by
  rw [← String.toList_inj, String.toList_append]

theorem occurs_iff {part text : String} : Occurs part text ↔ part.toList <:+: text.toList := by
  constructor
  · rintro ⟨front, back, rfl⟩
    exact ⟨front.toList, back.toList, by simp only [String.toList_append]⟩
  · rintro ⟨front, back, same⟩
    refine ⟨String.ofList front, String.ofList back, String.toList_inj.mp ?_⟩
    simp only [String.toList_append, String.toList_ofList]
    exact same.symm

theorem contains_iff (text separator : Literal) :
    contains [text, separator] = true ↔ Occurs separator.lexical text.lexical := by
  show (splitFirst? separator.lexical.toList text.lexical.toList).isSome = true ↔ _
  rw [occurs_iff, Option.isSome_iff_ne_none, ne_eq, splitFirst?_eq_none_iff, not_not]

theorem startsWith_iff (text separator : Literal) :
    startsWith [text, separator] = true ↔ separator.lexical.toList <+: text.lexical.toList :=
  List.isPrefixOf_iff_prefix

theorem endsWith_iff (text separator : Literal) :
    endsWith [text, separator] = true ↔ ∃ front, text.lexical = front ++ separator.lexical := by
  show separator.lexical.toList.isSuffixOf text.lexical.toList = true ↔ _
  rw [List.isSuffixOf_iff_suffix]
  constructor
  · rintro ⟨front, same⟩
    refine ⟨String.ofList front, eq_append_iff.mpr ?_⟩
    rw [String.toList_ofList]
    exact same.symm
  · rintro ⟨front, isText⟩
    exact ⟨front.toList, (eq_append_iff.mp isText).symm⟩

/-- **The five predicates describe one cut of a text.** The text contains the separator exactly when
the parts before and after it make up the text with it, and exactly when it occurs at all. No
occurrence has less in front of it than the first one. Both parts are empty where the separator does
not occur, and the part after an empty one is the whole text. A text begins with the separator when
the part after it is all that is missing, and ends with it when it is something followed by the
separator. -/
theorem parts_of_cut (text separator : Literal) :
    ∃ front back : String, substringBefore? [text, separator] = some front ∧
      substringAfter? [text, separator] = some back ∧
      (contains [text, separator] = true ↔ front ++ separator.lexical ++ back = text.lexical) ∧
      (contains [text, separator] = true ↔ Occurs separator.lexical text.lexical) ∧
      (∀ other rest, text.lexical = other ++ separator.lexical ++ rest →
        front.length ≤ other.length) ∧
      (¬ Occurs separator.lexical text.lexical → front = "" ∧ back = "") ∧
      (separator.lexical = "" → front = "" ∧ back = text.lexical) ∧
      (startsWith [text, separator] = true ↔ text.lexical = separator.lexical ++ back) ∧
      (endsWith [text, separator] = true ↔ ∃ other, text.lexical = other ++ separator.lexical) := by
  refine ⟨String.ofList (before text.lexical.toList separator.lexical.toList),
    String.ofList (after text.lexical.toList separator.lexical.toList), rfl, rfl, ?_,
    contains_iff text separator, ?_, ?_, ?_, ?_, endsWith_iff text separator⟩
  · rw [contains_iff, occurs_iff, ← before_append_after_iff, ← String.toList_inj]
    simp only [String.toList_append, String.toList_ofList]
  · intro other rest isText
    rw [← String.length_toList, ← String.length_toList, String.toList_ofList]
    have isCut : text.lexical.toList = other.toList ++ separator.lexical.toList ++ rest.toList := by
      rw [isText, String.toList_append, String.toList_append]
    exact length_before_le isCut
  · intro absent
    rw [occurs_iff] at absent
    rw [(parts_eq_nil absent).1, (parts_eq_nil absent).2]
    exact ⟨rfl, rfl⟩
  · intro isEmpty
    rw [isEmpty, String.toList_empty, (parts_of_empty _).1, (parts_of_empty _).2]
    exact ⟨rfl, String.ofList_toList⟩
  · rw [startsWith_iff, prefix_iff_append_after, eq_append_iff, String.toList_ofList]

/-- Cuts at the first of two occurrences that overlap, and at a separator that is the whole text. -/
example : before "banana".toList "ana".toList = "b".toList ∧
    after "banana".toList "ana".toList = "na".toList ∧
    before "ana".toList "ana".toList = [] ∧ after "ana".toList "ana".toList = [] := by
  decide

end RuleAtoms.TextFunctions
