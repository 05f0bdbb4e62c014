/-
**Tokens and literals, back and forth.**

Every text is the token of the literal it reads as. The other way round, `HasFaithfulToken` tells
which literals read back from their tokens; here the same is said of each kind by itself, with the
language tags given by their grammar (`IsTag`) and the last mark of a text by what follows it.

* `isLanguageTag_iff`: a tag is well-formed exactly when the grammar makes it;
* `token_roundTrip`: both directions, for all texts and all literals.
-/

import RuleAtoms.Proofs.Literal.FaithfulToken
import RuleAtoms.Proofs.Text.Runs

namespace RuleAtoms.Literal

/-! ### The grammar of language tags -/

/-- One to eight characters of a class. -/
structure IsSubtag (allowed : Char → Bool) (text : List Char) : Prop where
  least : 1 ≤ text.length
  most : text.length ≤ 8
  characters : ∀ c ∈ text, allowed c = true

/-- One to eight letters, then any number of times a hyphen and one to eight letters or digits, all
of them of ASCII. -/
def IsTag (tag : List Char) : Prop :=
  ∃ (first : List Char) (rest : List (List Char)), tag = first ++ rest.flatMap ('-' :: ·) ∧
    IsSubtag Char.isAlpha first ∧ ∀ piece ∈ rest, IsSubtag Char.isAlphanum piece

theorem isSubtag_iff {allowed : Char → Bool} {text : List Char} :
    isSubtag allowed text = true ↔ IsSubtag allowed text := by
  unfold isSubtag
  rw [Bool.and_eq_true, Bool.and_eq_true, decide_eq_true_eq, decide_eq_true_eq, List.all_eq_true]
  exact ⟨fun ⟨⟨least, most⟩, characters⟩ => ⟨least, most, characters⟩,
    fun ⟨least, most, characters⟩ => ⟨⟨least, most⟩, characters⟩⟩

/-- Pieces with hyphens between them are the first one and a hyphen before each of the others. -/
theorem intercalate_hyphen (first : List Char) (rest : List (List Char)) :
    ['-'].intercalate (first :: rest) = first ++ rest.flatMap ('-' :: ·) := by
  induction rest generalizing first with
  | nil => rw [List.intercalate_singleton, List.flatMap_nil, List.append_nil]
  | cons second others ih =>
    rw [List.intercalate_cons_cons, ih, List.flatMap_cons, List.append_assoc, List.cons_append,
      List.nil_append, List.cons_append]

theorem not_mem_of_isSubtag {allowed : Char → Bool} {text : List Char}
    (isSubtag : IsSubtag allowed text) {c : Char} (other : allowed c = false) : c ∉ text :=
  fun member => Bool.false_ne_true (other.symm.trans (isSubtag.characters c member))

/-- The subtags of what the grammar makes are the pieces it is made of. -/
theorem subtags_of_pieces {first : List Char} {rest : List (List Char)}
    (isFirst : IsSubtag Char.isAlpha first)
    (areRest : ∀ piece ∈ rest, IsSubtag Char.isAlphanum piece) :
    subtags (first ++ rest.flatMap ('-' :: ·)) = first :: rest := by
  have noHyphen : ∀ piece ∈ first :: rest, '-' ∉ piece := by
    intro piece member
    rcases List.mem_cons.mp member with rfl | inRest
    · exact not_mem_of_isSubtag isFirst (by decide)
    · exact not_mem_of_isSubtag (areRest piece inRest) (by decide)
  rw [← intercalate_hyphen]
  exact List.splitOn_intercalate '-' noHyphen (List.cons_ne_nil _ _)

/-- **A tag is well-formed** exactly when the grammar makes it. -/
theorem isLanguageTag_iff {tag : String} : isLanguageTag tag = true ↔ IsTag tag.toList := by
  unfold isLanguageTag
  constructor
  · intro proper
    have together : ['-'].intercalate (subtags tag.toList) = tag.toList :=
      List.intercalate_splitOn '-'
    split at proper
    · cases proper
    · rename_i first rest pieces
      rw [Bool.and_eq_true, isSubtag_iff, List.all_eq_true] at proper
      rw [pieces, intercalate_hyphen] at together
      exact ⟨first, rest, together.symm, proper.1,
        fun piece member => isSubtag_iff.mp (proper.2 piece member)⟩
  · rintro ⟨first, rest, isTag, isFirst, areRest⟩
    rw [isTag, subtags_of_pieces isFirst areRest]
    rw [Bool.and_eq_true, isSubtag_iff, List.all_eq_true]
    exact ⟨isFirst, fun piece member => isSubtag_iff.mpr (areRest piece member)⟩

/-! ### Faithful tokens by kind -/

/-- What matters for a language in a text is what follows its last mark. A proper tag holds no mark. -/
theorem forall_not_tag_iff {lexical : String} :
    (∀ before tag, lexical = before ++ "@" ++ tag → isLanguageTag tag = false) ↔
      '@' ∉ lexical.toList ∨ ¬ IsTag (Text.afterLast (· == '@') lexical.toList) := by
  cases cut : Text.splitLast? ['@'] lexical.toList with
  | none =>
    have noMark : '@' ∉ lexical.toList := by
      rw [← List.singleton_infix_iff]
      exact Text.splitLast?_eq_none_iff.mp cut
    refine ⟨fun _ => Or.inl noMark, fun _ before tag isText => ?_⟩
    exact absurd (by simp [isText]) noMark
  | some pair =>
    obtain ⟨before, tag⟩ := pair
    rw [← String.toList_ofList (l := before), ← String.toList_ofList (l := tag)] at cut
    obtain ⟨isText, noMark⟩ := splitLast?_language_iff.mp cut
    generalize String.ofList before = front at isText
    generalize String.ofList tag = back at isText noMark
    have characters : lexical.toList = front.toList ++ '@' :: back.toList := by simp [isText]
    have marked : '@' ∈ lexical.toList := by simp [characters]
    have notLater : ∀ c ∈ back.toList, (c == '@') = false := by
      intro c member
      rw [beq_eq_false_iff_ne]
      rintro rfl
      exact noMark member
    rw [or_iff_right (not_not_intro marked), characters,
      Text.afterLast_append_cons (by decide) notLater, ← isLanguageTag_iff, Bool.not_eq_true]
    constructor
    · exact fun noTag => noTag front back isText
    · intro improper other otherTag isOther
      rw [← Bool.not_eq_true]
      intro proper
      have noOtherMark := not_mem_of_isLanguageTag proper (c := '@') (by decide) (by decide)
      have sameCut := splitLast?_language_iff.mpr ⟨isOther, noOtherMark⟩
      rw [splitLast?_language_iff.mpr ⟨isText, noMark⟩, Option.some.injEq, Prod.mk.injEq,
        String.toList_inj, String.toList_inj] at sameCut
      rw [sameCut.2, proper] at improper
      cases improper

/-- The mark of a datatype does not begin before the datatype, nor in it. -/
theorem caret_cons_iff {text : List Char} :
    ¬ ['^', '^'] <:+: '^' :: text ↔ text.head? ≠ some '^' ∧ ¬ ['^', '^'] <:+: text := by
  have first : ['^', '^'] <+: '^' :: text ↔ text.head? = some '^' := by
    rw [List.cons_prefix_cons, List.head?_eq_some_iff]
    exact ⟨fun ⟨_, rest, isText⟩ => ⟨rest, isText.symm⟩,
      fun ⟨rest, isText⟩ => ⟨rfl, rest, isText.symm⟩⟩
  rw [List.infix_cons_iff, not_or, first]

/-- **Tokens and literals.** The token of what a text reads as is the text. A literal reads back
from its token if and only if

* plain: its lexical form holds no `^^` or ends in it, and it holds no `@` or no language tag behind
  the last one;
* with a language: the tag is well-formed, and the lexical form holds no `^^`;
* with a datatype: the datatype is not empty, does not begin with `^` and holds no `^^`. -/
theorem token_roundTrip :
    (∀ text : String, (ofToken text).token = text) ∧
      (∀ lexical : String, ofToken (plain lexical).token = plain lexical ↔
        (¬ ['^', '^'] <:+: lexical.toList ∨ ['^', '^'] <:+ lexical.toList) ∧
          ('@' ∉ lexical.toList ∨ ¬ IsTag (Text.afterLast (· == '@') lexical.toList))) ∧
      (∀ lexical tag : String, ofToken (language lexical tag).token = language lexical tag ↔
        IsTag tag.toList ∧ ¬ ['^', '^'] <:+: lexical.toList) ∧
      (∀ lexical datatype : String,
        ofToken (typed lexical datatype).token = typed lexical datatype ↔
          datatype ≠ "" ∧ datatype.toList.head? ≠ some '^' ∧ ¬ ['^', '^'] <:+: datatype.toList) := by
  refine ⟨token_ofToken, fun lexical => ?_, fun lexical tag => ?_, fun lexical datatype => ?_⟩
  · rw [ofToken_token_iff, ← forall_not_tag_iff]
    rfl
  · rw [ofToken_token_iff, ← isLanguageTag_iff]
    rfl
  · rw [ofToken_token_iff, ← caret_cons_iff]
    rfl

/-- Marks that overlap or stand at the end: the last literal does not read back. -/
example : ofToken (plain "a^^^^").token = plain "a^^^^" ∧
    ofToken (plain "a@en^^").token = plain "a@en^^" ∧
    ofToken (typed "a" "^b").token = typed "a^" "b" := by
  decide

end RuleAtoms.Literal
