/-
**Which literals read back from their tokens.**

A token escapes nothing, so a literal whose texts hold a mark of their own may read back as another
one. `HasFaithfulToken` says which do not, by what occurs in the lexical form, the tag and the
datatype.

* `ofToken_token_iff`: a literal reads back from its token exactly when the token is faithful;
* `lexical_ofToken_token_iff`: this is so as soon as its lexical form reads back.
-/

import RuleAtoms.Literal.Token
import RuleAtoms.Proofs.Text.Occurrence

namespace RuleAtoms.Literal

/-! ### Language tags -/

theorem mem_intercalate {c : Char} {separator : List Char} {pieces : List (List Char)}
    (member : c ∈ separator.intercalate pieces) : c ∈ separator ∨ ∃ piece ∈ pieces, c ∈ piece := by
  induction pieces with
  | nil => cases member
  | cons piece rest ih =>
    by_cases isLast : rest = []
    · rw [isLast, List.intercalate_singleton] at member
      exact Or.inr ⟨piece, List.mem_cons_self, member⟩
    · rw [List.intercalate_cons_of_ne_nil isLast, List.append_assoc] at member
      rcases List.mem_append.mp member with inPiece | inOthers
      · exact Or.inr ⟨piece, List.mem_cons_self, inPiece⟩
      · rcases List.mem_append.mp inOthers with inSeparator | inRest
        · exact Or.inl inSeparator
        · refine (ih inRest).imp_right fun ⟨other, isOther, inOther⟩ => ?_
          exact ⟨other, List.mem_cons_of_mem _ isOther, inOther⟩

theorem isAlphanum_of_isAlpha {c : Char} (letter : c.isAlpha = true) : c.isAlphanum = true := by
  rw [Char.isAlphanum, letter, Bool.true_or]

/-- The subtags of a well-formed tag are made of letters and digits, and the first is not empty. -/
theorem subtags_of_isLanguageTag {tag : String} (proper : isLanguageTag tag = true) :
    ∃ first rest, subtags tag.toList = first :: rest ∧ first ≠ [] ∧
      ∀ piece ∈ first :: rest, ∀ c ∈ piece, c.isAlphanum = true := by
  unfold isLanguageTag at proper
  split at proper
  · cases proper
  · rename_i first rest pieces
    simp only [Bool.and_eq_true, isSubtag, List.all_eq_true, decide_eq_true_eq] at proper
    obtain ⟨⟨⟨long, -⟩, letters⟩, others⟩ := proper
    refine ⟨first, rest, pieces, List.ne_nil_of_length_pos long, fun piece member c inPiece => ?_⟩
    rcases List.mem_cons.mp member with rfl | inRest
    · exact isAlphanum_of_isAlpha (letters c inPiece)
    · exact (others piece inRest).2 c inPiece

/-- **A well-formed tag** is made of letters, digits and hyphens. -/
theorem mem_of_isLanguageTag {tag : String} (proper : isLanguageTag tag = true) {c : Char}
    (member : c ∈ tag.toList) : c.isAlphanum = true ∨ c = '-' := by
  obtain ⟨first, rest, pieces, -, alphanumeric⟩ := subtags_of_isLanguageTag proper
  have together : ['-'].intercalate (tag.toList.splitOn '-') = tag.toList :=
    List.intercalate_splitOn '-'
  rw [← together] at member
  rcases mem_intercalate member with isHyphen | ⟨piece, isPiece, inPiece⟩
  · exact Or.inr (List.mem_singleton.mp isHyphen)
  · unfold subtags at pieces
    exact Or.inl (alphanumeric piece (pieces ▸ isPiece) c inPiece)

theorem ne_empty_of_isLanguageTag {tag : String} (proper : isLanguageTag tag = true) :
    tag ≠ "" := by
  rintro rfl
  exact absurd proper (by decide)

/-- A well-formed tag holds no mark. -/
theorem not_mem_of_isLanguageTag {tag : String} (proper : isLanguageTag tag = true) {c : Char}
    (noLetter : c.isAlphanum = false) (noHyphen : c ≠ '-') : c ∉ tag.toList := by
  intro member
  rcases mem_of_isLanguageTag proper member with letter | isHyphen
  · exact Bool.false_ne_true (noLetter.symm.trans letter)
  · exact noHyphen isHyphen

/-! ### Marks in a token -/

/-- The last place where the mark of a datatype begins. -/
theorem splitLast?_typed_iff {token lexical datatype : String} :
    Text.splitLast? ['^', '^'] token.toList = some (lexical.toList, datatype.toList) ↔
      token = lexical ++ "^^" ++ datatype ∧ ¬ ['^', '^'] <:+: '^' :: datatype.toList := by
  rw [Text.splitLast?_eq_some_iff (by simp), ← String.toList_inj, String.toList_append,
    String.toList_append]
  rfl

/-- The last place where the mark of a language stands. -/
theorem splitLast?_language_iff {token lexical tag : String} :
    Text.splitLast? ['@'] token.toList = some (lexical.toList, tag.toList) ↔
      token = lexical ++ "@" ++ tag ∧ '@' ∉ tag.toList := by
  rw [Text.splitLast?_eq_some_iff (by simp), ← String.toList_inj, String.toList_append,
    String.toList_append, ← List.singleton_infix_iff]
  rfl

theorem splitTyped?_eq_some_iff {token lexical datatype : String} :
    splitTyped? token = some (lexical, datatype) ↔
      token = lexical ++ "^^" ++ datatype ∧ datatype ≠ "" ∧
        ¬ ['^', '^'] <:+: '^' :: datatype.toList := by
  constructor
  · intro found
    unfold splitTyped? at found
    split at found
    · rename_i before after isCut
      split at found
      · cases found
      · rename_i nonempty
        cases found
        rw [← String.toList_ofList (l := before), ← String.toList_ofList (l := after)] at isCut
        obtain ⟨isToken, final⟩ := splitLast?_typed_iff.mp isCut
        refine ⟨isToken, ?_, final⟩
        simpa [← String.toList_inj] using nonempty
    · cases found
  · rintro ⟨isToken, nonempty, final⟩
    unfold splitTyped?
    rw [splitLast?_typed_iff.mpr ⟨isToken, final⟩]
    simp [nonempty]

theorem splitTyped?_eq_none_iff {token : String} :
    splitTyped? token = none ↔ ¬ ['^', '^'] <:+: token.toList ∨ ['^', '^'] <:+ token.toList := by
  unfold splitTyped?
  constructor
  · intro failed
    split at failed
    · rename_i before after isCut
      split at failed
      · rename_i isEmpty
        rw [List.isEmpty_iff] at isEmpty
        have isToken := Text.splitLast?_eq_some isCut
        rw [isEmpty, List.append_nil] at isToken
        exact Or.inr ⟨before, isToken.symm⟩
      · cases failed
    · rename_i noCut
      exact Or.inl (Text.splitLast?_eq_none_iff.mp noCut)
  · rintro (absent | ⟨before, isToken⟩)
    · rw [Text.splitLast?_eq_none_iff.mpr absent]
    · have isCut : Text.splitLast? ['^', '^'] token.toList = some (before, []) := by
        rw [Text.splitLast?_eq_some_iff (by simp), List.append_nil]
        refine ⟨isToken.symm, fun occurs => absurd occurs.length_le (by simp)⟩
      rw [isCut]
      rfl

theorem splitLanguage?_eq_some_iff {token lexical tag : String} :
    splitLanguage? token = some (lexical, tag) ↔
      token = lexical ++ "@" ++ tag ∧ isLanguageTag tag = true := by
  constructor
  · intro found
    unfold splitLanguage? at found
    split at found
    · rename_i before after isCut
      split at found
      · rename_i proper
        cases found
        rw [← String.toList_ofList (l := before), ← String.toList_ofList (l := after)] at isCut
        exact ⟨(splitLast?_language_iff.mp isCut).1, proper⟩
      · cases found
    · cases found
  · rintro ⟨isToken, proper⟩
    have noMark := not_mem_of_isLanguageTag proper (c := '@') (by decide) (by decide)
    unfold splitLanguage?
    rw [splitLast?_language_iff.mpr ⟨isToken, noMark⟩]
    simp [proper]

/-- A proper tag behind a lexical form neither makes nor hides the mark of a datatype. -/
theorem splitTyped?_language_eq_none_iff {lexical tag : String}
    (proper : isLanguageTag tag = true) :
    splitTyped? (lexical ++ "@" ++ tag) = none ↔ ¬ ['^', '^'] <:+: lexical.toList := by
  have noMark := not_mem_of_isLanguageTag proper (c := '^') (by decide) (by decide)
  have notInTag : ¬ ['^', '^'] <:+: tag.toList := fun occurs => noMark (occurs.subset (by simp))
  have characters : (lexical ++ "@" ++ tag).toList = lexical.toList ++ '@' :: tag.toList := by simp
  have notAtEnd : ¬ ['^', '^'] <:+ lexical.toList ++ '@' :: tag.toList := by
    intro atEnd
    rcases List.suffix_or_suffix_of_suffix atEnd (List.suffix_append _ _) with short | long
    · have held : '^' ∈ '@' :: tag.toList := short.subset (by simp)
      rcases List.mem_cons.mp held with same | inTag
      · exact absurd same (by decide)
      · exact noMark inTag
    · have held : '@' ∈ ['^', '^'] := long.subset List.mem_cons_self
      exact absurd held (by decide)
  rw [splitTyped?_eq_none_iff, characters, or_iff_left notAtEnd,
    Text.infix_append_cons_iff (by simp) (by decide), or_iff_left notInTag]

theorem splitLanguage?_eq_none_iff {token : String} :
    splitLanguage? token = none ↔
      ∀ lexical tag, token = lexical ++ "@" ++ tag → isLanguageTag tag = false := by
  rw [Option.eq_none_iff_forall_ne_some]
  constructor
  · intro noCut lexical tag isToken
    rw [← Bool.not_eq_true]
    exact fun proper => noCut (lexical, tag) (splitLanguage?_eq_some_iff.mpr ⟨isToken, proper⟩)
  · rintro noTag ⟨lexical, tag⟩ found
    obtain ⟨isToken, proper⟩ := splitLanguage?_eq_some_iff.mp found
    exact Bool.false_ne_true ((noTag lexical tag isToken).symm.trans proper)

/-! ### What a token reads as -/

theorem ofToken_eq_typed_iff {token lexical datatype : String} :
    ofToken token = typed lexical datatype ↔ splitTyped? token = some (lexical, datatype) := by
  unfold ofToken
  cases splitTyped? token with
  | some pair => simp [typed, Prod.ext_iff]
  | none =>
    cases splitLanguage? token with
    | some pair => simp [typed, language]
    | none => simp [typed, plain]

theorem ofToken_eq_language_iff {token lexical tag : String} :
    ofToken token = language lexical tag ↔
      splitTyped? token = none ∧ splitLanguage? token = some (lexical, tag) := by
  unfold ofToken
  cases splitTyped? token with
  | some pair => simp [typed, language]
  | none =>
    cases splitLanguage? token with
    | some pair => simp [language, Prod.ext_iff]
    | none => simp [language, plain]

theorem ofToken_eq_plain_iff {token lexical : String} :
    ofToken token = plain lexical ↔
      splitTyped? token = none ∧ splitLanguage? token = none ∧ token = lexical := by
  unfold ofToken
  cases splitTyped? token with
  | some pair => simp [typed, plain]
  | none =>
    cases splitLanguage? token with
    | some pair => simp [language, plain]
    | none => simp [plain]

/-! ### Faithful tokens -/

/-- Whether nothing in the texts of a literal is taken for another mark in its token. -/
def HasFaithfulToken (literal : Literal) : Prop :=
  match literal.kind with
  | .plain =>
    (¬ ['^', '^'] <:+: literal.lexical.toList ∨ ['^', '^'] <:+ literal.lexical.toList) ∧
      ∀ before tag, literal.lexical = before ++ "@" ++ tag → isLanguageTag tag = false
  | .language tag => isLanguageTag tag = true ∧ ¬ ['^', '^'] <:+: literal.lexical.toList
  | .typed datatype => datatype ≠ "" ∧ ¬ ['^', '^'] <:+: '^' :: datatype.toList

/-- **A literal reads back from its token exactly when the token is faithful.** -/
theorem ofToken_token_iff {literal : Literal} :
    ofToken literal.token = literal ↔ literal.HasFaithfulToken := by
  obtain ⟨lexical, kind⟩ := literal
  cases kind with
  | plain =>
    unfold token HasFaithfulToken
    simp only
    change ofToken lexical = plain lexical ↔ _
    rw [ofToken_eq_plain_iff, splitTyped?_eq_none_iff, splitLanguage?_eq_none_iff]
    simp
  | language tag =>
    unfold token HasFaithfulToken
    simp only
    change ofToken _ = language lexical tag ↔ _
    rw [ofToken_eq_language_iff, splitLanguage?_eq_some_iff]
    constructor
    · rintro ⟨noDatatype, -, proper⟩
      exact ⟨proper, (splitTyped?_language_eq_none_iff proper).mp noDatatype⟩
    · rintro ⟨proper, absent⟩
      exact ⟨(splitTyped?_language_eq_none_iff proper).mpr absent, rfl, proper⟩
  | typed datatype =>
    unfold token HasFaithfulToken
    simp only
    change ofToken _ = typed lexical datatype ↔ _
    rw [ofToken_eq_typed_iff, splitTyped?_eq_some_iff]
    simp

instance (literal : Literal) : Decidable literal.HasFaithfulToken :=
  decidable_of_iff _ ofToken_token_iff

/-- Behind the same lexical form, the token tells the kind. -/
theorem eq_of_lexical_token {first second : Literal} (lexical : first.lexical = second.lexical)
    (tokens : first.token = second.token) : first = second := by
  obtain ⟨text, kind⟩ := first
  obtain ⟨other, otherKind⟩ := second
  cases lexical
  rw [← String.toList_inj] at tokens
  cases kind <;> cases otherKind <;> simp_all [token, ← String.toList_inj]

/-- **What reads back with its lexical form reads back whole.** -/
theorem lexical_ofToken_token_iff {literal : Literal} :
    (ofToken literal.token).lexical = literal.lexical ↔ literal.HasFaithfulToken := by
  rw [← ofToken_token_iff]
  constructor
  · exact fun lexical => eq_of_lexical_token lexical (token_ofToken literal.token)
  · exact congrArg Literal.lexical

end RuleAtoms.Literal
