/-
**Literals with and without quotes.**

A literal with a language or a datatype can be written with its lexical form between quotes, and
without quotes where the lexical form allows it. The readers are different ones: what has no quotes
is a token, whose mark is looked for from the end, and a datatype in it stays as it is written.

* `spelled_language`, `spelled_word`: with a language tag or a bare word for a datatype, both
  spellings are the same literal;
* `spelled_abbreviated`: with an abbreviated datatype only the quoted spelling stands for the IRI;
* `spellings_alike`: so the two agree, but for the namespaces that a prefix and a colon spell out.
-/

import RuleAtoms.Proofs.AtomText.Readers

namespace RuleAtoms.AtomText

open Text (Ends)

variable {prefixes : Prefixes} {lexical : String} {text rest : List Char}

theorem FollowsArgument.endsArgument (follows : FollowsArgument rest) : EndsArgument rest := by
  intro c isFirst
  rcases follows with isComma | isParenthesis
  · rw [← Option.some.inj (isComma.symm.trans isFirst)]
    decide
  · rw [← Option.some.inj (isParenthesis.symm.trans isFirst)]
    decide

/-- A text reads as one argument at most. -/
theorem ReadsAs.unique {first second : Argument} (isFirst : ReadsAs prefixes text first)
    (isSecond : ReadsAs prefixes text second) : first = second := by
  obtain ⟨written, read, resolves⟩ := isFirst [')'] (Or.inr rfl)
  obtain ⟨other, readOther, resolvesOther⟩ := isSecond [')'] (Or.inr rfl)
  rw [read] at readOther
  cases readOther
  exact Except.ok.inj (resolves.symm.trans resolvesOther)

/-- The literals that a lexical form with a suffix is without quotes and with them. -/
structure Spelled (prefixes : Prefixes) (lexical : String) (suffix : List Char)
    (bare quoted : Literal) : Prop where
  readsBare : ReadsAs prefixes (lexical.toList ++ suffix) (.literal bare)
  readsQuoted : ReadsAs prefixes (quote lexical.toList ++ suffix) (.literal quoted)

/-! ### Languages -/

/-- **A language literal is the same in both spellings.** -/
theorem spelled_language (bare : isBare lexical.toList = true) {tag : String}
    (proper : Literal.isLanguageTag tag = true) :
    Spelled prefixes lexical ('@' :: tag.toList) (.language lexical tag)
      (.language lexical tag) where
  readsBare := by
    have written : renderLiteral prefixes (.language lexical tag) =
        lexical.toList ++ '@' :: tag.toList := by
      show (if Literal.isLanguageTag tag then renderLexical lexical.toList ++ '@' :: tag.toList
        else quote lexical.toList ++ '@' :: quote tag.toList) = _
      rw [if_pos proper, renderLexical, if_pos bare]
    exact written ▸ readsAs_language lexical tag
  readsQuoted := by
    intro rest follows
    refine ⟨.quoted lexical (some (.language tag)), ?_, rfl⟩
    rw [List.append_assoc, List.cons_append,
      argument?_quote_of_suffix _ (suffix?_tag proper follows), String.ofList_toList]

/-! ### Datatypes -/

/-- **Without quotes a datatype stays as it is written.** -/
theorem readsAs_bare_typed (bare : isBare lexical.toList = true) {datatype : String}
    (nonempty : datatype ≠ "") (isRun : ∀ c ∈ datatype.toList, isTokenChar c = true)
    (noCaret : '^' ∉ datatype.toList) :
    ReadsAs prefixes (lexical.toList ++ '^' :: '^' :: datatype.toList)
      (.literal (.typed lexical datatype)) := by
  obtain ⟨someCharacter, noMarker, -, -, isLexicalRun⟩ := of_isBare bare
  have faithful : (Literal.typed lexical datatype).HasFaithfulToken := by
    refine ⟨nonempty, fun occurs => ?_⟩
    have carets := occurs.sublist.count_le '^'
    rw [List.count_cons_self (l := datatype.toList), List.count_eq_zero.mpr noCaret] at carets
    exact absurd carets (by decide)
  have characters : (Literal.typed lexical datatype).token.toList =
      lexical.toList ++ '^' :: '^' :: datatype.toList := by simp [Literal.token, Literal.typed]
  have isTokenRun : ∀ c ∈ lexical.toList ++ '^' :: '^' :: datatype.toList,
      isTokenChar c = true := by
    simp only [List.forall_mem_append, List.forall_mem_cons]
    exact ⟨isLexicalRun, by decide, by decide, isRun⟩
  have noTokenMarker : (lexical.toList ++ '^' :: '^' :: datatype.toList).head? ≠ some '?' := by
    rwa [List.head?_append_of_ne_nil _ someCharacter]
  have readsAs : ReadsAs prefixes (lexical.toList ++ '^' :: '^' :: datatype.toList) _ :=
    readsAs_bare (by simp) isTokenRun noTokenMarker
  rw [← characters, String.ofList_toList, Literal.ofToken_token_iff.mpr faithful] at readsAs
  rwa [← characters]

/-- **With quotes a datatype is the IRI that its name stands for.** -/
theorem readsAs_quote_typed (lexical : String) {name : Name} {datatype : String}
    (isRead : datatype? text = some (name, [])) (resolves : name.resolve prefixes = .ok datatype) :
    ReadsAs prefixes (quote lexical.toList ++ '^' :: '^' :: text)
      (.literal (.typed lexical datatype)) := by
  intro rest follows
  have isSuffix : suffix? ('^' :: '^' :: text) = some (.datatype name, []) := by
    unfold suffix?
    simp only [isRead, Option.map_some]
  refine ⟨.quoted lexical (some (.datatype name)), ?_, ?_⟩
  · rw [List.append_assoc,
      argument?_quote_of_suffix _ (suffix?_append isSuffix follows.endsArgument),
      String.ofList_toList]
  · exact resolve_datatype_eq_ok_iff.mpr ⟨datatype, resolves, rfl⟩

/-- **A literal with a bare word for a datatype is the same in both spellings.** -/
theorem spelled_word (bare : isBare lexical.toList = true) {word : String} (nonempty : word ≠ "")
    (isLocal : isLocalName word = true) :
    Spelled prefixes lexical ('^' :: '^' :: word.toList) (.typed lexical word)
      (.typed lexical word) where
  readsBare := by
    have isRun : ∀ c ∈ word.toList, isNameChar c = true := List.all_eq_true.mp isLocal
    refine readsAs_bare_typed bare nonempty (fun c member => ?_) fun member => ?_
    · exact isTokenChar_of_isNameChar (isRun c member)
    · exact absurd (isRun '^' member) (by decide)
  readsQuoted := readsAs_quote_typed lexical (datatype?_word nonempty isLocal) rfl

/-- **Only between quotes does an abbreviated datatype stand for the IRI.** -/
theorem spelled_abbreviated (bare : isBare lexical.toList = true)
    {start localName space : String} (isStart : start.toList.all isPrefixChar = true)
    (isLocal : isLocalName localName = true) (bound : prefixes.find? start = some space) :
    Spelled prefixes lexical ('^' :: '^' :: (start ++ ":" ++ localName).toList)
      (.typed lexical (start ++ ":" ++ localName)) (.typed lexical (space ++ localName)) where
  readsBare := by
    have isRun : ∀ c ∈ (start ++ ":" ++ localName).toList, isNameChar c = true ∨ c = ':' :=
      fun c => isNameChar_of_mem_abbreviation isStart isLocal
    refine readsAs_bare_typed bare ?_ (fun c member => ?_) fun member => ?_
    · intro isEmpty
      have sameLength := congrArg String.length isEmpty
      simp at sameLength
    · rcases isRun c member with isName | rfl
      · exact isTokenChar_of_isNameChar isName
      · decide
    · exact absurd (isRun '^' member) (by decide)
  readsQuoted := readsAs_quote_typed lexical (datatype?_abbreviation isStart isLocal)
    (resolve_abbreviated_eq_ok_iff.mpr ⟨space, bound, rfl⟩)

/-- The two spellings of an abbreviated datatype agree only if the namespace is nothing but the
prefix with its colon. -/
theorem spelled_abbreviated_alike_iff (bare : isBare lexical.toList = true)
    {start localName space : String} (isStart : start.toList.all isPrefixChar = true)
    (isLocal : isLocalName localName = true) (bound : prefixes.find? start = some space) :
    (∃ literal, Spelled prefixes lexical ('^' :: '^' :: (start ++ ":" ++ localName).toList)
      literal literal) ↔ space = start ++ ":" := by
  have spelled := spelled_abbreviated bare isStart isLocal bound
  constructor
  · rintro ⟨literal, alike⟩
    have isBareOne := alike.readsBare.unique spelled.readsBare
    have isQuotedOne := alike.readsQuoted.unique spelled.readsQuoted
    have same := isQuotedOne.symm.trans isBareOne
    simp only [Argument.literal.injEq, Literal.typed, Literal.mk.injEq, Literal.Kind.typed.injEq,
      true_and] at same
    rw [← String.toList_inj, String.toList_append, String.toList_append] at same
    exact String.toList_inj.mp (List.append_cancel_right same)
  · rintro rfl
    exact ⟨_, spelled⟩

/-- **Where the spellings with and without quotes agree.** With a well-formed language tag or a bare
word behind it, a lexical form that can go without quotes is the same literal in both spellings. With
an abbreviated datatype the quoted spelling has the IRI for its datatype and the bare one has the
abbreviation, so the two agree only where a namespace is its prefix with a colon. -/
theorem spellings_alike (prefixes : Prefixes) {lexical : String}
    (bare : isBare lexical.toList = true) :
    (∀ tag, Literal.isLanguageTag tag = true →
      Spelled prefixes lexical ('@' :: tag.toList) (.language lexical tag)
        (.language lexical tag)) ∧
      (∀ word, word ≠ "" → isLocalName word = true →
        Spelled prefixes lexical ('^' :: '^' :: word.toList) (.typed lexical word)
          (.typed lexical word)) ∧
      ∀ start localName space, start.toList.all isPrefixChar = true →
        isLocalName localName = true → prefixes.find? start = some space →
        Spelled prefixes lexical ('^' :: '^' :: (start ++ ":" ++ localName).toList)
            (.typed lexical (start ++ ":" ++ localName)) (.typed lexical (space ++ localName)) ∧
          ((∃ literal, Spelled prefixes lexical
            ('^' :: '^' :: (start ++ ":" ++ localName).toList) literal literal) ↔
              space = start ++ ":") := by
  refine ⟨fun tag proper => spelled_language bare proper,
    fun word nonempty isLocal => spelled_word bare nonempty isLocal,
    fun start localName space isStart isLocal bound => ⟨?_, ?_⟩⟩
  · exact spelled_abbreviated bare isStart isLocal bound
  · exact spelled_abbreviated_alike_iff bare isStart isLocal bound

/-- A lexical form that ends in a caret itself, with a language, a word and an abbreviation. -/
theorem spellings_alike_caret :
    isBare "a^".toList = true ∧
      Spelled Prefixes.standard "a^" "@en-GB".toList (.language "a^" "en-GB")
        (.language "a^" "en-GB") ∧
      Spelled Prefixes.standard "a^" "^^int".toList (.typed "a^" "int") (.typed "a^" "int") ∧
      Spelled Prefixes.standard "a^" "^^xsd:int".toList (.typed "a^" "xsd:int")
        (.typed "a^" (Vocabulary.xsd ++ "int")) := by
  have bare : isBare "a^".toList = true := by decide
  obtain ⟨languages, words, abbreviations⟩ := spellings_alike Prefixes.standard bare
  exact ⟨bare, languages "en-GB" (by decide), words "int" (by decide) (by decide),
    (abbreviations "xsd" "int" Vocabulary.xsd (by decide) (by decide) (by decide)).1⟩

/-- A number with an abbreviated datatype is not the same literal in both spellings. -/
theorem not_spelled_int_alike :
    isBare "5".toList = true ∧ Prefixes.standard.find? "xsd" = some Vocabulary.xsd ∧
      ¬ ∃ literal, Spelled Prefixes.standard "5" "^^xsd:int".toList literal literal := by
  have bare : isBare "5".toList = true := by decide
  have bound : Prefixes.standard.find? "xsd" = some Vocabulary.xsd := by decide
  have isLocal : isLocalName "int" = true := by decide
  have alikeIff := spelled_abbreviated_alike_iff bare (by decide) isLocal bound
  exact ⟨bare, bound, fun alike => absurd (alikeIff.mp alike) (by decide)⟩

end RuleAtoms.AtomText
