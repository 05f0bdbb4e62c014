/-
**Written arguments read back.**

An argument ends at the comma or the closing parenthesis behind it. Between these, the writer's
choice decides which reader fits: a marker, a quote or neither.

* `readsAs_renderLiteral`: a literal reads back whatever its lexical form and its tag hold;
* `readsAs_renderArgument`: so does every argument that can be written.
-/

import RuleAtoms.Proofs.AtomText.Pieces
import RuleAtoms.Proofs.Literal.FaithfulToken
import RuleAtoms.Proofs.Table.Lookup

namespace RuleAtoms.AtomText

open Text (Ends)

/-- What stands behind an argument: a comma or the closing parenthesis. -/
def FollowsArgument (rest : List Char) : Prop := rest.head? = some ',' ∨ rest.head? = some ')'

/-- A text that reads as an argument wherever an argument can stand. -/
def ReadsAs (prefixes : Prefixes) (text : List Char) (argument : Argument) : Prop :=
  ∀ rest, FollowsArgument rest → ∃ written, argument? (text ++ rest) = some (written, rest) ∧
    written.resolve prefixes = .ok argument

section Arguments

variable {prefixes : Prefixes} {text rest : List Char}

/-! ### The end of an argument -/

theorem FollowsArgument.ends {allowed : Char → Bool} (follows : FollowsArgument rest)
    (noComma : allowed ',' = false) (noParenthesis : allowed ')' = false) : Ends allowed rest := by
  intro c isFirst
  rcases follows with isComma | isParenthesis
  · rw [← Option.some.inj (isComma.symm.trans isFirst), noComma]
  · rw [← Option.some.inj (isParenthesis.symm.trans isFirst), noParenthesis]

theorem FollowsArgument.head?_ne {c : Char} (follows : FollowsArgument rest) (noComma : c ≠ ',')
    (noParenthesis : c ≠ ')') : rest.head? ≠ some c := by
  intro isFirst
  rcases follows with isComma | isParenthesis
  · exact noComma (Option.some.inj (isFirst.symm.trans isComma))
  · exact noParenthesis (Option.some.inj (isFirst.symm.trans isParenthesis))

/-! ### Suffixes -/

/-- The end of an argument is no suffix. -/
theorem suffix?_of_follows (follows : FollowsArgument rest) : suffix? rest = none := by
  unfold suffix?
  split
  · exact absurd rfl (follows.head?_ne (c := '^') (by decide) (by decide))
  · exact absurd rfl (follows.head?_ne (c := '@') (by decide) (by decide))
  · rfl

theorem isTagChar_of_isLanguageTag {tag : String} (proper : Literal.isLanguageTag tag = true)
    {c : Char} (member : c ∈ tag.toList) : isTagChar c = true := by
  unfold isTagChar
  rw [Bool.or_eq_true, beq_iff_eq]
  exact Literal.mem_of_isLanguageTag proper member

/-- A well-formed tag reads back without quotes. -/
theorem suffix?_tag {tag : String} (proper : Literal.isLanguageTag tag = true)
    (follows : FollowsArgument rest) :
    suffix? ('@' :: (tag.toList ++ rest)) = some (.language tag, rest) := by
  have isRun : ∀ c ∈ tag.toList, isTagChar c = true :=
    fun c member => isTagChar_of_isLanguageTag proper member
  have nonempty : tag.toList ≠ [] := fun isNil =>
    Literal.ne_empty_of_isLanguageTag proper (String.toList_eq_nil_iff.mp isNil)
  have noQuote : (tag.toList ++ rest).head? ≠ some '"' :=
    Text.head?_run_ne nonempty isRun (by decide)
  have ends : Ends isTagChar rest := follows.ends (by decide) (by decide)
  have read : tag? (tag.toList ++ rest) = some (tag.toList, rest) := by
    unfold tag?
    rw [quoted?_of_head? noQuote, Option.none_or, oneOrMore?_run nonempty isRun ends]
  unfold suffix?
  simp only [read, Option.map_some, String.ofList_toList]

/-- Every tag reads back between quotes. -/
theorem suffix?_quotedTag (tag : String) (rest : List Char) :
    suffix? ('@' :: (quote tag.toList ++ rest)) = some (.language tag, rest) := by
  have read : tag? (quote tag.toList ++ rest) = some (tag.toList, rest) := by
    unfold tag?
    rw [quoted?_quote, Option.some_or]
  unfold suffix?
  simp only [read, Option.map_some, String.ofList_toList]

theorem suffix?_datatype {datatype : String} (readable : HasReadableKeys prefixes)
    (writable : isWritableDatatype prefixes datatype = true) (follows : FollowsArgument rest) :
    ∃ name, suffix? ('^' :: '^' :: ((Prefixes.renderDatatype prefixes datatype).toList ++ rest)) =
        some (.datatype name, rest) ∧ name.resolve prefixes = .ok datatype := by
  obtain ⟨name, read, resolves⟩ := datatype?_renderDatatype readable writable
    (follows.ends (by decide) (by decide)) (follows.head?_ne (by decide) (by decide))
  refine ⟨name, ?_, resolves⟩
  unfold suffix?
  simp only [read, Option.map_some]

/-! ### The three kinds of arguments -/

/-- What begins with a quote is read as a quoted text. -/
theorem argument?_quote (text rest : List Char) {written : WrittenArgument} {tail : List Char}
    (read : quotedArgument? (quote text ++ rest) = some (written, tail)) :
    argument? (quote text ++ rest) = some (written, tail) := by
  have noVariable : namedVariable? (quote text ++ rest) = none := rfl
  unfold argument?
  rw [noVariable, Option.none_or, read, Option.some_or]

/-- A quoted text with a suffix is read with it. -/
theorem argument?_quote_of_suffix (text : List Char) {suffix : Suffix} {tail : List Char}
    (found : suffix? rest = some (suffix, tail)) :
    argument? (quote text ++ rest) =
      some (.quoted (String.ofList text) (some suffix), tail) := by
  refine argument?_quote text rest ?_
  unfold quotedArgument?
  simp only [quoted?_quote, Option.map_some, found]

/-- A quoted text at the end of an argument has no suffix. -/
theorem argument?_quote_of_follows (text : List Char) (follows : FollowsArgument rest) :
    argument? (quote text ++ rest) = some (.quoted (String.ofList text) none, rest) := by
  refine argument?_quote text rest ?_
  unfold quotedArgument?
  simp only [quoted?_quote, Option.map_some, suffix?_of_follows follows]

theorem namedVariable?_of_head? (noMarker : text.head? ≠ some '?') :
    namedVariable? text = none := by
  unfold namedVariable?
  split
  · exact absurd rfl noMarker
  · rfl

/-- A variable reads back. -/
theorem readsAs_variable {name : String} (nonempty : name ≠ "") (isName : isLocalName name = true) :
    ReadsAs prefixes ('?' :: name.toList) (.variable ⟨name⟩) := by
  intro rest follows
  have isRun : ∀ c ∈ name.toList, isNameChar c = true := List.all_eq_true.mp isName
  have someCharacter : name.toList ≠ [] := fun isNil =>
    nonempty (String.toList_eq_nil_iff.mp isNil)
  have ends : Ends isNameChar rest := follows.ends (by decide) (by decide)
  refine ⟨.variable name, ?_, ?_⟩
  · unfold argument? namedVariable?
    rw [List.cons_append]
    simp only [oneOrMore?_run someCharacter isRun ends, Option.map_some, Option.some_or,
      String.ofList_toList]
  · have noMarker : (name.toList ++ []).head? ≠ some '?' :=
      Text.head?_run_ne someCharacter isRun (by decide)
    rw [List.append_nil] at noMarker
    unfold WrittenArgument.resolve Variable.ofText
    simp only [dropMarker_of_unmarked noMarker]

/-- A token without quotes reads as the literal that it denotes. -/
theorem readsAs_bare {token : List Char} (nonempty : token ≠ [])
    (isRun : ∀ c ∈ token, isTokenChar c = true) (noMarker : token.head? ≠ some '?') :
    ReadsAs prefixes token (.literal (.ofToken (String.ofList token))) := by
  intro rest follows
  have ends : Ends isTokenChar rest := follows.ends (by decide) (by decide)
  have noVariable : namedVariable? (token ++ rest) = none := by
    have sameHead : (token ++ rest).head? = token.head? :=
      List.head?_append_of_ne_nil token nonempty
    exact namedVariable?_of_head? (sameHead ▸ noMarker)
  have noQuote : quoted? (token ++ rest) = none :=
    quoted?_of_head? (Text.head?_run_ne nonempty isRun (by decide))
  refine ⟨.bare (String.ofList token), ?_, rfl⟩
  unfold argument? quotedArgument? bareArgument?
  rw [noVariable, noQuote, oneOrMore?_run nonempty isRun ends]
  rfl

/-! ### Literals -/

/-- Whether a literal can be written: its datatype can, if it has one. -/
def isWritableLiteral (prefixes : Prefixes) (literal : Literal) : Bool :=
  match literal.kind with
  | .typed datatype => isWritableDatatype prefixes datatype
  | _ => true

/-- Whether an argument can be written. -/
def isWritableArgument (prefixes : Prefixes) : Argument → Bool
  | .variable value => value.name != "" && isLocalName value.name
  | .literal value => isWritableLiteral prefixes value

/-- What is written without quotes holds no mark, and can be taken whole as a token. -/
theorem of_isBare {lexical : List Char} (bare : isBare lexical = true) :
    lexical ≠ [] ∧ lexical.head? ≠ some '?' ∧ ¬ ['^', '^'] <:+: lexical ∧ '@' ∉ lexical ∧
      ∀ c ∈ lexical, isTokenChar c = true := by
  unfold isBare at bare
  simp only [Bool.and_eq_true, Bool.not_eq_true', List.all_eq_true, Option.isSome_eq_false_iff,
    Option.isNone_iff_eq_none, Text.splitFirst?_eq_none_iff] at bare
  obtain ⟨⟨⟨nonempty, noMarker⟩, noCarets⟩, characters⟩ := bare
  refine ⟨by simpa using nonempty, ?_, noCarets, ?_, ?_⟩
  · intro isMarker
    obtain ⟨rest, rfl⟩ := List.head?_eq_some_iff.mp isMarker
    cases noMarker
  · intro member
    obtain ⟨noMark, -⟩ := characters '@' member
    exact absurd noMark (by decide)
  · intro c member
    obtain ⟨-, bareChar⟩ := characters c member
    unfold isBareChar at bareChar
    unfold isTokenChar
    exact ((Bool.and_eq_true _ _).mp bareChar).1

/-- **A plain literal reads back**, with quotes or without. -/
theorem readsAs_plain (lexical : String) :
    ReadsAs prefixes (renderLexical lexical.toList) (.literal (.plain lexical)) := by
  unfold renderLexical
  split
  · rename_i bare
    obtain ⟨nonempty, noMarker, noCarets, noMark, isRun⟩ := of_isBare bare
    have faithful : (Literal.plain lexical).HasFaithfulToken := by
      refine ⟨Or.inl noCarets, ?_⟩
      rintro before tag same
      refine absurd ?_ noMark
      rw [show lexical = before ++ "@" ++ tag from same]
      simp
    have readsAs : ReadsAs prefixes lexical.toList _ := readsAs_bare nonempty isRun noMarker
    rw [String.ofList_toList] at readsAs
    rwa [← Literal.ofToken_token_iff.mpr faithful]
  · intro rest follows
    refine ⟨.quoted lexical none, ?_, rfl⟩
    rw [argument?_quote_of_follows _ follows, String.ofList_toList]

/-- Letters, digits and hyphens can stand in a token without quotes. -/
theorem isTokenChar_of_isTagChar {c : Char} (isTag : isTagChar c = true) :
    isTokenChar c = true := by
  have noDelimiter : isDelimiter c = false := by
    unfold isDelimiter
    simp only [Bool.or_eq_false_iff, beq_eq_false_iff_ne]
    refine ⟨⟨⟨?_, ?_⟩, ?_⟩, ?_⟩ <;> rintro rfl <;> exact absurd isTag (by decide)
  have noBlank : Text.isBlank c = false := by
    unfold isTagChar Char.isAlphanum Char.isAlpha Char.isUpper Char.isLower Char.isDigit at isTag
    simp only [Bool.or_eq_true, Bool.and_eq_true, decide_eq_true_eq, beq_iff_eq,
      UInt32.le_iff_toNat_le, ge_iff_le] at isTag
    change (((65 ≤ c.toNat ∧ c.toNat ≤ 90) ∨ (97 ≤ c.toNat ∧ c.toNat ≤ 122)) ∨
      (48 ≤ c.toNat ∧ c.toNat ≤ 57)) ∨ c = '-' at isTag
    refine Text.isBlank_of_visible ?_
    rcases isTag with inRanges | rfl
    · omega
    · decide
  unfold isTokenChar
  rw [noBlank, noDelimiter]
  rfl

/-- **A language literal reads back**, whatever its tag is. -/
theorem readsAs_language (lexical tag : String) :
    ReadsAs prefixes (renderLiteral prefixes (.language lexical tag))
      (.literal (.language lexical tag)) := by
  show ReadsAs prefixes (if Literal.isLanguageTag tag
    then renderLexical lexical.toList ++ '@' :: tag.toList
    else quote lexical.toList ++ '@' :: quote tag.toList) _
  split
  · rename_i proper
    unfold renderLexical
    split
    · rename_i bare
      obtain ⟨nonempty, noMarker, noCarets, -, isRun⟩ := of_isBare bare
      have faithful : (Literal.language lexical tag).HasFaithfulToken := ⟨proper, noCarets⟩
      have characters : (Literal.language lexical tag).token.toList =
          lexical.toList ++ '@' :: tag.toList := by simp [Literal.token, Literal.language]
      have isTokenRun : ∀ c ∈ lexical.toList ++ '@' :: tag.toList, isTokenChar c = true := by
        intro c member
        rcases List.mem_append.mp member with inLexical | inTail
        · exact isRun c inLexical
        · rcases List.mem_cons.mp inTail with rfl | inTag
          · decide
          · exact isTokenChar_of_isTagChar (isTagChar_of_isLanguageTag proper inTag)
      have noTokenMarker : (lexical.toList ++ '@' :: tag.toList).head? ≠ some '?' := by
        rwa [List.head?_append_of_ne_nil _ nonempty]
      have readsAs : ReadsAs prefixes (lexical.toList ++ '@' :: tag.toList) _ :=
        readsAs_bare (by simp) isTokenRun noTokenMarker
      rw [← characters, String.ofList_toList, Literal.ofToken_token_iff.mpr faithful] at readsAs
      rwa [← characters]
    · intro rest follows
      refine ⟨.quoted lexical (some (.language tag)), ?_, rfl⟩
      rw [List.append_assoc, List.cons_append,
        argument?_quote_of_suffix _ (suffix?_tag proper follows), String.ofList_toList]
  · intro rest follows
    refine ⟨.quoted lexical (some (.language tag)), ?_, rfl⟩
    rw [List.append_assoc, List.cons_append,
      argument?_quote_of_suffix _ (suffix?_quotedTag tag rest), String.ofList_toList]

/-- **A typed literal reads back** when its datatype can be written. -/
theorem readsAs_typed {datatype : String} (lexical : String) (readable : HasReadableKeys prefixes)
    (writable : isWritableDatatype prefixes datatype = true) :
    ReadsAs prefixes (renderLiteral prefixes (.typed lexical datatype))
      (.literal (.typed lexical datatype)) := by
  intro rest follows
  obtain ⟨name, read, resolves⟩ := suffix?_datatype readable writable follows
  refine ⟨.quoted lexical (some (.datatype name)), ?_, ?_⟩
  · show argument? ((quote lexical.toList ++
      '^' :: '^' :: (Prefixes.renderDatatype prefixes datatype).toList) ++ rest) = _
    rw [List.append_assoc, List.cons_append, List.cons_append, argument?_quote_of_suffix _ read,
      String.ofList_toList]
  · unfold WrittenArgument.resolve
    simp only [resolves]
    rfl

/-- **Every argument that can be written reads back.** -/
theorem readsAs_renderArgument {argument : Argument} (readable : HasReadableKeys prefixes)
    (writable : isWritableArgument prefixes argument = true) :
    ReadsAs prefixes (renderArgument prefixes argument) argument := by
  cases argument with
  | «variable» value =>
    obtain ⟨nonempty, isName⟩ := (Bool.and_eq_true _ _).mp writable
    exact readsAs_variable (bne_iff_ne.mp nonempty) isName
  | literal value =>
    obtain ⟨lexical, kind⟩ := value
    cases kind with
    | plain => exact readsAs_plain lexical
    | language tag => exact readsAs_language lexical tag
    | typed datatype => exact readsAs_typed lexical readable writable

end Arguments

end RuleAtoms.AtomText
