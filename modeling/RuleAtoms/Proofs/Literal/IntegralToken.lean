/-
**Tokens of whole numbers.**

A token of a whole number is a text that denotes it and a spelling of an integral datatype. The text
may have blanks, a plus sign or leading zeros; it is canonical when it is the one that the datatype
itself writes.

* `CanonicalToken.agrees_iff`: a computed whole number agrees with a canonical token exactly when it
  is the one of the token;
* `canonicalToken_toLiteral`: what is written for a computed whole number is a canonical token, in
  the datatype of the first operand when its bounds admit the number, else as an `xsd:integer`.
-/

import RuleAtoms.Predicate.Outcome
import RuleAtoms.Proofs.Literal.TokenRoundTrip
import RuleAtoms.Proofs.Number.WholeText

namespace RuleAtoms

/-- A spelling of an integral datatype that can stand in a token. -/
structure NumericType.IsSpelling (type : NumericType) (datatype : String) : Prop where
  integral : type.isIntegral = true
  denotes : NumericType.ofDatatype? datatype = some type
  noMark : '^' ∉ datatype.toList

instance (type : NumericType) (datatype : String) : Decidable (type.IsSpelling datatype) :=
  decidable_of_iff (type.isIntegral = true ∧ NumericType.ofDatatype? datatype = some type ∧
    '^' ∉ datatype.toList)
    ⟨fun ⟨integral, denotes, noMark⟩ => ⟨integral, denotes, noMark⟩,
      fun spelling => ⟨spelling.integral, spelling.denotes, spelling.noMark⟩⟩

namespace Literal

/-- A token of a whole number: any text that denotes it, with an integral datatype. -/
inductive WholeToken (value : Whole) : String → Prop
  | intro (lexical datatype : String) (type : NumericType) (spelling : type.IsSpelling datatype)
      (denotes : Number.read? lexical.toList = some (.whole value)) :
      WholeToken value (lexical ++ "^^" ++ datatype)

/-- The token that an integral datatype writes for a whole number within its bounds. -/
inductive CanonicalToken (value : Whole) : String → Prop
  | intro (datatype : String) (type : NumericType) (spelling : type.IsSpelling datatype)
      (holds : type.Holds value.toInt) :
      CanonicalToken value (String.ofList (Number.intText value.toInt) ++ "^^" ++ datatype)

section Spelling

variable {type : NumericType} {datatype : String} {value other : Whole} {token : String}

/-- **A token with an integral datatype** reads as its lexical form and its datatype. -/
theorem ofToken_of_spelling (spelling : type.IsSpelling datatype) (lexical : String) :
    ofToken (lexical ++ "^^" ++ datatype) = typed lexical datatype := by
  have nonempty : datatype ≠ "" := by
    rintro rfl
    exact nomatch (rfl : NumericType.ofDatatype? "" = none).symm.trans spelling.denotes
  have noOverlap : datatype.toList.head? ≠ some '^' :=
    fun isFirst => spelling.noMark (List.mem_of_mem_head? isFirst)
  have noMark : ¬ ['^', '^'] <:+: datatype.toList :=
    fun occurs => spelling.noMark (occurs.subset List.mem_cons_self)
  rw [ofToken_eq_typed_iff, splitTyped?_eq_some_iff]
  exact ⟨rfl, nonempty, caret_cons_iff.mpr ⟨noOverlap, noMark⟩⟩

theorem WholeToken.number? (isToken : WholeToken value token) :
    (ofToken token).number? = some (.whole value) := by
  cases isToken with
  | intro lexical datatype type spelling denotes =>
    rw [ofToken_of_spelling spelling]
    exact denotes

theorem CanonicalToken.wholeToken (isToken : CanonicalToken value token) :
    WholeToken value token := by
  cases isToken with
  | intro datatype type spelling holds =>
    refine .intro _ datatype type spelling ?_
    rw [String.toList_ofList, Number.read?_intText]

/-- A literal with an integral datatype holds a whole number within the bounds, and no other. -/
theorem withNumber?_whole_eq_some_iff (spelling : type.IsSpelling datatype) {lexical : String}
    {written : Literal} :
    (typed lexical datatype).withNumber? (.whole value) = some written ↔
      type.Holds value.toInt ∧
        written = typed (String.ofList (Number.intText value.toInt)) datatype := by
  have isType : (typed lexical datatype).numericType? = some type := spelling.denotes
  unfold withNumber? renderNumber?
  rw [isType, Option.map_eq_some_iff]
  constructor
  · rintro ⟨text, rendered, rfl⟩
    obtain ⟨characters, isText, rfl⟩ := Option.map_eq_some_iff.mp rendered
    obtain ⟨holds, rfl⟩ := (NumericType.render?_whole_eq_some_iff spelling.integral).mp isText
    exact ⟨holds, rfl⟩
  · rintro ⟨holds, rfl⟩
    refine ⟨_, ?_, rfl⟩
    simp only [(NumericType.render?_whole_eq_some_iff spelling.integral).mpr ⟨holds, rfl⟩,
      Option.map_some]

/-- **A computed whole number agrees with a canonical token** exactly when it is its number. -/
theorem CanonicalToken.agrees_iff (isToken : CanonicalToken value token) :
    (Outcome.number (.whole other)).agrees (ofToken token) = true ↔ other = value := by
  have isNumber := isToken.wholeToken.number?
  cases isToken with
  | intro datatype type spelling holds =>
    rw [ofToken_of_spelling spelling] at isNumber ⊢
    change agreesWithNumber _ (.whole other) = true ↔ _
    unfold agreesWithNumber
    rw [isNumber, Option.isSome_some, Bool.true_and, beq_iff_eq,
      withNumber?_whole_eq_some_iff spelling]
    constructor
    · rintro ⟨-, same⟩
      obtain ⟨sameText, -⟩ := Literal.mk.inj same
      exact Whole.ext (Number.intText_inj.mp (String.ofList_inj.mp sameText.symm))
    · rintro rfl
      exact ⟨holds, rfl⟩

/-- **What is written for a computed whole number**: its canonical text, in the datatype of the
first operand when the bounds admit it. -/
theorem toLiteral_whole (spelling : type.IsSpelling datatype) (lexical : String) (value : Whole) :
    (Outcome.number (.whole value)).toLiteral (some (typed lexical datatype)) =
      typed (String.ofList (Number.intText value.toInt))
        (if type.Holds value.toInt then datatype else Vocabulary.xsd ++ "integer") := by
  have isNumeric : (typed lexical datatype).isNumeric = true := by
    unfold isNumeric
    rw [show (typed lexical datatype).numericType? = some type from spelling.denotes]
    rfl
  unfold Outcome.toLiteral
  simp only [Option.filter_some, isNumeric, if_true, Option.bind_some]
  by_cases holds : type.Holds value.toInt
  · rw [(withNumber?_whole_eq_some_iff spelling).mpr ⟨holds, rfl⟩, Option.getD_some, if_pos holds]
  · have noLiteral : (typed lexical datatype).withNumber? (.whole value) = none := by
      rw [Option.eq_none_iff_forall_ne_some]
      exact fun written found => holds ((withNumber?_whole_eq_some_iff spelling).mp found).1
    rw [noLiteral, Option.getD_none, if_neg holds]
    rfl

/-- The full name of the integral datatype that holds every whole number. -/
theorem isSpelling_integer : NumericType.integer.IsSpelling (Vocabulary.xsd ++ "integer") := by
  decide

/-- **What is written is a canonical token** of the computed whole number. -/
theorem canonicalToken_toLiteral (spelling : type.IsSpelling datatype) (lexical : String)
    (value : Whole) :
    CanonicalToken value
      ((Outcome.number (.whole value)).toLiteral (some (typed lexical datatype))).token := by
  rw [toLiteral_whole spelling]
  split
  · rename_i holds
    exact .intro datatype type spelling holds
  · exact .intro _ .integer isSpelling_integer (NumericType.holds_integer value)

end Spelling

end Literal

end RuleAtoms
