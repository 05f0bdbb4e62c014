/-
**Results and the literals made of them.**

A result that is made into a literal is then held against it, in the kind of the literal. A text
agrees with the literal made of it, and so does a number that takes the datatype of a template. A
number without such a template gets a datatype of its own, and its shortest text; for a double this
is not the text of the datatype if the value is whole, since that one shows a decimal place.

* `NumericType.isSome_read?_of_render?`: what a numeric datatype writes denotes a number;
* `Literal.agreesWithNumber_of_withNumber?`: so a number agrees with its literal in a numeric
  datatype;
* `Outcome.agreesWithNumber_defaultNumber_double_iff`: where a double agrees with its literal
  without one;
* `Outcome.toLiteral_number_cases`: when a number is made into a literal after a template;
* `Outcome.agrees_toLiteral_iff`: where a result agrees with the literal made of it.
-/

import RuleAtoms.Predicate.Arithmetic
import RuleAtoms.Proofs.Number.DoubleText

namespace RuleAtoms

variable {number : Number}

namespace NumericType

variable {type : NumericType} {text : List Char}

/-- **What a numeric datatype writes denotes a number.** -/
theorem isSome_read?_of_render? (rendered : type.render? number = some text) :
    (Number.read? text).isSome = true := by
  unfold render? at rendered
  split at rendered
  · obtain ⟨value, -, bounded⟩ := Option.bind_eq_some_iff.mp rendered
    dsimp only at bounded
    split at bounded
    · cases bounded
      rw [Number.read?_intText]
      rfl
    · cases bounded
  · dsimp only at rendered
    split at rendered <;> cases rendered
    · rename_i isWhole
      exact Double.isSome_read?_wholeText isWhole
    · exact Double.isSome_read?_text _

end NumericType

namespace Literal

variable {template literal : Literal}

/-- A template holds a number when it is of a numeric datatype that writes the number. -/
def Holds (template : Literal) (number : Number) : Prop :=
  template.isNumeric = true ∧ (template.withNumber? number).isSome = true

/-- **A number agrees with its literal in a numeric datatype.** -/
theorem agreesWithNumber_of_withNumber? (numeric : template.isNumeric = true)
    (made : template.withNumber? number = some literal) :
    literal.agreesWithNumber number = true := by
  obtain ⟨lexical, isLexical, rfl⟩ := Option.map_eq_some_iff.mp made
  obtain ⟨type, isType⟩ := Option.isSome_iff_exists.mp numeric
  have reads : (Number.read? lexical.toList).isSome = true := by
    unfold renderNumber? at isLexical
    rw [isType] at isLexical
    obtain ⟨text, rendered, rfl⟩ := Option.map_eq_some_iff.mp isLexical
    rw [String.toList_ofList]
    exact NumericType.isSome_read?_of_render? rendered
  unfold agreesWithNumber
  rw [Bool.and_eq_true, beq_iff_eq]
  exact ⟨reads, made⟩

end Literal

namespace Outcome

/-! ### Numbers without a template -/

theorem withNumber?_defaultNumber_whole (value : Whole) :
    (defaultNumber (.whole value)).withNumber? (.whole value) =
      some (defaultNumber (.whole value)) := by
  have isType : (defaultNumber (.whole value)).numericType? = some .integer := by
    change NumericType.ofDatatype? (Vocabulary.xsd ++ "integer") = some .integer
    decide
  have rendered : NumericType.integer.render? (.whole value) = some (Number.intText value.toInt) :=
    (NumericType.render?_whole_eq_some_iff rfl).mpr ⟨NumericType.holds_integer value, rfl⟩
  unfold Literal.withNumber? Literal.renderNumber?
  simp only [isType, rendered]
  rfl

/-- A whole number without a template agrees with its literal. -/
theorem agreesWithNumber_defaultNumber_whole (value : Whole) :
    (defaultNumber (.whole value)).agreesWithNumber (.whole value) = true := by
  refine Literal.agreesWithNumber_of_withNumber? ?_ (withNumber?_defaultNumber_whole value)
  change (NumericType.ofDatatype? (Vocabulary.xsd ++ "integer")).isSome = true
  decide

variable {double : Double}

/-- The text of the datatype that a double takes without a template. -/
theorem renderNumber?_defaultNumber_double (double : Double) :
    (defaultNumber (.double double)).renderNumber? (.double double) =
      some (String.ofList (if double.isWhole then double.wholeText else double.text)) := by
  have isType : (defaultNumber (.double double)).numericType? = some .double := by
    change NumericType.ofDatatype? (Vocabulary.xsd ++ "double") = some .double
    decide
  unfold Literal.renderNumber?
  simp only [isType]
  rfl

/-- **A double without a template agrees with its literal unless its value is whole.** -/
theorem agreesWithNumber_defaultNumber_double_iff :
    (defaultNumber (.double double)).agreesWithNumber (.double double) = true ↔
      double.isWhole = false := by
  have reads : (defaultNumber (.double double)).number?.isSome = true := by
    change (Number.read? (String.ofList double.text).toList).isSome = true
    rw [String.toList_ofList]
    exact double.isSome_read?_text
  have sameText : (defaultNumber (.double double)).withNumber? (.double double) =
      some (defaultNumber (.double double)) ↔
        (if double.isWhole then double.wholeText else double.text) = double.text := by
    unfold Literal.withNumber?
    rw [renderNumber?_defaultNumber_double, Option.map_some, Option.some.injEq]
    constructor
    · intro same
      exact String.ofList_inj.mp (congrArg Literal.lexical same)
    · intro same
      rw [same]
      rfl
  unfold Literal.agreesWithNumber
  rw [reads, Bool.true_and, beq_iff_eq, sameText]
  cases isWhole : double.isWhole with
  | true =>
    rw [if_pos rfl]
    exact iff_of_false (Double.text_ne_wholeText isWhole).symm Bool.noConfusion
  | false => exact iff_of_true rfl rfl

/-! ### All results -/

/-- A number is made into a literal of the template's datatype, if the template holds it, and else
into one without a template. -/
theorem toLiteral_number_cases (value : Number) (template? : Option Literal) :
    (∃ template ∈ template?, template.isNumeric = true ∧
        template.withNumber? value = some (toLiteral (.number value) template?)) ∨
      (¬ ∃ template ∈ template?, template.Holds value) ∧
        toLiteral (.number value) template? = defaultNumber value := by
  have isLiteral : toLiteral (.number value) template? =
      ((template?.filter (·.isNumeric)).bind (·.withNumber? value)).getD (defaultNumber value) :=
    rfl
  rw [isLiteral]
  cases made : (template?.filter (·.isNumeric)).bind (·.withNumber? value) with
  | some literal =>
    obtain ⟨template, isTemplate, holds⟩ := Option.bind_eq_some_iff.mp made
    obtain ⟨member, numeric⟩ := Option.filter_eq_some_iff.mp isTemplate
    exact .inl ⟨template, member, numeric, holds⟩
  | none =>
    refine .inr ⟨?_, rfl⟩
    rintro ⟨template, member, numeric, holds⟩
    have isTemplate : template?.filter (·.isNumeric) = some template :=
      Option.filter_eq_some_iff.mpr ⟨member, numeric⟩
    rw [isTemplate, Option.bind_some] at made
    rw [made] at holds
    cases holds

/-- **Where a result agrees with the literal made of it.** It does, unless it is a double of whole
value and there is no template that holds it. -/
theorem agrees_toLiteral_iff (outcome : Outcome) (template? : Option Literal) :
    outcome.agrees (outcome.toLiteral template?) = true ↔
      ∀ double, outcome = .number (.double double) → double.isWhole = true →
        ∃ template ∈ template?, template.Holds (.double double) := by
  cases outcome with
  | text value =>
    refine iff_of_true ?_ fun double same => nomatch same
    cases template? <;> exact beq_self_eq_true _
  | number value =>
    rcases toLiteral_number_cases value template? with
      ⟨template, member, numeric, made⟩ | ⟨noneHolds, isDefault⟩
    · refine iff_of_true (Literal.agreesWithNumber_of_withNumber? numeric made) ?_
      rintro double same -
      cases same
      exact ⟨template, member, numeric, Option.isSome_of_eq_some made⟩
    · rw [isDefault]
      cases value with
      | whole value =>
        exact iff_of_true (agreesWithNumber_defaultNumber_whole value)
          fun double same => nomatch same
      | double double =>
        refine agreesWithNumber_defaultNumber_double_iff.trans ⟨?_, ?_⟩
        · intro notWhole other same isWhole
          cases same
          cases notWhole.symm.trans isWhole
        · intro held
          rw [Bool.eq_false_iff]
          exact fun isWhole => noneHolds (held double rfl isWhole)

/-- The product of 2.5 and 2 is made into a literal that it does not agree with. -/
theorem not_agrees_product_five :
    let five : Outcome := .number (.double (.ofWhole ⟨5, by decide, by decide⟩))
    let operands : List Literal := [.plain "2.5", .plain "2"]
    (Arithmetic.product? operands).map Outcome.number = some five ∧
      five.toLiteral operands.head? = .typed "5" (Vocabulary.xsd ++ "double") ∧
      five.agrees (five.toLiteral operands.head?) = false := by
  decide +kernel

end Outcome

end RuleAtoms
