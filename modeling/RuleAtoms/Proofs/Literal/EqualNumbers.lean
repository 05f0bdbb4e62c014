/-
**Which equal numbers a literal treats alike.**

A number agrees with a literal whose lexical form is the canonical text of the number in the kind of
the literal. So the literals of a kind treat two numbers alike when the kind writes them alike. Numbers
that compare as equal are not always written alike: an integral datatype writes the exact value, the
other numeric datatypes and the kinds without one write the sign of a zero, and the latter show a value
that beyond `2 ^ 53` may differ.

* `NumericType.render?_eq_iff`: which equal numbers a numeric datatype writes alike;
* `agreesWithNumber_iff`: agreeing is being written as the lexical form;
* `agreesWithNumber_eq_iff_writesAlike`: **which equal numbers the literals of a kind treat alike**,
  and that these are all of them up to `2 ^ 53`, but for the two zeros.
-/

import Mathlib.Tactic.NormNum.Pow
import RuleAtoms.Proofs.Number.EqualText
import RuleAtoms.Proofs.Number.IntegralText
import RuleAtoms.Proofs.Predicate.ProducedLiterals

namespace RuleAtoms

variable {number first second : Number}

namespace NumericType

variable {type : NumericType}

/-- Whether a numeric datatype writes equal numbers alike. An integral one writes the integers within
its bounds that are whole numbers; to any other one only the sign of a zero makes a difference. -/
def WritesAlike (type : NumericType) (first second : Number) : Prop :=
  if type.isIntegral then
    ∀ whole : Whole, type.Holds whole.toInt →
      (first.toRat = whole.toInt ↔ second.toRat = whole.toInt)
  else first.SameZeroSign second

theorem render?_eq_intText_iff (integral : type.isIntegral = true) {whole : Whole}
    (holds : type.Holds whole.toInt) :
    type.render? number = some (Number.intText whole.toInt) ↔ number.toRat = whole.toInt := by
  rw [render?_eq_some_iff_whole integral]
  constructor
  · rintro ⟨other, isValue, -, sameText⟩
    rw [Number.intText_inj.mp sameText]
    exact isValue
  · intro isValue
    exact ⟨whole, isValue, holds, rfl⟩

theorem render?_eq_iff_of_integral (integral : type.isIntegral = true) :
    type.render? first = type.render? second ↔
      ∀ whole : Whole, type.Holds whole.toInt →
        (first.toRat = whole.toInt ↔ second.toRat = whole.toInt) := by
  constructor
  · intro alike whole holds
    rw [← render?_eq_intText_iff integral holds, ← render?_eq_intText_iff integral holds, alike]
  · intro values
    refine Option.ext fun text => ?_
    rw [render?_eq_some_iff_whole integral, render?_eq_some_iff_whole integral]
    exact exists_congr fun whole => and_congr_left fun written => values whole written.1

/-- The text of a double in a datatype that is not integral. -/
def decimalText (double : Double) : List Char :=
  if double.isWhole then double.wholeText else double.text

theorem render?_of_not_integral (notIntegral : ¬ type.isIntegral = true) (number : Number) :
    type.render? number = some (decimalText number.toDouble) := if_neg notIntegral

theorem render?_eq_iff_of_not_integral (notIntegral : ¬ type.isIntegral = true)
    (same : first.compare second = .eq) :
    type.render? first = type.render? second ↔ first.SameZeroSign second := by
  rw [render?_of_not_integral notIntegral, render?_of_not_integral notIntegral,
    Option.some.injEq, ← Number.toDouble_eq_iff_of_compare same]
  refine ⟨fun sameText => ?_, congrArg decimalText⟩
  have different : decimalText .zero ≠ decimalText .negativeZero := by decide +kernel
  rcases Number.toDouble_eq_or_zeros same with alike | ⟨isZero, isNegative⟩ | ⟨isNegative, isZero⟩
  · exact alike
  · rw [isZero, isNegative] at sameText
    exact absurd sameText different
  · rw [isZero, isNegative] at sameText
    exact absurd sameText.symm different

/-- **Which equal numbers a numeric datatype writes alike.** -/
theorem render?_eq_iff (same : first.compare second = .eq) :
    type.render? first = type.render? second ↔ type.WritesAlike first second := by
  unfold WritesAlike
  split
  · rename_i integral
    exact render?_eq_iff_of_integral integral
  · rename_i notIntegral
    exact render?_eq_iff_of_not_integral notIntegral same

/-- Equal numbers of the same exact value, and not two different zeros, are written alike. -/
theorem writesAlike_of_toRat_eq (values : first.toRat = second.toRat)
    (signs : first.SameZeroSign second) : type.WritesAlike first second := by
  unfold WritesAlike
  split
  · intro whole _
    rw [values]
  · exact signs

end NumericType

namespace Literal

/-- Whether a kind writes equal numbers alike. Without a numeric datatype it writes the shortest
text. -/
def Kind.WritesAlike (kind : Kind) (first second : Number) : Prop :=
  match kind.numericType? with
  | some type => type.WritesAlike first second
  | none => first.SameZeroSign second ∧ first.shown = second.shown

variable {literal : Literal}

/-- What a literal writes for a number denotes one. -/
theorem isSome_read?_of_renderNumber? {lexical : String}
    (rendered : literal.renderNumber? number = some lexical) :
    (Number.read? lexical.toList).isSome = true := by
  obtain ⟨text, isText, rfl⟩ := Option.map_eq_some_iff.mp rendered
  rw [String.toList_ofList]
  cases isType : literal.numericType? with
  | some type =>
    rw [isType] at isText
    exact NumericType.isSome_read?_of_render? isText
  | none =>
    rw [isType] at isText
    obtain rfl := Option.some.inj isText
    cases number with
    | whole value =>
      show (Number.read? (Number.intText value.toInt)).isSome = true
      rw [Number.read?_intText]
      rfl
    | double double => exact Double.isSome_read?_text double

/-- **A number agrees with a literal** that has the text of the number in its kind. -/
theorem agreesWithNumber_iff :
    literal.agreesWithNumber number = true ↔ literal.renderNumber? number = some literal.lexical := by
  obtain ⟨lexical, kind⟩ := literal
  unfold agreesWithNumber withNumber?
  rw [Bool.and_eq_true, beq_iff_eq, Option.map_eq_some_iff]
  constructor
  · rintro ⟨-, other, rendered, same⟩
    obtain rfl : other = lexical := congrArg Literal.lexical same
    exact rendered
  · intro rendered
    exact ⟨isSome_read?_of_renderNumber? rendered, lexical, rendered, rfl⟩

theorem renderNumber?_eq_iff (same : first.compare second = .eq) :
    literal.renderNumber? first = literal.renderNumber? second ↔
      literal.kind.WritesAlike first second := by
  have injective : Function.Injective String.ofList := fun _ _ => String.ofList_injective
  unfold renderNumber? Kind.WritesAlike
  rw [(Option.map_injective injective).eq_iff]
  show _ ↔ match literal.numericType? with | some type => _ | none => _
  cases literal.numericType? with
  | some type => exact NumericType.render?_eq_iff same
  | none =>
    dsimp only
    rw [Option.some.injEq]
    exact Number.text_eq_iff_of_compare same

theorem renderNumber?_of_kind {other : Literal} (sameKind : other.kind = literal.kind) :
    other.renderNumber? number = literal.renderNumber? number := by
  unfold renderNumber? numericType?
  rw [sameKind]

/-- The literals of a kind treat two numbers alike when the kind has the same text for both. -/
theorem forall_agreesWithNumber_eq_iff :
    (∀ other : Literal, other.kind = literal.kind →
        other.agreesWithNumber first = other.agreesWithNumber second) ↔
      literal.renderNumber? first = literal.renderNumber? second := by
  constructor
  · intro alike
    refine Option.ext fun lexical => ?_
    have agree := alike ⟨lexical, literal.kind⟩ rfl
    rw [Bool.eq_iff_iff, agreesWithNumber_iff, agreesWithNumber_iff] at agree
    exact agree
  · intro rendered other sameKind
    rw [Bool.eq_iff_iff, agreesWithNumber_iff, agreesWithNumber_iff,
      renderNumber?_of_kind sameKind, renderNumber?_of_kind sameKind, rendered]

/-- **Which equal numbers the literals of a kind treat alike**: those that the kind writes alike. Up to
`2 ^ 53` these are all, but for zeros of different signs. -/
theorem agreesWithNumber_eq_iff_writesAlike (kind : Kind) (same : first.same second = true) :
    ((∀ literal : Literal, literal.kind = kind →
        literal.agreesWithNumber first = literal.agreesWithNumber second) ↔
      kind.WritesAlike first second) ∧
    (|first.toRat| ≤ 2 ^ 53 → |second.toRat| ≤ 2 ^ 53 → first.SameZeroSign second →
      kind.WritesAlike first second) := by
  have equal : first.compare second = .eq := beq_iff_eq.mp same
  constructor
  · let template : Literal := ⟨"", kind⟩
    show (∀ literal : Literal, literal.kind = template.kind → _) ↔
      template.kind.WritesAlike first second
    rw [forall_agreesWithNumber_eq_iff]
    exact renderNumber?_eq_iff equal
  · intro smallFirst smallSecond signs
    unfold Kind.WritesAlike
    split
    · have values := Number.toRat_eq_of_compare equal smallFirst smallSecond
      exact NumericType.writesAlike_of_toRat_eq values signs
    · exact ⟨signs, Number.shown_eq_of_compare equal smallFirst smallSecond signs⟩

/-- Minus one, as a whole number and as a double, is the same to the literals of every kind. A plain
literal, one with an integral datatype and one with decimal places agree with both. -/
theorem agreesWithNumber_minusOne :
    let whole := Number.whole .minusOne
    let double := Number.double (.ofWhole .minusOne)
    whole.same double = true ∧ |whole.toRat| ≤ 2 ^ 53 ∧ |double.toRat| ≤ 2 ^ 53 ∧
      whole.SameZeroSign double ∧
      (∀ kind : Kind, kind.WritesAlike whole double ∧ ∀ literal : Literal, literal.kind = kind →
        literal.agreesWithNumber whole = literal.agreesWithNumber double) ∧
      ∀ literal ∈ [plain "-1", typed "-1" (Vocabulary.xsd ++ "integer"),
          typed "-1.0" (Vocabulary.xsd ++ "double")],
        literal.agreesWithNumber whole = true ∧ literal.agreesWithNumber double = true := by
  intro whole double
  have same : whole.same double = true := by decide +kernel
  have asWhole : whole.toRat = -1 := by simp [whole, Number.toRat, Whole.minusOne, Whole.ofFits]
  have asDouble : double.toRat = (-1 : Int) := Double.toRat_eq_intCast_iff.mpr (by decide +kernel)
  have smallWhole : |whole.toRat| ≤ 2 ^ 53 := by
    rw [asWhole]
    norm_num
  have smallDouble : |double.toRat| ≤ 2 ^ 53 := by
    rw [asDouble]
    norm_num
  have signs : whole.SameZeroSign double := iff_of_false (by decide) (by decide +kernel)
  have alike : ∀ kind : Kind, kind.WritesAlike whole double ∧
      ∀ literal : Literal, literal.kind = kind →
        literal.agreesWithNumber whole = literal.agreesWithNumber double := by
    intro kind
    obtain ⟨iff, small⟩ := agreesWithNumber_eq_iff_writesAlike kind same
    have writes := small smallWhole smallDouble signs
    exact ⟨writes, iff.mpr writes⟩
  have agreesWhole : ∀ literal ∈ [plain "-1", typed "-1" (Vocabulary.xsd ++ "integer"),
      typed "-1.0" (Vocabulary.xsd ++ "double")], literal.agreesWithNumber whole = true := by
    decide +kernel
  refine ⟨same, smallWhole, smallDouble, signs, alike, fun literal member => ?_⟩
  have agrees := agreesWhole literal member
  exact ⟨agrees, (alike literal.kind).2 literal rfl ▸ agrees⟩

/-- A literal agrees with one of two equal numbers and not with the other. -/
def TellsApart (literal : Literal) (first second : Number) : Prop :=
  first.same second = true ∧ literal.agreesWithNumber first = true ∧
    literal.agreesWithNumber second = false

instance (literal : Literal) (first second : Number) :
    Decidable (literal.TellsApart first second) := inferInstanceAs (Decidable (_ ∧ _ ∧ _))

/-- A plain literal tells the two zeros apart, and `2 ^ 60` from the double of the same value, whose
shortest text has other digits; an `xsd:integer` tells the integer after `2 ^ 53` from the double that
it is rounded to. -/
theorem tellsApart_zero_twoPow60_twoPow53 :
    let large : Whole := ⟨1152921504606846976, by decide, by decide⟩
    let rounded : Whole := ⟨9007199254740993, by decide, by decide⟩
    (plain "0").TellsApart (.whole .zero) (.double .negativeZero) ∧
      (plain "1152921504606846976").TellsApart (.whole large) (.double (.ofWhole large)) ∧
      (typed "9007199254740993" (Vocabulary.xsd ++ "integer")).TellsApart (.whole rounded)
        (.double (.ofWhole rounded)) := by
  decide +kernel

end Literal

end RuleAtoms
