/-
**A literal that writes integers agrees with one of them at most.**

The canonical text of an integer has no plus sign, no leading zero and no blank (`IsCanonical`), and
it is the only such text of the integer (`eq_intText_iff`). A literal without a numeric datatype, or
with an integral one, agrees with a whole number in this text only, and within the bounds of the
datatype.

* `toDigits_ofDigitChars`: digits without a leading zero are the decimal text of their value;
* `agreesWithNumber_whole_iff`: **which whole numbers a literal agrees with**;
* `agreesWithNumber_canonical`: so what a literal writes for a whole number reads back, and no two
  whole numbers agree with one literal.
-/

import Mathlib.Data.List.Induction
import RuleAtoms.Proofs.Literal.EqualNumbers
import RuleAtoms.Proofs.Number.WholeRange

namespace RuleAtoms

namespace Number

/-! ### Canonical texts -/

/-- Decimal digits without a leading zero, but for zero itself. -/
structure AreProperDigits (digits : List Char) : Prop where
  nonempty : digits ≠ []
  areDigits : ∀ c ∈ digits, c.isDigit = true
  noLeadingZero : digits.head? = some '0' → digits = ['0']

/-- A text is the canonical one of an integer: digits of its magnitude, with a minus sign in front of
them exactly when it is negative. -/
def IsCanonical (text : List Char) (value : Int) : Prop :=
  ∃ digits, AreProperDigits digits ∧ Nat.ofDigitChars 10 digits 0 = value.natAbs ∧
    text = if value < 0 then '-' :: digits else digits

theorem exists_digitChar_of_isDigit {c : Char} (digit : c.isDigit = true) :
    ∃ value < 10, c = value.digitChar := by
  obtain ⟨atLeast, atMost⟩ := Char.isDigit_iff_toNat.mp digit
  change 48 ≤ c.toNat at atLeast
  change c.toNat ≤ 57 at atMost
  refine ⟨c.toNat - 48, by omega, Char.toNat_inj.mp ?_⟩
  rw [Nat.toNat_digitChar_of_lt_ten (by omega)]
  omega

/-- The digits in front of others are proper too. -/
theorem AreProperDigits.front {front : List Char} {last : Char}
    (proper : AreProperDigits (front ++ [last])) (nonempty : front ≠ []) : AreProperDigits front := by
  refine ⟨nonempty, fun c member => proper.areDigits c (List.mem_append_left _ member), ?_⟩
  intro isZero
  have alone := congrArg List.length (proper.noLeadingZero (by rw [List.head?_append, isZero]; rfl))
  rw [List.length_append, List.length_singleton, List.length_singleton] at alone
  exact absurd (List.eq_nil_of_length_eq_zero (by omega)) nonempty

/-- **Digits without a leading zero** are the decimal text of their value. A value of zero in front of
the last digit would have been written, as a leading zero. -/
theorem toDigits_ofDigitChars {digits : List Char} (proper : AreProperDigits digits) :
    Nat.toDigits 10 (Nat.ofDigitChars 10 digits 0) = digits := by
  induction digits using List.reverseRecOn with
  | nil => exact absurd rfl proper.nonempty
  | append_singleton front last ih =>
    have isDigit := proper.areDigits last (List.mem_append_right _ List.mem_cons_self)
    obtain ⟨value, small, rfl⟩ := exists_digitChar_of_isDigit isDigit
    rw [Nat.ofDigitChars_append, Nat.ofDigitChars_cons_digitChar_of_lt_ten small,
      Nat.ofDigitChars_nil]
    cases front with
    | nil =>
      rw [Nat.ofDigitChars_nil, Nat.mul_zero, Nat.zero_add, List.nil_append]
      exact Nat.toDigits_of_lt_base small
    | cons c others =>
      have before := ih (proper.front (List.cons_ne_nil c others))
      have positive : 0 < Nat.ofDigitChars 10 (c :: others) 0 := by
        refine Nat.pos_of_ne_zero fun isZero => ?_
        rw [isZero, Nat.toDigits_zero] at before
        rw [← before] at proper
        exact absurd (proper.noLeadingZero rfl) (by simp)
      rw [← Nat.toDigits_append_toDigits (by decide) positive small, before,
        Nat.toDigits_of_lt_base small]

theorem areProperDigits_toDigits (magnitude : Nat) : AreProperDigits (Nat.toDigits 10 magnitude) := by
  refine ⟨Nat.toDigits_ne_nil,
    fun c => Nat.isDigit_of_mem_toDigits (by decide) (by decide), ?_⟩
  induction magnitude using Nat.base_induction 10 (by decide) with
  | single value small =>
    rw [Nat.toDigits_of_lt_base small]
    intro isZero
    rw [Option.some.inj isZero]
  | digit value front small positive ih =>
    rw [← Nat.toDigits_append_toDigits (by decide) positive small,
      List.head?_append, List.head?_eq_some_head Nat.toDigits_ne_nil, Option.some_or,
      ← List.head?_eq_some_head]
    intro isZero
    have same := congrArg (Nat.ofDigitChars 10 · 0) (ih isZero)
    rw [Nat.ofDigitChars_ten_toDigits] at same
    exact absurd same positive.ne'

/-- **The canonical text of an integer** is the only one without a plus sign, a leading zero or a
blank. -/
theorem eq_intText_iff {text : List Char} {value : Int} :
    text = intText value ↔ IsCanonical text value := by
  unfold intText
  constructor
  · rintro rfl
    exact ⟨_, areProperDigits_toDigits value.natAbs, Nat.ofDigitChars_ten_toDigits, rfl⟩
  · rintro ⟨digits, proper, isMagnitude, rfl⟩
    rw [← isMagnitude, toDigits_ofDigitChars proper]

end Number

namespace Literal

variable {literal written : Literal} {value first second : Whole}

/-! ### Agreement -/

/-- A literal whose kind has the canonical texts of integers: it has an integral datatype, or none that
is numeric. -/
def WritesIntegers (literal : Literal) : Prop :=
  ∀ type, literal.numericType? = some type → type.isIntegral = true

theorem renderNumber?_whole_eq_some_iff (writes : literal.WritesIntegers) {lexical : String} :
    literal.renderNumber? (.whole value) = some lexical ↔
      lexical.toList = Number.intText value.toInt ∧
        ∀ type, literal.numericType? = some type → type.Holds value.toInt := by
  have asList (text : List Char) : String.ofList text = lexical ↔ lexical.toList = text := by
    rw [← String.toList_inj, String.toList_ofList, eq_comm]
  unfold renderNumber?
  rw [Option.map_eq_some_iff]
  simp only [asList]
  cases isType : literal.numericType? with
  | none =>
    simp [Number.text, eq_comm]
  | some type =>
    have integral := writes type isType
    simp only [NumericType.render?_whole_eq_some_iff integral, Option.some.injEq, forall_eq']
    constructor
    · rintro ⟨text, ⟨holds, isText⟩, same⟩
      exact ⟨same.trans isText, holds⟩
    · rintro ⟨same, holds⟩
      exact ⟨_, ⟨holds, rfl⟩, same⟩

/-- **Which whole numbers a literal agrees with**: those whose canonical text it has, within the bounds
of its datatype. -/
theorem agreesWithNumber_whole_iff (writes : literal.WritesIntegers) :
    literal.agreesWithNumber (.whole value) = true ↔
      Number.IsCanonical literal.lexical.toList value.toInt ∧
        ∀ type, literal.numericType? = some type → type.Holds value.toInt := by
  rw [agreesWithNumber_iff, renderNumber?_whole_eq_some_iff writes, Number.eq_intText_iff]

/-- **A literal that writes integers agrees with one of them at most.** It agrees with those whose
canonical text it has and that its datatype admits; what it writes for a whole number agrees with this
number and denotes it; and no such literal agrees with two whole numbers. -/
theorem agreesWithNumber_canonical (writes : literal.WritesIntegers) :
    (∀ value : Whole, literal.agreesWithNumber (.whole value) = true ↔
      Number.IsCanonical literal.lexical.toList value.toInt ∧
        ∀ type, literal.numericType? = some type → type.Holds value.toInt) ∧
    (∀ (value : Whole) (written : Literal), literal.withNumber? (.whole value) = some written →
      written.agreesWithNumber (.whole value) = true ∧ written.number? = some (.whole value)) ∧
    ∀ first second : Whole, literal.agreesWithNumber (.whole first) = true →
      literal.agreesWithNumber (.whole second) = true → first = second := by
  refine ⟨fun value => agreesWithNumber_whole_iff writes, ?_, ?_⟩
  · intro value written found
    obtain ⟨lexical, rendered, rfl⟩ := Option.map_eq_some_iff.mp found
    obtain ⟨isText, -⟩ := (renderNumber?_whole_eq_some_iff writes).mp rendered
    refine ⟨agreesWithNumber_iff.mpr ((renderNumber?_of_kind rfl).trans rendered), ?_⟩
    unfold number?
    rw [isText, Number.read?_intText]
  · intro first second agreesFirst agreesSecond
    obtain ⟨canonicalFirst, -⟩ := (agreesWithNumber_whole_iff writes).mp agreesFirst
    obtain ⟨canonicalSecond, -⟩ := (agreesWithNumber_whole_iff writes).mp agreesSecond
    rw [← Number.eq_intText_iff] at canonicalFirst canonicalSecond
    exact Whole.ext (Number.intText_inj.mp (canonicalFirst.symm.trans canonicalSecond))

/-- The least whole number, as an `xsd:long`. -/
theorem agreesWithNumber_least :
    let literal := typed "-9223372036854775808" "xsd:long"
    literal.WritesIntegers ∧ literal.agreesWithNumber (.whole .least) = true ∧
      ∀ value : Whole, literal.agreesWithNumber (.whole value) = true → value = .least := by
  intro literal
  have writes : literal.WritesIntegers := by
    intro type isType
    have isLong : literal.numericType? = some .long := by decide
    rw [isLong] at isType
    obtain rfl := Option.some.inj isType
    rfl
  have agrees : literal.agreesWithNumber (.whole .least) = true := by decide +kernel
  obtain ⟨-, -, unique⟩ := agreesWithNumber_canonical writes
  exact ⟨writes, agrees, fun value agreesToo => unique value .least agreesToo agrees⟩

/-- A datatype with decimal places rounds to a double, so the literals of one agree with several whole
numbers. -/
example :
    let literal := typed "9007199254740992.0" "xsd:double"
    ¬ literal.WritesIntegers ∧
      literal.agreesWithNumber (.whole ⟨9007199254740992, by decide, by decide⟩) = true ∧
      literal.agreesWithNumber (.whole ⟨9007199254740993, by decide, by decide⟩) = true :=
  ⟨fun writes => absurd (writes .double (by decide)) (by decide), by decide +kernel,
    by decide +kernel⟩

end Literal

end RuleAtoms
