/-
**Decimal texts of integers.**

The canonical text of an integer has no leading zero and no plus sign. Reading is more lenient: it
takes one sign of either kind and any leading zeros.

* `readInt?_intText`: reading undoes writing.
-/

import RuleAtoms.Number.Whole

namespace RuleAtoms.Number

/-- The canonical decimal text of an integer. -/
def intText (value : Int) : List Char :=
  if value < 0 then '-' :: Nat.toDigits 10 value.natAbs else Nat.toDigits 10 value.natAbs

/-- The value of a text of one or more decimal digits. -/
def readDigits? (text : List Char) : Option Nat :=
  if text ≠ [] ∧ text.all Char.isDigit then some (Nat.ofDigitChars 10 text 0) else none

/-- The value of a decimal digit. -/
def decimalDigit? (c : Char) : Option Nat :=
  if c.isDigit then some (c.toNat - '0'.toNat) else none

/-- The value of a hexadecimal digit. -/
def hexDigit? (c : Char) : Option Nat :=
  if c.isDigit then some (c.toNat - '0'.toNat)
  else if 'a' ≤ c ∧ c ≤ 'f' then some (c.toNat - 'a'.toNat + 10)
  else if 'A' ≤ c ∧ c ≤ 'F' then some (c.toNat - 'A'.toNat + 10)
  else none

/-- The value of digits to a base, most significant first; no digits denote zero. -/
def readBase? (base : Nat) (digit? : Char → Option Nat) (digits : List Char) : Option Nat :=
  digits.foldlM (fun value c => (digit? c).map (base * value + ·)) 0

/-- The value of hexadecimal digits. -/
def hexNumber? (digits : List Char) : Option Nat := readBase? 16 hexDigit? digits

/-- Whether a text begins with a minus sign, and what follows its sign, if it has one. -/
def splitSign : List Char → Bool × List Char
  | '-' :: rest => (true, rest)
  | '+' :: rest => (false, rest)
  | text => (false, text)

/-- The value of an optional sign and one or more decimal digits. -/
def readInt? (text : List Char) : Option Int :=
  let (negative, digits) := splitSign text
  (readDigits? digits).map fun (magnitude : Nat) =>
    if negative then -(magnitude : Int) else (magnitude : Int)

/-- The 64-bit whole number that a text denotes. -/
def readWhole? (text : List Char) : Option Whole := (readInt? text).bind Whole.ofInt?

theorem readDigits?_toDigits (magnitude : Nat) :
    readDigits? (Nat.toDigits 10 magnitude) = some magnitude := by
  have digits : (Nat.toDigits 10 magnitude).all Char.isDigit = true :=
    List.all_eq_true.mpr fun c member => Nat.isDigit_of_mem_toDigits (by decide) (by decide) member
  simp [readDigits?, digits, Nat.toDigits_ne_nil, Nat.ofDigitChars_toDigits]

/-- A text that begins with a digit has no sign. -/
theorem splitSign_of_isDigit {c : Char} {rest : List Char} (digit : c.isDigit = true) :
    splitSign (c :: rest) = (false, c :: rest) := by
  unfold splitSign
  split
  · rename_i same
    obtain ⟨rfl, -⟩ := List.cons.inj same
    exact absurd digit (by decide)
  · rename_i same
    obtain ⟨rfl, -⟩ := List.cons.inj same
    exact absurd digit (by decide)
  · rfl

theorem splitSign_toDigits (magnitude : Nat) :
    splitSign (Nat.toDigits 10 magnitude) = (false, Nat.toDigits 10 magnitude) := by
  cases found : Nat.toDigits 10 magnitude with
  | nil => exact absurd found Nat.toDigits_ne_nil
  | cons c rest =>
    have member : c ∈ Nat.toDigits 10 magnitude := by simp [found]
    exact splitSign_of_isDigit (Nat.isDigit_of_mem_toDigits (by decide) (by decide) member)

theorem readInt?_intText (value : Int) : readInt? (intText value) = some value := by
  unfold intText
  split
  · have same : -(value.natAbs : Int) = value := by omega
    have read : readInt? ('-' :: Nat.toDigits 10 value.natAbs) = some (-(value.natAbs : Int)) := by
      simp only [readInt?, splitSign, readDigits?_toDigits, Option.map_some, if_true]
    rw [read, same]
  · have same : (value.natAbs : Int) = value := by omega
    have read : readInt? (Nat.toDigits 10 value.natAbs) = some (value.natAbs : Int) := by
      simp only [readInt?, splitSign_toDigits, readDigits?_toDigits, Option.map_some,
        Bool.false_eq_true, if_false]
    rw [read, same]

theorem readWhole?_intText (whole : Whole) : readWhole? (intText whole.toInt) = some whole := by
  simp [readWhole?, readInt?_intText]

end RuleAtoms.Number
