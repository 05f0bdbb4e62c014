/-
**Characters written by reference in markup.**

Five characters have a meaning in markup and are written as named references. Reading knows these
five names and references by number, and refuses everything else that begins with an ampersand.

* `unescape_escape`: reading undoes writing.
-/

import RuleAtoms.Number.Digits

namespace RuleAtoms.Markup

/-- One character of a text or an attribute value. -/
def escapeChar (c : Char) : List Char :=
  match c with
  | '<' => "&lt;".toList
  | '>' => "&gt;".toList
  | '&' => "&amp;".toList
  | '\'' => "&apos;".toList
  | '"' => "&quot;".toList
  | c => [c]

/-- A text with the five characters that have a meaning replaced by references. -/
def escape (text : List Char) : List Char := text.flatMap escapeChar

/-- The value of at most so many digits; none at all denote zero. -/
def shortNumber? (most base : Nat) (digit? : Char → Option Nat) (digits : List Char) : Option Nat :=
  if digits.length ≤ most then Number.readBase? base digit? digits else none

/-- The character with a code point other than zero. -/
def charOf? (code : Nat) : Option Char :=
  if code ≠ 0 ∧ code.isValidChar then some (Char.ofNat code) else none

/-- The character that a reference denotes, given what stands between `&` and `;`. -/
def reference? (name : List Char) : Option Char :=
  match name with
  | '#' :: 'x' :: digits => (shortNumber? 6 16 Number.hexDigit? digits).bind charOf?
  | '#' :: digits => (shortNumber? 7 10 Number.decimalDigit? digits).bind charOf?
  | name =>
    if name = "lt".toList then some '<'
    else if name = "gt".toList then some '>'
    else if name = "amp".toList then some '&'
    else if name = "apos".toList then some '\''
    else if name = "quot".toList then some '"'
    else none

/-- The text with references replaced, read inside a reference whose name so far is given in
reverse, or outside of one. -/
def unescapeInside : Option (List Char) → List Char → Option (List Char)
  | none, [] => some []
  | none, c :: rest =>
    if c = '&' then unescapeInside (some []) rest else (unescapeInside none rest).map (c :: ·)
  | some _, [] => none
  | some name, c :: rest =>
    if c = ';' then
      (reference? name.reverse).bind fun denoted => (unescapeInside none rest).map (denoted :: ·)
    else if c = '&' then none
    else unescapeInside (some (c :: name)) rest

/-- The text with references replaced by the characters they denote. -/
def unescape? (text : List Char) : Option (List Char) := unescapeInside none text

theorem unescapeInside_escapeChar (c : Char) (rest : List Char) :
    unescapeInside none (escapeChar c ++ rest) = (unescapeInside none rest).map (c :: ·) := by
  unfold escapeChar
  split <;> simp_all [unescapeInside, reference?]

theorem unescape_escape (text : List Char) : unescape? (escape text) = some text := by
  unfold unescape?
  induction text with
  | nil => rfl
  | cons c rest ih =>
    have step := unescapeInside_escapeChar c (escape rest)
    rw [ih] at step
    simpa [escape] using step

end RuleAtoms.Markup
