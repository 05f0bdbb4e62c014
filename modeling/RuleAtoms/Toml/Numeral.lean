/-
**Numbers in settings documents.**

Between two digits there may be an underscore, which means nothing. Whole numbers have 64 bits and
may be written to the bases 2, 8 and 16; a decimal one has no leading zeros. A number with a
fraction or an exponent is rounded to the nearest double. The infinities and the value that is no
number have names.
-/

import RuleAtoms.Number.Decimal

namespace RuleAtoms.Toml

/-- A number that is not whole by the way it is written. -/
inductive Real where
  | finite (value : Double)
  | infinite (negative : Bool)
  | undefined
deriving DecidableEq

/-- The digits of a text of one or more digits, with the underscores between them taken out. -/
def digits? (allowed : Char → Bool) : List Char → Option (List Char)
  | [] => none
  | [c] => if allowed c then some [c] else none
  | c :: '_' :: rest => if allowed c then (digits? allowed rest).map (c :: ·) else none
  | c :: rest => if allowed c then (digits? allowed rest).map (c :: ·) else none

/-- The digits of a decimal number, which has no leading zeros. -/
def wholeDigits? (text : List Char) : Option (List Char) :=
  (digits? Char.isDigit text).filter fun digits =>
    match digits with
    | '0' :: _ :: _ => false
    | _ => true

/-- A whole number to a base other than ten. -/
def readBased? (base : Nat) (text : List Char) : Option Whole :=
  let digit? := fun c => (Number.hexDigit? c).filter (· < base)
  (digits? (fun c => (digit? c).isSome) text).bind fun digits =>
    (Number.readBase? base digit? digits).bind fun (value : Nat) => Whole.ofInt? value

/-- The whole number that a text denotes. -/
def readWhole? : List Char → Option Whole
  | '0' :: 'x' :: rest => readBased? 16 rest
  | '0' :: 'o' :: rest => readBased? 8 rest
  | '0' :: 'b' :: rest => readBased? 2 rest
  | text =>
    let (negative, body) := Number.splitSign text
    ((wholeDigits? body).bind Number.readDigits?).bind fun (magnitude : Nat) =>
      Whole.ofInt? (if negative then -(magnitude : Int) else (magnitude : Int))

/-- The digits behind a point, with the point, or nothing where there is no point. -/
def fractionText? : List Char → Option (List Char)
  | [] => some []
  | '.' :: rest => (digits? Char.isDigit rest).map ('.' :: ·)
  | _ => none

/-- An exponent with its mark and sign, or nothing where there is none. -/
def exponentText? : List Char → Option (List Char)
  | [] => some []
  | mark :: '+' :: rest => (digits? Char.isDigit rest).map (mark :: '+' :: ·)
  | mark :: '-' :: rest => (digits? Char.isDigit rest).map (mark :: '-' :: ·)
  | mark :: rest => (digits? Char.isDigit rest).map (mark :: ·)

/-- A number with a fraction or an exponent. One that is too large is refused, one that is too
small below zero is infinite. -/
def readFinite? (text : List Char) : Option Real :=
  let (negative, body) := Number.splitSign text
  let isMark := fun c => c == 'e' || c == 'E'
  let mantissa := body.takeWhile (!isMark ·)
  let whole := mantissa.takeWhile (· != '.')
  let fraction := mantissa.dropWhile (· != '.')
  let exponent := body.dropWhile (!isMark ·)
  if fraction.isEmpty && exponent.isEmpty then none
  else
    match wholeDigits? whole, fractionText? fraction, exponentText? exponent with
    | some wholeText, some fractionText, some exponentText =>
      (Decimal.read? (wholeText ++ fractionText ++ exponentText)).bind fun decimal =>
        match { decimal with negative }.toDouble? with
        | some value => some (.finite value)
        | none => if negative then some (.infinite true) else none
    | _, _, _ => none

/-- The number that a text denotes which is not whole by the way it is written. -/
def readReal? (text : List Char) : Option Real :=
  let (negative, body) := Number.splitSign text
  if body == "inf".toList then some (.infinite negative)
  else if body == "nan".toList then some .undefined
  else readFinite? text

end RuleAtoms.Toml
