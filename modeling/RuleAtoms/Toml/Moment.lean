/-
**Dates and times in settings documents.**

A moment is a day of the calendar, a time of day, or both with or without the distance from
universal time. Days have to exist; a minute may have a 61st second.
-/

import RuleAtoms.Number.Digits

namespace RuleAtoms.Toml

structure Date where
  year : Nat
  month : Nat
  day : Nat
deriving DecidableEq

structure Time where
  hour : Nat
  minute : Nat
  second : Nat
  /-- The digits of a fraction of the second, at most nine and without zeros at the end. -/
  fraction : List Char
deriving DecidableEq

/-- The distance from universal time. -/
inductive Offset where
  | zero
  | ahead (hours minutes : Nat)
  | behind (hours minutes : Nat)
deriving DecidableEq

inductive Moment where
  | date (day : Date)
  | time (clock : Time)
  | both (day : Date) (clock : Time) (offset? : Option Offset)
deriving DecidableEq

/-! ### Writing -/

/-- A number with at least as many digits as asked for. -/
def padded (width value : Nat) : List Char := (Nat.toDigits 10 value).leftpad width '0'

def Date.text (date : Date) : List Char :=
  padded 4 date.year ++ '-' :: padded 2 date.month ++ '-' :: padded 2 date.day

def Time.text (time : Time) : List Char :=
  padded 2 time.hour ++ ':' :: padded 2 time.minute ++ ':' :: padded 2 time.second ++
    (if time.fraction.isEmpty then [] else '.' :: time.fraction)

/-- An offset of no minutes is never written as being behind. -/
def Offset.text : Offset → List Char
  | zero => ['Z']
  | ahead hours minutes => '+' :: padded 2 hours ++ ':' :: padded 2 minutes
  | behind hours minutes =>
    (if hours = 0 ∧ minutes = 0 then '+' else '-') :: padded 2 hours ++ ':' :: padded 2 minutes

def Moment.text : Moment → List Char
  | .date day => day.text
  | .time clock => clock.text
  | .both day clock none => day.text ++ 'T' :: clock.text
  | .both day clock (some offset) => day.text ++ 'T' :: clock.text ++ offset.text

/-! ### Reading -/

def isLeapYear (year : Nat) : Bool := year % 4 == 0 && (year % 100 != 0 || year % 400 == 0)

def daysInMonth (year month : Nat) : Nat :=
  if month = 2 then (if isLeapYear year then 29 else 28)
  else if month = 4 ∨ month = 6 ∨ month = 9 ∨ month = 11 then 30
  else 31

def Date.isOnCalendar (date : Date) : Bool :=
  decide (1 ≤ date.month) && decide (date.month ≤ 12) && decide (1 ≤ date.day) &&
    decide (date.day ≤ daysInMonth date.year date.month)

/-- A day `1979-05-27` at the beginning of a text, and what follows it. -/
def readDate? : List Char → Option (Date × List Char)
  | a :: b :: c :: d :: '-' :: e :: f :: '-' :: g :: h :: rest =>
    match Number.readDigits? [a, b, c, d], Number.readDigits? [e, f], Number.readDigits? [g, h] with
    | some year, some month, some day =>
      let date : Date := ⟨year, month, day⟩
      if date.isOnCalendar then some (date, rest) else none
    | _, _, _ => none
  | _ => none

/-- A fraction of a second, if there is one, and what follows it. More than nine digits are cut
off. -/
def readFraction? : List Char → Option (List Char × List Char)
  | '.' :: rest =>
    let digits := rest.takeWhile Char.isDigit
    if digits.isEmpty then none
    else
      some (((digits.take 9).reverse.dropWhile (· == '0')).reverse, rest.dropWhile Char.isDigit)
  | text => some ([], text)

/-- A number of two digits that does not exceed a limit. -/
def readPair? (limit : Nat) (first second : Char) : Option Nat :=
  (Number.readDigits? [first, second]).filter (· ≤ limit)

/-- A time of day `07:32:00.5` at the beginning of a text, and what follows it. -/
def readTime? : List Char → Option (Time × List Char)
  | a :: b :: ':' :: c :: d :: ':' :: e :: f :: rest =>
    match readPair? 23 a b, readPair? 59 c d, readPair? 60 e f, readFraction? rest with
    | some hour, some minute, some second, some (fraction, tail) =>
      some (⟨hour, minute, second, fraction⟩, tail)
    | _, _, _, _ => none
  | _ => none

/-- The offset that a text denotes, if it denotes one or is empty. -/
def readOffset? : List Char → Option (Option Offset)
  | [] => some none
  | ['Z'] | ['z'] => some (some .zero)
  | ['+', a, b, ':', c, d] =>
    match readPair? 23 a b, readPair? 59 c d with
    | some hours, some minutes => some (some (.ahead hours minutes))
    | _, _ => none
  | ['-', a, b, ':', c, d] =>
    match readPair? 23 a b, readPair? 59 c d with
    | some hours, some minutes => some (some (.behind hours minutes))
    | _, _ => none
  | _ => none

/-- A time of day with an offset or without one. -/
def readClock? (text : List Char) : Option (Time × Option Offset) :=
  (readTime? text).bind fun (time, rest) => (readOffset? rest).map fun offset? => (time, offset?)

/-- The moment that a text denotes. -/
def readMoment? (text : List Char) : Option Moment :=
  match readDate? text with
  | some (date, []) => some (.date date)
  | some (date, mark :: rest) =>
    if mark == 'T' || mark == 't' || mark == ' ' then
      (readClock? rest).map fun (time, offset?) => .both date time offset?
    else none
  | none =>
    match readTime? text with
    | some (time, []) => some (.time time)
    | _ => none

end RuleAtoms.Toml
