/-
**Cutting texts at a separator.**

Texts are lists of characters here. Two cuts are used all over the library: at the first and at
the last place where a separator begins.

* `splitFirst?_eq_some`: what `splitFirst?` returns puts the text together again;
* `splitLast?_eq_some`: so does what `splitLast?` returns.
-/

namespace RuleAtoms.Text

/-- The text before and after the first occurrence of the separator. -/
def splitFirst? (separator : List Char) (text : List Char) : Option (List Char × List Char) :=
  match separator.isPrefixOf? text with
  | some rest => some ([], rest)
  | none =>
    match text with
    | [] => none
    | c :: rest => (splitFirst? separator rest).map fun (before, after) => (c :: before, after)

/-- The text before and after the last place where the separator begins. -/
def splitLast? (separator : List Char) (text : List Char) : Option (List Char × List Char) :=
  match text with
  | [] => if separator.isEmpty then some ([], []) else none
  | c :: rest =>
    match splitLast? separator rest with
    | some (before, after) => some (c :: before, after)
    | none => (separator.isPrefixOf? (c :: rest)).map fun after => ([], after)

/-- The text behind the last character of a class, all of it when there is none. -/
def afterLast (stop : Char → Bool) (text : List Char) : List Char :=
  (text.reverse.takeWhile (!stop ·)).reverse

/-- Drops one leading occurrence of `start`, if the text has one. -/
def dropStart (start text : List Char) : List Char :=
  (start.isPrefixOf? text).getD text

/-- Pieces joined with a separator between each two. -/
def join (separator : List Char) : List (List Char) → List Char
  | [] => []
  | [piece] => piece
  | piece :: rest => piece ++ separator ++ join separator rest

/-- What remains behind a prefix puts the text together with it. -/
theorem eq_append_of_isPrefixOf? {start text rest : List Char}
    (found : start.isPrefixOf? text = some rest) : text = start ++ rest := by
  induction start generalizing text with
  | nil =>
    change some text = some rest at found
    exact Option.some.inj found
  | cons s start ih =>
    cases text with
    | nil =>
      change none = some rest at found
      exact absurd found (by simp)
    | cons c text =>
      change (if s == c then start.isPrefixOf? text else none) = some rest at found
      split at found
      · rename_i same
        rw [beq_iff_eq.mp same, ih found, List.cons_append]
      · exact absurd found (by simp)

theorem splitFirst?_eq_some {separator text before after : List Char}
    (found : splitFirst? separator text = some (before, after)) :
    text = before ++ separator ++ after := by
  fun_induction splitFirst? separator text generalizing before after with
  | case1 text rest isPrefix =>
    simp only [Option.some.injEq, Prod.mk.injEq] at found
    obtain ⟨rfl, rfl⟩ := found
    simpa using eq_append_of_isPrefixOf? isPrefix
  | case2 => simp at found
  | case3 c rest _ ih =>
    obtain ⟨⟨inner, tail⟩, innerFound, same⟩ := Option.map_eq_some_iff.mp found
    simp only [Prod.mk.injEq] at same
    obtain ⟨rfl, rfl⟩ := same
    simp [ih innerFound]

theorem splitLast?_eq_some {separator text before after : List Char}
    (found : splitLast? separator text = some (before, after)) :
    text = before ++ separator ++ after := by
  fun_induction splitLast? separator text generalizing before after with
  | case1 isEmpty =>
    simp only [Option.some.injEq, Prod.mk.injEq] at found
    obtain ⟨rfl, rfl⟩ := found
    simpa using isEmpty
  | case2 => simp at found
  | case3 c rest inner tail innerFound ih =>
    simp only [Option.some.injEq, Prod.mk.injEq] at found
    obtain ⟨rfl, rfl⟩ := found
    simp [ih innerFound]
  | case4 c rest _ ih =>
    obtain ⟨tail, tailFound, same⟩ := Option.map_eq_some_iff.mp found
    simp only [Prod.mk.injEq] at same
    obtain ⟨rfl, rfl⟩ := same
    simpa using eq_append_of_isPrefixOf? tailFound

end RuleAtoms.Text
