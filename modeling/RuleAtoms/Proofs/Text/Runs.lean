/-
**Runs of characters of a class.**

A reader takes characters of a class as long as there are any, so what it takes is the run that was
written as soon as the class `Ends` behind it.
-/

import Mathlib.Data.List.TakeWhile
import RuleAtoms.Text.Alphanumeric
import RuleAtoms.Text.Blank
import RuleAtoms.Text.Split

namespace RuleAtoms.Text

variable {allowed : Char → Bool} {run rest : List Char}

/-- No run of the class goes on here: the text is at its end or begins with another character. -/
def Ends (allowed : Char → Bool) (rest : List Char) : Prop := ∀ c ∈ rest.head?, allowed c = false

theorem ends_nil (allowed : Char → Bool) : Ends allowed [] := fun _ isFirst => nomatch isFirst

theorem ends_cons {c : Char} (other : allowed c = false) : Ends allowed (c :: rest) := by
  intro first isFirst
  rw [List.head?_cons, Option.mem_some_iff] at isFirst
  rw [← isFirst, other]

theorem ends_of_head?_ne (others : ∀ c, allowed c = true → rest.head? ≠ some c) :
    Ends allowed rest := by
  intro c isFirst
  rw [← Bool.not_eq_true]
  exact fun inClass => others c inClass isFirst

theorem takeWhile_of_ends (ends : Ends allowed rest) : rest.takeWhile allowed = [] := by
  cases rest with
  | nil => rfl
  | cons c tail => rw [List.takeWhile_cons, ends c rfl, if_neg Bool.false_ne_true]

theorem dropWhile_of_ends (ends : Ends allowed rest) : rest.dropWhile allowed = rest := by
  cases rest with
  | nil => rfl
  | cons c tail => rw [List.dropWhile_cons, ends c rfl, if_neg Bool.false_ne_true]

theorem takeWhile_run (isRun : ∀ c ∈ run, allowed c = true) (ends : Ends allowed rest) :
    (run ++ rest).takeWhile allowed = run := by
  rw [List.takeWhile_append_of_pos isRun, takeWhile_of_ends ends, List.append_nil]

theorem dropWhile_run (isRun : ∀ c ∈ run, allowed c = true) (ends : Ends allowed rest) :
    (run ++ rest).dropWhile allowed = rest := by
  rw [List.dropWhile_append_of_pos isRun, dropWhile_of_ends ends]

theorem ends_dropWhile (allowed : Char → Bool) (text : List Char) :
    Ends allowed (text.dropWhile allowed) := by
  intro c isFirst
  have stops := List.head?_dropWhile_not allowed text
  rw [Option.mem_def.mp isFirst] at stops
  simpa using stops

/-- Every text begins with a run, if only an empty one, behind which the class ends. -/
theorem exists_run (allowed : Char → Bool) (text : List Char) :
    ∃ run rest, text = run ++ rest ∧ (∀ c ∈ run, allowed c = true) ∧ Ends allowed rest :=
  ⟨text.takeWhile allowed, text.dropWhile allowed, List.takeWhile_append_dropWhile.symm,
    fun _ => List.mem_takeWhile_imp, ends_dropWhile allowed text⟩

/-- A run does not begin with a character out of the class. -/
theorem head?_run_ne {c : Char} (nonempty : run ≠ []) (isRun : ∀ c ∈ run, allowed c = true)
    (other : allowed c = false) : (run ++ rest).head? ≠ some c := by
  obtain ⟨first, others, rfl⟩ := List.exists_cons_of_ne_nil nonempty
  intro same
  rw [List.cons_append, List.head?_cons, Option.some.injEq] at same
  have inClass := isRun first List.mem_cons_self
  rw [same] at inClass
  exact Bool.false_ne_true (other.symm.trans inClass)

/-- A character out of the class is not dropped with a run. -/
theorem mem_dropWhile {text : List Char} {c : Char} (member : c ∈ text)
    (other : allowed c = false) : c ∈ text.dropWhile allowed := by
  rw [← List.takeWhile_append_dropWhile (p := allowed) (l := text)] at member
  refine (List.mem_append.mp member).resolve_left fun inRun => ?_
  exact Bool.false_ne_true (other.symm.trans (List.mem_takeWhile_imp inRun))

/-- Behind the last character of a class stands what holds none. -/
theorem afterLast_append_cons {stop : Char → Bool} {c : Char} {before after : List Char}
    (stops : stop c = true) (notLater : ∀ other ∈ after, stop other = false) :
    afterLast stop (before ++ c :: after) = after := by
  have isRun : ∀ other ∈ after.reverse, (!stop other) = true := by
    intro other member
    rw [notLater other (List.mem_reverse.mp member), Bool.not_false]
  have ends : Ends (!stop ·) (c :: before.reverse) := ends_cons (by rw [stops, Bool.not_true])
  unfold afterLast
  rw [List.reverse_append, List.reverse_cons, List.append_assoc, List.singleton_append,
    takeWhile_run isRun ends, List.reverse_reverse]

/-! ### Blanks -/

/-- The visible characters of ASCII are no blanks. -/
theorem isBlank_of_visible {c : Char} (visible : 33 ≤ c.toNat ∧ c.toNat ≤ 126) :
    isBlank c = false := by
  unfold isBlank blankRanges
  simp only [inRanges, Bool.and_eq_false_iff, Bool.or_eq_false_iff, decide_eq_false_iff_not]
  omega

theorem isBlank_of_isDigit {c : Char} (digit : c.isDigit = true) : isBlank c = false := by
  unfold Char.isDigit at digit
  simp only [Bool.and_eq_true, decide_eq_true_eq, UInt32.le_iff_toNat_le, ge_iff_le] at digit
  change 48 ≤ c.toNat ∧ c.toNat ≤ 57 at digit
  exact isBlank_of_visible (by omega)

theorem mem_of_inRanges {ranges : List (Nat × Nat)} {code : Nat}
    (found : inRanges ranges code = true) :
    ∃ range ∈ ranges, range.1 ≤ code ∧ code ≤ range.2 := by
  induction ranges with
  | nil => cases found
  | cons range rest ih =>
    unfold inRanges at found
    simp only [Bool.and_eq_true, Bool.or_eq_true, decide_eq_true_eq] at found
    obtain ⟨fromFirst, toLast | later⟩ := found
    · exact ⟨range, List.mem_cons_self, fromFirst, toLast⟩
    · obtain ⟨other, member, inOther⟩ := ih later
      exact ⟨other, List.mem_cons_of_mem _ member, inOther⟩

/-- The blanks are few, so that each can be looked up among the letters and digits. -/
theorem inRanges_alphanumericRanges_of_blank :
    ∀ range ∈ blankRanges, ∀ code ∈ List.range' range.1 (range.2 + 1 - range.1),
      inRanges alphanumericRanges code = false := by
  decide +kernel

/-- **Letters and digits are no blanks**, in whatever script. -/
theorem isBlank_of_isAlphanumeric {c : Char} (alphanumeric : isAlphanumeric c = true) :
    isBlank c = false := by
  rw [← Bool.not_eq_true]
  intro blank
  obtain ⟨range, member, fromFirst, toLast⟩ := mem_of_inRanges blank
  have inRange : c.toNat ∈ List.range' range.1 (range.2 + 1 - range.1) :=
    List.mem_range'_1.mpr ⟨fromFirst, by omega⟩
  have isOther := inRanges_alphanumericRanges_of_blank range member c.toNat inRange
  exact Bool.false_ne_true (isOther.symm.trans alphanumeric)

/-- A text without blanks is not changed when it is trimmed. -/
theorem trim_of_forall {text : List Char} (noBlank : ∀ c ∈ text, isBlank c = false) :
    trim text = text := by
  have atStart : Ends isBlank text :=
    fun c isFirst => noBlank c (List.mem_of_mem_head? isFirst)
  have atEnd : Ends isBlank text.reverse :=
    fun c isLast => noBlank c (List.mem_reverse.mp (List.mem_of_mem_head? isLast))
  unfold trim trimStart trimEnd
  rw [dropWhile_of_ends atStart, dropWhile_of_ends atEnd, List.reverse_reverse]

/-- A text with a character that is no blank does not vanish when it is trimmed. -/
theorem trim_ne_nil {text : List Char} {c : Char} (member : c ∈ text)
    (noBlank : isBlank c = false) : trim text ≠ [] := by
  have fromStart := List.mem_reverse.mpr (mem_dropWhile member noBlank)
  have fromEnd := List.mem_reverse.mpr (mem_dropWhile fromStart noBlank)
  exact List.ne_nil_of_mem fromEnd

/-- Nothing is left of a text exactly when there are only blanks in it. -/
theorem isEmpty_trim (text : List Char) : (trim text).isEmpty = text.all isBlank := by
  rw [Bool.eq_iff_iff, List.isEmpty_iff, List.all_eq_true]
  constructor
  · intro vanishes c member
    by_contra noBlank
    exact trim_ne_nil member (Bool.not_eq_true _ ▸ noBlank) vanishes
  · intro blank
    have noneLeft : trimStart text = [] := List.dropWhile_eq_nil_iff.mpr blank
    unfold trim trimEnd
    rw [noneLeft]
    rfl

end RuleAtoms.Text
