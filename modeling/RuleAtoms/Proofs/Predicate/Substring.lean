/-
**Which characters a substring keeps.**

A substring holds the characters whose positions pass two comparisons, each made for every character
on its own. As positions do not fall back when they are rounded, the positions from the start on are
the last ones of the text, and those before the end are the first ones of these.

* `keepPositions_suffix`, `keepPositions_prefix`: a test that goes on holding, or goes on failing,
  keeps one end of the text;
* `substring?_contiguous`: **a substring is one piece of the text**, whatever numbers tell its start
  and length;
* `charactersAt_eq_iff`: nested tests keep the same characters only if they agree on every position;
* `substring?_wholes`: **where whole numbers are met exactly**.
-/

import Mathlib.Data.List.Basic
import RuleAtoms.Proofs.Predicate.RoundedPositions

namespace RuleAtoms.TextFunctions

open Double hiding one_pos

/-! ### Tests of positions -/

section tests

variable {admits starts ends : Nat → Bool} {text : List Char}

theorem keepPositions_cons (admits : Nat → Bool) (c : Char) (rest : List Char) :
    keepPositions admits (c :: rest) =
      (if admits 1 then [c] else []) ++ keepPositions (fun position => admits (position + 1)) rest := by
  unfold keepPositions
  rw [List.zipIdx_cons, List.zipIdx_succ, List.filterMap_cons, List.filterMap_map]
  cases first : admits 1 with
  | false => simp only [first, Bool.false_eq_true, if_false, List.nil_append]; rfl
  | true => simp only [first, if_true, List.singleton_append]; rfl

theorem keepPositions_all (all : ∀ position, 1 ≤ position → admits position = true) :
    keepPositions admits text = text := by
  induction text generalizing admits with
  | nil => rfl
  | cons c rest ih =>
    rw [keepPositions_cons, all 1 (Nat.le_refl 1), ih fun position _ => all _ (Nat.le_add_left 1 _)]
    rfl

theorem keepPositions_none (none : ∀ position, 1 ≤ position → admits position = false) :
    keepPositions admits text = [] := by
  induction text generalizing admits with
  | nil => rfl
  | cons c rest ih =>
    rw [keepPositions_cons, none 1 (Nat.le_refl 1), ih fun position _ => none _ (Nat.le_add_left 1 _)]
    rfl

/-- **A test that goes on holding** keeps the end of a text. -/
theorem keepPositions_suffix
    (upward : ∀ small large, small ≤ large → admits small = true → admits large = true) :
    keepPositions admits text <:+ text := by
  induction text generalizing admits with
  | nil => exact List.suffix_rfl
  | cons c rest ih =>
    cases first : admits 1 with
    | true =>
      exact ⟨[], keepPositions_all fun position later => upward 1 position later first⟩
    | false =>
      rw [keepPositions_cons, first, if_neg Bool.false_ne_true, List.nil_append]
      refine (ih fun small large order => ?_).trans (List.suffix_cons c rest)
      exact upward (small + 1) (large + 1) (Nat.succ_le_succ order)

/-- **A second test that goes on failing** keeps the beginning of what the first one keeps. -/
theorem keepPositions_prefix
    (downward : ∀ small large, small ≤ large → ends large = true → ends small = true) :
    keepPositions (fun position => starts position && ends position) text <+:
      keepPositions starts text := by
  induction text generalizing starts ends with
  | nil => exact List.prefix_rfl
  | cons c rest ih =>
    cases first : ends 1 with
    | false =>
      have finished : ∀ position, 1 ≤ position → (starts position && ends position) = false := by
        intro position later
        cases holds : ends position with
        | false => exact Bool.and_false _
        | true => exact absurd (downward 1 position later holds) (by rw [first]; decide)
      rw [keepPositions_none finished]
      exact List.nil_prefix
    | true =>
      rw [keepPositions_cons, keepPositions_cons, first, Bool.and_true, List.prefix_append_right_inj]
      exact ih fun small large order => downward (small + 1) (large + 1) (Nat.succ_le_succ order)

end tests

/-! ### One piece -/

section piece

variable (text : List Char) (start length : Double)

theorem slice_none : slice text start none =
    keepPositions (fun position => decide (roundPosition start ≤ place position)) text := by
  unfold slice
  simp only [Option.map_none, Option.all_none, Bool.and_true]

theorem slice_some : slice text start (some length) =
    keepPositions (fun position => decide (roundPosition start ≤ place position) &&
      decide (place position < roundUnits (roundPosition start + roundPosition length))) text := by
  unfold slice
  simp only [Option.map_some, Option.all_some]

theorem slice_suffix : slice text start none <:+ text := by
  rw [slice_none]
  refine keepPositions_suffix fun small large order reached => ?_
  rw [decide_eq_true_eq] at reached ⊢
  exact Int.le_trans reached (place_le_place order)

theorem slice_prefix : slice text start (some length) <+: slice text start none := by
  rw [slice_none, slice_some]
  refine keepPositions_prefix fun small large order before => ?_
  rw [decide_eq_true_eq] at before ⊢
  exact Int.lt_of_le_of_lt (place_le_place order) before

end piece

section literals

variable {text start length : Literal} {first count : Number}

theorem substring?_start (isStart : start.number? = some first) : substring? [text, start] =
    some (String.ofList (slice text.lexical.toList first.toDouble none)) := by
  show (start.number?.map Number.toDouble).map _ = _
  rw [isStart]
  rfl

theorem substring?_length (isStart : start.number? = some first)
    (isLength : length.number? = some count) : substring? [text, start, length] =
      some (String.ofList (slice text.lexical.toList first.toDouble (some count.toDouble))) := by
  show (start.number?.map Number.toDouble).bind (fun _ => (length.number?.map _).map _) = _
  rw [isStart, isLength]
  rfl

/-- **A substring is one piece of the text.** Whatever numbers the start and the length denote, the
substring from the start on is what follows some part of the text, and the substring with the length
is a beginning of it. -/
theorem substring?_contiguous (isStart : start.number? = some first)
    (isLength : length.number? = some count) :
    ∃ front tail piece rest : String, substring? [text, start] = some tail ∧
      substring? [text, start, length] = some piece ∧
      text.lexical = front ++ tail ∧ tail = piece ++ rest := by
  obtain ⟨front, isText⟩ := slice_suffix text.lexical.toList first.toDouble
  obtain ⟨rest, isTail⟩ := slice_prefix text.lexical.toList first.toDouble count.toDouble
  refine ⟨String.ofList front, _, _, String.ofList rest, substring?_start isStart,
    substring?_length isStart isLength, ?_, ?_⟩
  · rw [← String.ofList_append, isText, String.ofList_toList]
  · rw [← String.ofList_append, isTail]

/-- From position 1.5 on, 2.6 characters: rounded, these are the second to the fourth. -/
theorem substring?_contiguous_fractions :
    let text := Literal.plain "12345"
    let start := Literal.plain "1.5"
    let length := Literal.plain "2.6"
    (∃ first count, start.number? = some first ∧ length.number? = some count) ∧
      ∃ front tail piece rest : String, substring? [text, start] = some tail ∧
        substring? [text, start, length] = some piece ∧
        text.lexical = front ++ tail ∧ tail = piece ++ rest ∧ piece = "234" := by
  intro text start length
  obtain ⟨first, isStart⟩ := Option.isSome_iff_exists.mp
    (show start.number?.isSome = true by decide +kernel)
  obtain ⟨count, isLength⟩ := Option.isSome_iff_exists.mp
    (show length.number?.isSome = true by decide +kernel)
  obtain ⟨front, tail, piece, rest, isTail, isPiece, isText, split⟩ :
      ∃ front tail piece rest : String, substring? [text, start] = some tail ∧
        substring? [text, start, length] = some piece ∧
        text.lexical = front ++ tail ∧ tail = piece ++ rest :=
    substring?_contiguous isStart isLength
  have known : substring? [text, start, length] = some "234" := by decide +kernel
  exact ⟨⟨first, count, isStart, isLength⟩, front, tail, piece, rest, isTail, isPiece, isText, split,
    Option.some.inj (isPiece.symm.trans known)⟩

end literals

/-! ### The characters at given positions -/

/-- The characters of a text, in order, at the positions of which a property holds. Positions are
counted from one. -/
def charactersAt (wanted : Int → Prop) [DecidablePred wanted] (text : String) : String :=
  String.ofList (((text.toList.zipIdx 1).filter fun item => wanted item.2).map Prod.fst)

section characters

variable {wanted other : Int → Prop} [DecidablePred wanted] [DecidablePred other] {text : String}

theorem keepPositions_eq_map_filter (admits : Nat → Bool) (text : List Char) :
    keepPositions admits text =
      ((text.zipIdx 1).filter fun item => admits item.2).map Prod.fst := by
  unfold keepPositions
  induction text.zipIdx 1 with
  | nil => rfl
  | cons item rest ih =>
    rw [List.filterMap_cons, List.filter_cons]
    cases holds : admits item.2 with
    | false => simp only [holds, Bool.false_eq_true, if_false, ih]
    | true => simp only [holds, if_true, ih, List.map_cons]

/-- Positions that a text has. -/
theorem position_of_mem {item : Char × Nat} (member : item ∈ text.toList.zipIdx 1) :
    1 ≤ item.2 ∧ item.2 ≤ text.length := by
  obtain ⟨c, position⟩ := item
  obtain ⟨least, most, -⟩ := List.mem_zipIdx member
  rw [String.length_toList] at most
  show 1 ≤ position ∧ position ≤ text.length
  omega

theorem ofList_keepPositions {admits : Nat → Bool}
    (agree : ∀ position : Nat, 1 ≤ position → position ≤ text.length →
      (admits position = true ↔ wanted position)) :
    String.ofList (keepPositions admits text.toList) = charactersAt wanted text := by
  unfold charactersAt
  rw [keepPositions_eq_map_filter]
  refine congrArg (fun items => String.ofList (List.map Prod.fst items)) ?_
  refine List.filter_congr fun item member => ?_
  obtain ⟨least, most⟩ := position_of_mem member
  rw [Bool.eq_iff_iff, agree item.2 least most, decide_eq_true_eq]

/-- **Nested properties of positions** choose the same characters only if they agree on every position.
What the narrower one chooses is a part of what the wider one does, and as long. -/
theorem charactersAt_eq_iff (nested : ∀ position, wanted position → other position) :
    charactersAt wanted text = charactersAt other text ↔
      ∀ position : Nat, 1 ≤ position → position ≤ text.length →
        (other position → wanted position) := by
  unfold charactersAt
  constructor
  · intro same position least most isOther
    have lengths := congrArg List.length (String.ofList_injective same)
    rw [List.length_map, List.length_map] at lengths
    have part : ((text.toList.zipIdx 1).filter fun item => wanted item.2).Sublist
        ((text.toList.zipIdx 1).filter fun item => other item.2) := by
      refine List.monotone_filter_right _ fun item isWanted => ?_
      rw [decide_eq_true_eq] at isWanted ⊢
      exact nested item.2 isWanted
    have inText : position - 1 < text.toList.length := by rw [String.length_toList]; omega
    have member : (text.toList[position - 1], position) ∈ text.toList.zipIdx 1 :=
      List.mk_mem_zipIdx_iff_le_and_getElem?_sub.mpr ⟨least, List.getElem?_eq_getElem inText⟩
    have chosen : (text.toList[position - 1], position) ∈
        (text.toList.zipIdx 1).filter fun item => other item.2 :=
      List.mem_filter.mpr ⟨member, decide_eq_true isOther⟩
    rw [← part.eq_of_length lengths, List.mem_filter] at chosen
    exact of_decide_eq_true chosen.2
  · intro agree
    refine congrArg (fun items => String.ofList (List.map Prod.fst items)) ?_
    refine List.filter_congr fun item member => ?_
    obtain ⟨least, most⟩ := position_of_mem member
    rw [decide_eq_decide]
    exact ⟨nested item.2, agree item.2 least most⟩

end characters

/-! ### Starts and lengths that are whole numbers -/

/-- The characters of a text from a position on, before another one. -/
def charactersBetween (start before : Int) (text : String) : String :=
  charactersAt (fun position => start ≤ position ∧ position < before) text

section wholes

variable {text : String} {first count : Whole} {start left right : Int}

/-- A lesser end cuts the same piece off only if no position is between the two. -/
theorem charactersBetween_eq_iff_of_le (order : left ≤ right) :
    charactersBetween start left text = charactersBetween start right text ↔
      ∀ position : Nat, 1 ≤ position → position ≤ text.length → start ≤ position →
        ((position : Int) < left ↔ (position : Int) < right) := by
  refine (charactersAt_eq_iff fun position inside =>
    ⟨inside.1, Int.lt_of_lt_of_le inside.2 order⟩).trans ?_
  refine forall_congr' fun position => forall₂_congr fun _ _ => ?_
  constructor
  · exact fun inside reached =>
      ⟨fun before => Int.lt_of_lt_of_le before order, fun before => (inside ⟨reached, before⟩).2⟩
  · exact fun same inside => ⟨inside.1, (same inside.1).mpr inside.2⟩

/-- **Two ends cut the same piece off** exactly when no position is between them. -/
theorem charactersBetween_eq_iff :
    charactersBetween start left text = charactersBetween start right text ↔
      ∀ position : Nat, 1 ≤ position → position ≤ text.length → start ≤ position →
        ((position : Int) < left ↔ (position : Int) < right) := by
  rcases Int.le_total left right with order | order
  · exact charactersBetween_eq_iff_of_le order
  · rw [eq_comm, charactersBetween_eq_iff_of_le order]
    simp only [iff_comm]

theorem slice_start (told : first.toInt ≤ twoPow 52 ∨ text.length ≤ twoPow 52) :
    String.ofList (slice text.toList (ofWhole first) none) =
      charactersAt (first.toInt ≤ ·) text := by
  rw [slice_none]
  refine ofList_keepPositions fun position _ most => ?_
  rw [decide_eq_true_eq]
  exact roundPosition_le_place_iff (told.imp_right (Nat.le_trans most))

/-- Where the start is met exactly, what is left to compare is the end. -/
theorem slice_between {before : Int}
    (told : first.toInt ≤ twoPow 52 ∨ text.length ≤ twoPow 52)
    (ends : ∀ position : Nat, position ≤ text.length → first.toInt ≤ position →
      (place position < roundUnits (roundPosition (ofWhole first) + roundPosition (ofWhole count)) ↔
        (position : Int) < before)) :
    String.ofList (slice text.toList (ofWhole first) (some (ofWhole count))) =
      charactersBetween first.toInt before text := by
  rw [slice_some]
  refine ofList_keepPositions fun position _ most => ?_
  rw [Bool.and_eq_true, decide_eq_true_eq, decide_eq_true_eq,
    roundPosition_le_place_iff (told.imp_right (Nat.le_trans most))]
  exact and_congr_right fun reached => ends position most reached

/-- **Start and length are met exactly** if the length is up to `2 ^ 52`, or leads beyond the text
even if it is cut down to that. -/
theorem slice_wholes (told : first.toInt ≤ twoPow 52 ∨ text.length ≤ twoPow 52)
    (toldEnd : count.toInt ≤ twoPow 52 ∨ text.length < first.toInt + twoPow 52) :
    String.ofList (slice text.toList (ofWhole first) (some (ofWhole count))) =
      charactersBetween first.toInt (first.toInt + count.toInt) text := by
  refine slice_between told fun position most reached => ?_
  exact place_lt_end_iff reached (by omega) (toldEnd.imp_right (by omega))

/-- In a text of up to `2 ^ 52` characters the substring ends where the rounded start and length lead
to. -/
theorem slice_settled (short : text.length ≤ twoPow 52) :
    String.ofList (slice text.toList (ofWhole first) (some (ofWhole count))) =
      charactersBetween first.toInt (settled first + settled count) text := by
  refine slice_between (.inr short) fun position most reached => ?_
  have total : roundPosition (ofWhole first) + roundPosition (ofWhole count) =
      (settled first + settled count) * one := (Int.add_mul _ _ _).symm
  rw [total]
  exact place_lt_roundUnits_iff
    (Nat.lt_of_le_of_lt (Nat.le_trans most short) (twoPow_lt_twoPow (by decide)))

end wholes

/-- **Substrings by whole numbers.** From a start on, a substring holds exactly the characters whose
positions are at least the start, unless both the start and the text are beyond `2 ^ 52`. With a
length it holds, of these, exactly the ones whose positions are less than the sum of start and length,
as long as the length is up to `2 ^ 52`, or leads beyond the text even if it is cut down to that. In
any text of up to `2 ^ 52` characters the end is the sum of start and length, each settled to a whole
number as doubles are, so that the substring is the exact one if and only if no position lies between
this end and the exact one. Up to `2 ^ 52` nothing is changed by that, but from there to `2 ^ 53` odd
numbers are raised by one. -/
theorem substring?_wholes {text start length : Literal} {first count : Whole}
    (isStart : start.number? = some (.whole first))
    (isLength : length.number? = some (.whole count)) :
    (first.toInt ≤ twoPow 52 ∨ text.lexical.length ≤ twoPow 52 →
      substring? [text, start] = some (charactersAt (first.toInt ≤ ·) text.lexical) ∧
      (count.toInt ≤ twoPow 52 ∨ text.lexical.length < first.toInt + twoPow 52 →
        substring? [text, start, length] =
          some (charactersBetween first.toInt (first.toInt + count.toInt) text.lexical))) ∧
    (text.lexical.length ≤ twoPow 52 →
      substring? [text, start, length] =
        some (charactersBetween first.toInt (settled first + settled count) text.lexical) ∧
      (substring? [text, start, length] =
          some (charactersBetween first.toInt (first.toInt + count.toInt) text.lexical) ↔
        ∀ position : Nat, 1 ≤ position → position ≤ text.lexical.length → first.toInt ≤ position →
          ((position : Int) < settled first + settled count ↔
            (position : Int) < first.toInt + count.toInt))) ∧
    ∀ whole : Whole, (whole.toInt.natAbs ≤ twoPow 52 → settled whole = whole.toInt) ∧
      (twoPow 52 < whole.toInt.natAbs → whole.toInt.natAbs < twoPow 53 →
        settled whole = whole.toInt + whole.toInt % 2) := by
  rw [substring?_start isStart, substring?_length isStart isLength]
  refine ⟨fun told => ⟨congrArg some (slice_start told), fun toldEnd =>
    congrArg some (slice_wholes told toldEnd)⟩, fun short => ?_,
    fun whole => ⟨settled_of_small, settled_of_middle⟩⟩
  have piece : String.ofList (slice text.lexical.toList (Number.whole first).toDouble
      (some (Number.whole count).toDouble)) =
        charactersBetween first.toInt (settled first + settled count) text.lexical :=
    slice_settled short
  rw [piece]
  exact ⟨rfl, Option.some_inj.trans charactersBetween_eq_iff⟩

/-- A length that leads beyond all 64-bit positions. -/
theorem substring?_wholes_greatestLength :
    let text := Literal.plain "metadata"
    let start := Literal.plain "4"
    let length := Literal.plain "9223372036854775807"
    let first : Whole := ⟨4, by decide, by decide⟩
    let count : Whole := ⟨9223372036854775807, by decide, by decide⟩
    start.number? = some (.whole first) ∧ length.number? = some (.whole count) ∧
      substring? [text, start, length] =
        some (charactersBetween first.toInt (first.toInt + count.toInt) text.lexical) ∧
      charactersBetween first.toInt (first.toInt + count.toInt) text.lexical = "adata" := by
  intro text start length first count
  have isStart : start.number? = some (.whole first) := by decide
  have isLength : length.number? = some (.whole count) := by decide
  obtain ⟨exactly, -, -⟩ := @substring?_wholes text start length first count isStart isLength
  obtain ⟨-, between⟩ := exactly (.inl (by decide))
  exact ⟨isStart, isLength, between (.inr (by decide)), by decide⟩

/-- From position `-2 ^ 52` on, `2 ^ 52 + 1` characters end before the first one, but the odd length
is raised by one, so that the first character is kept. -/
theorem substring?_oddLength_ne :
    let text := Literal.plain "abc"
    let start := Literal.plain "-4503599627370496"
    let length := Literal.plain "4503599627370497"
    let first : Whole := ⟨-4503599627370496, by decide, by decide⟩
    let count : Whole := ⟨4503599627370497, by decide, by decide⟩
    start.number? = some (.whole first) ∧ length.number? = some (.whole count) ∧
      substring? [text, start, length] = some "a" ∧
      charactersBetween first.toInt (first.toInt + count.toInt) text.lexical = "" := by
  decide +kernel

end RuleAtoms.TextFunctions
