/-
**A document does not end in text.**

Outside the root element there are only blanks and markup, and markup ends in a `>`. There is one
exception: a closing tag may lack its `>` at the very end. Take a document whose last character, up
to blanks, is a parenthesis. The parenthesis stands behind every piece that ends in a `>`, so it
stays the last character of what is left (`EndsInParenthesis.behind`). In the last piece it can only
be text, which is refused, or a part of the name that the last tag closes.

* `nextPiece?_of_endsInParenthesis`: what the next piece of such a document can be;
* `getLast?_name_of_read`: if it holds an element, the name of this element ends in the parenthesis.
-/

import RuleAtoms.Proofs.Markup.Trees

namespace RuleAtoms.Markup

/-- The last character that is no blank is a closing parenthesis. -/
def EndsInParenthesis (text : List Char) : Prop :=
  ∃ front blanks, text = front ++ ')' :: blanks ∧ ∀ c ∈ blanks, isTagBlank c = true

section Endings

variable {text rest : List Char}

theorem EndsInParenthesis.cons (ends : EndsInParenthesis rest) (c : Char) :
    EndsInParenthesis (c :: rest) := by
  obtain ⟨front, blanks, rfl, blank⟩ := ends
  exact ⟨c :: front, blanks, rfl, blank⟩

/-- What is left behind another character ends in the parenthesis too. -/
theorem EndsInParenthesis.behind {front : List Char} {mark : Char}
    (ends : EndsInParenthesis (front ++ mark :: rest)) (other : mark ≠ ')')
    (noBlank : isTagBlank mark = false) : EndsInParenthesis rest := by
  obtain ⟨before, blanks, same, blank⟩ := ends
  rcases List.append_eq_append_iff.mp same with ⟨between, -, split⟩ | ⟨between, -, split⟩
  · cases between with
    | nil => exact absurd (List.cons.inj split).1 other
    | cons first more => exact ⟨more, blanks, (List.cons.inj split).2, blank⟩
  · cases between with
    | nil => exact absurd (List.cons.inj split).1.symm other
    | cons first more =>
      have isBlank := blank mark (by rw [(List.cons.inj split).2]; simp)
      exact absurd (noBlank.symm.trans isBlank) Bool.false_ne_true

theorem EndsInParenthesis.tail {mark : Char} (ends : EndsInParenthesis (mark :: rest))
    (other : mark ≠ ')') (noBlank : isTagBlank mark = false) : EndsInParenthesis rest :=
  @behind rest [] mark ends other noBlank

theorem not_endsInParenthesis_nil : ¬ EndsInParenthesis [] := by
  rintro ⟨front, blanks, same, -⟩
  simp at same

theorem EndsInParenthesis.getLast?_ne {mark : Char} (ends : EndsInParenthesis text)
    (other : mark ≠ ')') (noBlank : isTagBlank mark = false) : text.getLast? ≠ some mark := by
  intro isLast
  obtain ⟨front, rfl⟩ := List.getLast?_eq_some_iff.mp isLast
  exact not_endsInParenthesis_nil (ends.behind other noBlank)

/-! ### Markup ends in an angle bracket -/

theorem untilAngleThat?_eq_some {stops : List Char → Bool} {seen body : List Char}
    (found : untilAngleThat? stops seen text = some (body, rest)) :
    ∃ front, text = front ++ '>' :: rest := by
  induction text generalizing seen with
  | nil => cases found
  | cons c text ih =>
    rw [untilAngleThat?] at found
    split at found
    · rename_i isEnd
      rw [Bool.and_eq_true, beq_iff_eq] at isEnd
      obtain ⟨-, rfl⟩ := Prod.mk.inj (Option.some.inj found)
      exact ⟨[], by rw [isEnd.1]; rfl⟩
    · obtain ⟨front, rfl⟩ := ih found
      exact ⟨c :: front, rfl⟩

/-- What is left of a text behind what precedes a mark begins with the mark. -/
theorem eq_append_of_dropWhile {mark c : Char} (left : text.dropWhile (· != mark) = c :: rest) :
    text = text.takeWhile (· != mark) ++ mark :: rest := by
  have isMark : c = mark := by
    have first := List.head?_dropWhile_not (· != mark) text
    rw [left] at first
    simpa using first
  have parts := List.takeWhile_append_dropWhile (p := (· != mark)) (l := text)
  rw [left, isMark] at parts
  exact parts.symm

/-- The first angle bracket is where a piece ends, if there is one. -/
theorem untilAngle_eq_or (text : List Char) :
    text = (untilAngle text).1 ++ '>' :: (untilAngle text).2 ∨ untilAngle text = (text, []) := by
  unfold untilAngle
  cases left : text.dropWhile (· != '>') with
  | nil =>
    have parts := List.takeWhile_append_dropWhile (p := (· != '>')) (l := text)
    rw [left, List.append_nil] at parts
    exact Or.inr (by rw [parts]; rfl)
  | cons c tail => exact Or.inl (eq_append_of_dropWhile left)

theorem EndsInParenthesis.behind_instruction? {piece : Piece} (ends : EndsInParenthesis text)
    (found : instruction? text = some (piece, rest)) : EndsInParenthesis rest := by
  unfold instruction? at found
  rcases untilAngle_eq_or text with hasAngle | noAngle
  · simp only [Option.ite_none_right_eq_some, Option.some.injEq, Prod.mk.injEq] at found
    rw [hasAngle, found.2.2] at ends
    exact ends.behind (by decide) (by decide)
  · rw [noAngle] at found
    simp only [Option.ite_none_right_eq_some] at found
    exact absurd found.1.2 (ends.getLast?_ne (by decide) (by decide))

theorem EndsInParenthesis.behind_untilAngleThat? {stops : List Char → Bool} {body : List Char}
    (ends : EndsInParenthesis text) (found : untilAngleThat? stops [] text = some (body, rest)) :
    EndsInParenthesis rest := by
  obtain ⟨front, rfl⟩ := untilAngleThat?_eq_some found
  exact ends.behind (by decide) (by decide)

theorem EndsInParenthesis.behind_markedOff? {piece : Piece} (ends : EndsInParenthesis text)
    (found : markedOff? text = some (piece, rest)) : EndsInParenthesis rest := by
  unfold markedOff? comment? markedText? documentType? at found
  split at found
  case h_5 => cases found
  all_goals
    obtain ⟨⟨body, tail⟩, isBody, isMade⟩ := Option.bind_eq_some_iff.mp found
    simp only [Option.ite_none_right_eq_some, Option.some.injEq, Prod.mk.injEq] at isMade
    exact isMade.2.2 ▸ ends.behind_untilAngleThat? isBody

theorem EndsInParenthesis.behind_tag? {piece : Piece} (ends : EndsInParenthesis text)
    (found : tag? text = some (piece, rest)) : EndsInParenthesis rest := by
  obtain ⟨part, name, attributes, -, ⟨-, isBody⟩ | ⟨-, -, isBody⟩⟩ := tag?_eq_some found
  · rw [tagBody?_eq_some isBody] at ends
    exact ends.behind (by decide) (by decide)
  · rw [tagBody?_eq_some isBody] at ends
    exact ends.behind (by decide) (by decide)

/-! ### Texts and closing tags -/

/-- A reference that is not ended is no text. -/
theorem unescapeInside_of_unended (name : List Char) (unended : ';' ∉ text) :
    unescapeInside (some name) text = none := by
  induction text generalizing name with
  | nil => rfl
  | cons c text ih =>
    obtain ⟨other, notLater⟩ := not_or.mp (fun member => unended (List.mem_cons.mpr member))
    rw [unescapeInside, if_neg (Ne.symm other)]
    split
    · rfl
    · exact ih _ notLater

/-- The parenthesis is not a part of a reference, so it stays when references are replaced. -/
theorem mem_of_unescapeInside {name? : Option (List Char)} {denoted : List Char}
    (ends : EndsInParenthesis text) (found : unescapeInside name? text = some denoted) :
    ')' ∈ denoted := by
  obtain ⟨front, blanks, rfl, blank⟩ := ends
  have unended : ';' ∉ blanks := fun member => absurd (blank ';' member) (by decide)
  induction front generalizing name? denoted with
  | nil =>
    cases name? with
    | none =>
      obtain ⟨others, -, rfl⟩ := Option.map_eq_some_iff.mp found
      exact List.mem_cons_self
    | some name =>
      have failed := unescapeInside_of_unended (')' :: name) unended
      rw [List.nil_append, unescapeInside, if_neg (by decide), if_neg (by decide), failed] at found
      cases found
  | cons c front ih =>
    rw [List.cons_append] at found
    cases name? with
    | none =>
      rw [unescapeInside] at found
      split at found
      · exact ih found
      · obtain ⟨others, isOthers, rfl⟩ := Option.map_eq_some_iff.mp found
        exact List.mem_cons_of_mem _ (ih isOthers)
    | some name =>
      rw [unescapeInside] at found
      split at found
      · obtain ⟨first, -, isRest⟩ := Option.bind_eq_some_iff.mp found
        obtain ⟨others, isOthers, rfl⟩ := Option.map_eq_some_iff.mp isRest
        exact List.mem_cons_of_mem _ (ih isOthers)
      · split at found
        · cases found
        · exact ih found

/-- The name in a closing tag is cut behind the parenthesis. -/
theorem getLast?_trimName (ends : EndsInParenthesis text) :
    (trimName text).getLast? = some ')' := by
  obtain ⟨front, blanks, rfl, blank⟩ := ends
  have isRun : ∀ c ∈ blanks.reverse, isTagBlank c = true :=
    fun c member => blank c (List.mem_reverse.mp member)
  have trimmed : ((front ++ ')' :: blanks).reverse.dropWhile isTagBlank).reverse =
      front ++ [')'] := by
    rw [List.reverse_append, List.reverse_cons, List.append_assoc, List.singleton_append,
      Text.dropWhile_run isRun (Text.ends_cons (by decide)), List.reverse_cons,
      List.reverse_reverse]
  unfold trimName
  simp only [trimmed]
  rw [if_neg (by simp), List.getLast?_concat]

/-- A piece that is the last one although the document ends in a parenthesis. -/
inductive IsLast : Piece → Prop
  | closing {name : List Char} (last : name.getLast? = some ')') : IsLast (.closing name)
  | text {more : List Char} (member : ')' ∈ more) : IsLast (.text more)

theorem EndsInParenthesis.behind_markup? {piece : Piece} (ends : EndsInParenthesis text)
    (found : markup? text = some (piece, rest)) :
    EndsInParenthesis rest ∨ rest = [] ∧ IsLast piece := by
  unfold markup? at found
  split at found
  · rename_i tail
    have behind : EndsInParenthesis tail := ends.tail (by decide) (by decide)
    rcases untilAngle_eq_or tail with hasAngle | noAngle
    · obtain ⟨-, rfl⟩ := Prod.mk.inj (Option.some.inj found)
      rw [hasAngle] at behind
      exact Or.inl (behind.behind (by decide) (by decide))
    · rw [noAngle] at found
      obtain ⟨rfl, rfl⟩ := Prod.mk.inj (Option.some.inj found)
      exact Or.inr ⟨rfl, .closing (getLast?_trimName behind)⟩
  · rename_i tail
    have behind : EndsInParenthesis tail := ends.tail (by decide) (by decide)
    exact Or.inl (behind.behind_instruction? found)
  · rename_i tail
    have behind : EndsInParenthesis tail := ends.tail (by decide) (by decide)
    exact Or.inl (behind.behind_markedOff? found)
  · exact Or.inl (ends.behind_tag? found)

theorem EndsInParenthesis.behind_plainText? {piece : Piece} (ends : EndsInParenthesis text)
    (found : plainText? text = some (piece, rest)) :
    EndsInParenthesis rest ∨ rest = [] ∧ IsLast piece := by
  obtain ⟨denoted, isDenoted, same⟩ := Option.map_eq_some_iff.mp found
  obtain ⟨rfl, rfl⟩ := Prod.mk.inj same
  cases left : text.dropWhile (· != '<') with
  | nil =>
    have parts := List.takeWhile_append_dropWhile (p := (· != '<')) (l := text)
    rw [left, List.append_nil] at parts
    rw [parts] at isDenoted
    exact Or.inr ⟨rfl, .text (mem_of_unescapeInside ends isDenoted)⟩
  | cons c tail =>
    rw [eq_append_of_dropWhile left] at ends
    exact Or.inl ((ends.behind (by decide) (by decide)).cons c)

/-- **The next piece** of a document that ends in a parenthesis: it stands in front of the
parenthesis, or is the last one. -/
theorem nextPiece?_of_endsInParenthesis {piece : Piece} (ends : EndsInParenthesis text)
    (next : nextPiece? text = .ok (some (piece, rest))) :
    EndsInParenthesis rest ∨ rest = [] ∧ IsLast piece := by
  rcases nextPiece?_eq_some next with ⟨behind, rfl, found⟩ | found
  · have behindEnds : EndsInParenthesis behind := ends.tail (by decide) (by decide)
    exact behindEnds.behind_markup? found
  · exact ends.behind_plainText? found

/-- A document that ends in a parenthesis is not at its end. -/
theorem nextPiece?_ne_none (ends : EndsInParenthesis text) : nextPiece? text ≠ .ok none := by
  intro atEnd
  unfold nextPiece? at atEnd
  split at atEnd
  · exact not_endsInParenthesis_nil ends
  · exact not_endsInParenthesis_nil (ends.tail (by decide) (by decide))
  · split at atEnd <;> cases atEnd
  · split at atEnd <;> cases atEnd

/-! ### The element of the document -/

/-- What can be read after the last piece: it closes the root, whose name ends in the
parenthesis. -/
theorem getLast?_name_of_isLast {reading after : Reading} {piece : Piece} {element : Element}
    (last : IsLast piece) (stepped : reading.step piece = .ok after)
    (finished : after.finish = .ok element) : element.name.toList.getLast? = some ')' := by
  obtain ⟨openElements, root?⟩ := reading
  cases last with
  | @closing name last =>
    cases openElements with
    | nil => cases stepped
    | cons innermost outer =>
      simp only [Reading.step] at stepped
      split at stepped
      · rename_i same
        cases outer with
        | nil =>
          cases root? with
          | some root => cases stepped
          | none =>
            cases stepped
            cases finished
            obtain ⟨name, attributes, text, children⟩ := innermost
            exact same ▸ last
        | cons around outer =>
          obtain ⟨name, attributes, text, children⟩ := around
          cases stepped
          cases finished
      · cases stepped
  | @text more member =>
    cases openElements with
    | nil =>
      have visible : (Text.trim more).isEmpty = false :=
        List.isEmpty_eq_false_iff.mpr (Text.trim_ne_nil member (by decide))
      simp only [Reading.step, visible, Bool.false_eq_true, if_false] at stepped
      cases stepped
    | cons innermost outer =>
      obtain ⟨name, attributes, text, children⟩ := innermost
      cases stepped
      cases finished

/-- **The element of a document that ends in a parenthesis** has a name that ends in it. -/
theorem getLast?_name_of_readBehind {reading : Reading} {element : Element}
    (ends : EndsInParenthesis text) (isRead : readBehind reading text = .ok element) :
    element.name.toList.getLast? = some ')' := by
  fun_induction readBehind reading text with
  | case1 => cases isRead
  | case2 reading text atEnd => exact absurd atEnd (nextPiece?_ne_none ends)
  | case3 => cases isRead
  | case4 reading text piece rest next after stepped shorter ih =>
    rcases nextPiece?_of_endsInParenthesis ends next with restEnds | ⟨rfl, last⟩
    · exact ih restEnds isRead
    · rw [readBehind] at isRead
      exact getLast?_name_of_isLast last stepped isRead
  | case5 => cases isRead

theorem getLast?_name_of_read {document : String} {element : Element}
    (ends : EndsInParenthesis document.toList) (isRead : read document = .ok element) :
    element.name.toList.getLast? = some ')' := by
  refine getLast?_name_of_readBehind ?_ isRead
  unfold Text.dropStart
  cases marked : List.isPrefixOf? [Char.ofNat 0xFEFF] document.toList with
  | none => exact ends
  | some behindMark =>
    rw [Text.eq_append_of_isPrefixOf? marked] at ends
    exact ends.tail (by decide) (by decide)

end Endings

end RuleAtoms.Markup
