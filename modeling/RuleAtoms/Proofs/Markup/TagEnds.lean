/-
**Where a written tag ends.**

A tag is written as a body between brackets, and read up to the first bracket outside of quotes. This
is the bracket behind the body exactly when the quotes in the body pair up (`balanced_iff`). If they
do not, more or less than the body is read, but then not as the same tag: a part of a tag in which the
same name and the same attributes are read differs from the body in blanks only, and there are none
at the end of a body, nor does one follow it.

* `blank_of_tagParts?`: two parts of a document, one in front of the other, that are read as the same
  name and attributes differ in blanks;
* `eq_bodyOf_of_tagParts?`: what is read as the name and attributes of a written tag is its body;
* `quotesPair_of_tag?`: so the quotes pair up in a tag that is read as it was written.
-/

import RuleAtoms.Proofs.Markup.Tags

namespace RuleAtoms.Markup

open Text (Ends)

/-! ### Quotes -/

/-- Whether the quotes in a part of a tag pair up, without a closing bracket outside of them;
`open?` is the quote that is open in front of the part. -/
def quotesPair : Option Char → List Char → Bool
  | open?, [] => open?.isNone
  | none, c :: rest =>
    c != '>' && quotesPair (if c == '"' || c == '\'' then some c else none) rest
  | some quote, c :: rest => quotesPair (if c == quote then none else some quote) rest

section Quotes

variable {open? : Option Char} {part rest tail : List Char}

/-- Behind a part in which the quotes pair up, the tag goes on outside of quotes. -/
theorem tagBody?_append (paired : quotesPair open? part = true) (rest : List Char) :
    tagBody? open? (part ++ rest) =
      (tagBody? none rest).map fun (body, tail) => (part ++ body, tail) := by
  fun_induction quotesPair open? part with
  | case1 open? =>
    rw [Option.isNone_iff_eq_none.mp paired, List.nil_append]
    exact Option.map_id'.symm
  | case2 c part ih =>
    obtain ⟨noEnd, paired⟩ := (Bool.and_eq_true _ _).mp paired
    rw [List.cons_append, tagBody?, if_neg (by simpa using noEnd), ih paired, Option.map_map]
    rfl
  | case3 quote c part ih =>
    rw [List.cons_append, tagBody?, ih paired, Option.map_map]
    rfl

/-- If a tag ends in the bracket behind a part, the quotes in this part pair up. -/
theorem quotesPair_of_tagBody? (found : tagBody? open? (part ++ '>' :: rest) = some (part, tail)) :
    quotesPair open? part = true := by
  induction part generalizing open? with
  | nil =>
    cases open? with
    | none => rfl
    | some quote =>
      obtain ⟨_, -, same⟩ := Option.map_eq_some_iff.mp found
      exact absurd (Prod.mk.inj same).1 (List.cons_ne_nil _ _)
  | cons c part ih =>
    rw [List.cons_append] at found
    cases open? with
    | none =>
      rw [tagBody?] at found
      split at found
      · exact absurd (Prod.mk.inj (Option.some.inj found)).1.symm (List.cons_ne_nil _ _)
      · rename_i noEnd
        obtain ⟨⟨body, left⟩, inner, same⟩ := Option.map_eq_some_iff.mp found
        cases same
        rw [quotesPair, Bool.and_eq_true]
        exact ⟨by simpa using noEnd, ih inner⟩
    | some quote =>
      rw [tagBody?] at found
      obtain ⟨⟨body, left⟩, inner, same⟩ := Option.map_eq_some_iff.mp found
      cases same
      exact ih inner

/-- **A part is balanced** exactly when the quotes in it pair up. -/
theorem balanced_iff : Balanced part ↔ quotesPair none part = true := by
  constructor
  · intro balanced
    exact quotesPair_of_tagBody? (tagBody?_of_balanced balanced [])
  · intro paired rest
    exact tagBody?_append paired rest

/-- A slash is no quote. -/
theorem quotesPair_of_slash (noSlash : open? ≠ some '/')
    (paired : quotesPair open? (part ++ ['/']) = true) : quotesPair open? part = true := by
  fun_induction quotesPair open? part with
  | case1 open? =>
    cases open? with
    | none => rfl
    | some quote =>
      have other : '/' ≠ quote := by
        rintro rfl
        exact noSlash rfl
      simp [quotesPair, other] at paired
  | case2 c part ih =>
    obtain ⟨noEnd, paired⟩ := (Bool.and_eq_true _ _).mp paired
    rw [noEnd, Bool.true_and]
    refine ih ?_ paired
    split
    · rename_i isQuote
      rintro ⟨rfl⟩
      exact absurd isQuote (by decide)
    · exact nofun
  | case3 quote c part ih =>
    refine ih ?_ paired
    split
    · exact nofun
    · exact noSlash

end Quotes

/-! ### The same name and attributes -/

section Parts

variable {name : String} {attributes : Keyed String} {part more : List Char}

/-- **Two parts with one name and the same attributes**, one in front of the other, differ in
blanks. -/
theorem blank_of_tagParts? {found : List Char × Keyed String} (shorter : tagParts? part = some found)
    (longer : tagParts? (part ++ more) = some found) : ∀ c ∈ more, isTagBlank c = true := by
  obtain ⟨known, isKnown, rfl⟩ := Option.map_eq_some_iff.mp shorter
  obtain ⟨again, isAgain, same⟩ := Option.map_eq_some_iff.mp longer
  obtain ⟨sameName, rfl⟩ := Prod.mk.inj same
  obtain ⟨name, behind, rfl, visible, ends⟩ := Text.exists_run (!isTagBlank ·) part
  have allEnd : Ends (!isTagBlank ·) (behind ++ more) := by
    cases behind with
    | cons c others => exact Text.ends_cons (ends c rfl)
    | nil =>
      obtain ⟨run, others, rfl, inRun, runEnds⟩ := Text.exists_run (!isTagBlank ·) more
      rw [List.append_nil, List.takeWhile_append_of_pos visible, Text.takeWhile_run inRun runEnds,
        List.takeWhile_eq_self_iff.mpr visible, List.append_right_eq_self] at sameName
      rwa [sameName]
  rw [Text.dropWhile_run visible ends] at isKnown
  rw [List.append_assoc, Text.dropWhile_run visible allEnd,
    (attributesRead_of_attributesBehind? isKnown).append] at isAgain
  exact (attributesRead_of_attributesBehind? isAgain).blank

/-- The last character of a body is no blank. -/
theorem IsTag.visible_getLast? (isTag : IsTag name attributes) :
    ∀ c ∈ (bodyOf name attributes).getLast?, isTagBlank c = false := by
  intro c isLast
  rw [getLast?_bodyOf] at isLast
  split at isLast
  · exact isTag.noBlank c (List.mem_of_getLast? isLast)
  · obtain rfl := Option.mem_some_iff.mp isLast
    decide

/-- **What is read as a written tag** is its body, in front of anything that is no blank. What is
read beyond the body, or left of it, would be blank. -/
theorem eq_bodyOf_of_tagParts? (isTag : IsTag name attributes) {rest tail : List Char}
    (visible : Ends isTagBlank tail) (same : part ++ rest = bodyOf name attributes ++ tail)
    (parts : tagParts? part = some (name.toList, attributes)) : part = bodyOf name attributes := by
  have written := tagParts?_bodyOf isTag
  rcases List.append_eq_append_iff.mp same with ⟨more, isBody, -⟩ | ⟨more, isPart, isTail⟩
  · rw [isBody] at written ⊢
    have blank := blank_of_tagParts? parts written
    rcases List.eq_nil_or_concat more with rfl | ⟨front, last, rfl⟩
    · rw [List.append_nil]
    · have noBlank := isTag.visible_getLast? last (by simp [isBody])
      exact absurd (noBlank.symm.trans (blank last (by simp))) Bool.false_ne_true
  · rw [isPart] at parts ⊢
    have blank := blank_of_tagParts? written parts
    cases more with
    | nil => rw [List.append_nil]
    | cons first others =>
      have noBlank := visible first (by rw [isTail]; rfl)
      exact absurd (noBlank.symm.trans (blank first List.mem_cons_self)) Bool.false_ne_true

/-- **In a tag that is read as it was written** the quotes pair up, and one that is not written as a
single tag does not end in a slash. -/
theorem quotesPair_of_tag? (isTag : IsTag name attributes) {rest tail : List Char} {piece : Piece}
    (visible : Ends isTagBlank tail) (found : tag? (bodyOf name attributes ++ tail) = some (piece, rest))
    (named : piece = .opening name.toList attributes ∨ piece = .single name.toList attributes) :
    quotesPair none (bodyOf name attributes) = true ∧
      (tail.head? = some '>' → (bodyOf name attributes).getLast? ≠ some '/') := by
  obtain ⟨part, characters, others, parts, ⟨rfl, isBody⟩ | ⟨rfl, noSlash, isBody⟩⟩ :=
    tag?_eq_some found
  · obtain ⟨rfl, rfl⟩ : characters = name.toList ∧ others = attributes := by simpa using named
    have same := tagBody?_eq_some isBody
    rw [List.append_assoc] at same
    obtain rfl := eq_bodyOf_of_tagParts? isTag visible same.symm parts
    have isTail := List.append_cancel_left same
    rw [isTail, ← List.append_assoc] at isBody
    refine ⟨quotesPair_of_slash (by decide) (quotesPair_of_tagBody? isBody), fun isEnd => ?_⟩
    rw [isTail] at isEnd
    exact absurd isEnd (by simp)
  · obtain ⟨rfl, rfl⟩ : characters = name.toList ∧ others = attributes := by simpa using named
    have same := tagBody?_eq_some isBody
    obtain rfl := eq_bodyOf_of_tagParts? isTag visible same.symm parts
    rw [same] at isBody
    exact ⟨quotesPair_of_tagBody? isBody, fun _ => noSlash⟩

end Parts

end RuleAtoms.Markup
