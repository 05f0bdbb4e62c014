/-
**Elements read back.**

Writing goes down a tree of elements; reading goes along the pieces of a document with a stack of
the elements that are still open. The law that joins the two is about one written element in front
of anything: reading passes over it, and adds it to what surrounds it (`readBehind_write`). It holds
of the elements in which every tag ends where it was written to end (`Element.Legible`), as it does
when all names are usual (`Element.WellNamed.legible`).

* `read_write_of_legible`: a written element is read as itself, up to blank text beside children,
  which reading drops (`Element.normal`);
* `read_write_normal`: so it is when its names are usual.
-/

import RuleAtoms.Markup.Reader
import RuleAtoms.Proofs.Markup.Tags

namespace RuleAtoms.Markup

namespace Element

mutual

/-- The element without the blank texts that stand beside children. -/
def normal : Element → Element
  | node name attributes text children =>
    let dropped := !children.isEmpty && (Text.trim text.toList).isEmpty
    node name attributes (if dropped then "" else text) (normalAll children)

def normalAll : List Element → List Element
  | [] => []
  | child :: rest => normal child :: normalAll rest

end

/-- All names in the element, of elements and of attributes, end where they were written to end. -/
inductive WellNamed : Element → Prop
  | node (name : String) (attributes : Keyed String) (text : String) (children : List Element)
      (isName : IsName name) (names : ∀ entry ∈ attributes.entries, IsName entry.1)
      (inner : ∀ child ∈ children, WellNamed child) :
      WellNamed (node name attributes text children)

/-- Every tag in the element ends where it was written to end, as a tag of its kind: a single one has
something in it, and one with content behind it is not read as a single one, nor is its name cut in
the closing tag. -/
inductive Legible : Element → Prop
  | node (name : String) (attributes : Keyed String) (text : String) (children : List Element)
      (isTag : IsTag name attributes) (balanced : Balanced (bodyOf name attributes))
      (bare : (children.isEmpty && text.isEmpty) = true → bodyOf name attributes ≠ [])
      (content : (children.isEmpty && text.isEmpty) = false →
        (bodyOf name attributes).getLast? ≠ some '/' ∧ '>' ∉ name.toList)
      (inner : ∀ child ∈ children, Legible child) :
      Legible (node name attributes text children)

theorem WellNamed.legible {element : Element} (wellNamed : element.WellNamed) :
    element.Legible := by
  induction wellNamed with
  | node name attributes text children isName names _ legible =>
    obtain ⟨first, rest, characters, -⟩ := isName.exists_cons
    have balanced : Balanced (bodyOf name attributes) :=
      balanced_bodyOf isName.isPlain fun entry member => (names entry member).isPlain
    refine .node name attributes text children (isName.isTag names) balanced
      (fun _ => ?_) (fun _ => ⟨isName.getLast?_bodyOf_ne, fun inName => ?_⟩) legible
    · rw [bodyOf, characters, List.cons_append]
      exact List.cons_ne_nil _ _
    · exact absurd (isName.characters '>' inName) (by decide)

theorem isEmpty_normalAll (children : List Element) :
    (normalAll children).isEmpty = children.isEmpty := by
  cases children with
  | nil => rfl
  | cons child rest => rfl

end Element

open Element

section Reading

variable {reading : Reading} {rest : List Char}

/-! ### One piece -/

/-- Reading goes on behind a piece with what has been read after it. -/
theorem readBehind_of_nextPiece {text : List Char} {piece : Piece}
    (next : nextPiece? text = .ok (some (piece, rest))) (shorter : rest.length < text.length) :
    readBehind reading text = (reading.step piece).bind (readBehind · rest) := by
  rw [readBehind, next]
  simp only
  cases reading.step piece with
  | error error => rfl
  | ok after => exact if_pos shorter

/-- A piece is a piece of markup behind a bracket, or a run of text. -/
theorem nextPiece?_eq_some {text : List Char} {piece : Piece}
    (next : nextPiece? text = .ok (some (piece, rest))) :
    (∃ behind, text = '<' :: behind ∧ markup? behind = some (piece, rest)) ∨
      plainText? text = some (piece, rest) := by
  unfold nextPiece? at next
  split at next
  · cases next
  · cases next
  · rename_i behind _
    split at next
    · rename_i found
      cases next
      exact Or.inl ⟨behind, rfl, found⟩
    · cases next
  · split at next
    · rename_i found
      cases next
      exact Or.inr found
    · cases next

/-- A bracket begins a piece of markup. -/
theorem nextPiece?_markup {text : List Char} {piece : Piece}
    (isPiece : markup? text = some (piece, rest)) :
    nextPiece? ('<' :: text) = .ok (some (piece, rest)) := by
  cases text with
  | nil => cases isPiece
  | cons c others =>
    unfold nextPiece?
    simp only [isPiece]

/-- Reading goes on behind a piece of markup with what has been read after it. -/
theorem readBehind_markup {text : List Char} {piece : Piece}
    (isPiece : markup? text = some (piece, rest)) (shorter : rest.length ≤ text.length) :
    readBehind reading ('<' :: text) = (reading.step piece).bind (readBehind · rest) :=
  readBehind_of_nextPiece (nextPiece?_markup isPiece) (Nat.lt_succ_of_le shorter)

section Tags

variable {name : String} {attributes : Keyed String}

theorem readBehind_opening (isTag : IsTag name attributes)
    (balanced : Balanced (bodyOf name attributes))
    (noSlash : (bodyOf name attributes).getLast? ≠ some '/') :
    readBehind reading (writeTag name attributes ++ '>' :: rest) =
      readBehind ⟨.node name attributes "" [] :: reading.openElements, reading.root?⟩ rest := by
  have isMarkup : markup? (bodyOf name attributes ++ '>' :: rest) =
      some (.opening name.toList attributes, rest) := by
    rw [markup?_bodyOf isTag (fun _ c isFirst => ?_), tag?_opening isTag balanced noSlash]
    obtain rfl := Option.mem_some_iff.mp isFirst
    decide
  rw [writeTag_eq, List.cons_append, readBehind_markup isMarkup
    (by simp only [List.length_append, List.length_cons]; omega)]
  simp only [Reading.step, String.ofList_toList, Except.bind]

theorem readBehind_single (isTag : IsTag name attributes)
    (balanced : Balanced (bodyOf name attributes)) (nonempty : bodyOf name attributes ≠ []) :
    readBehind reading (writeTag name attributes ++ '/' :: '>' :: rest) =
      (reading.attach (.node name attributes "" [])).bind (readBehind · rest) := by
  have isMarkup : markup? (bodyOf name attributes ++ '/' :: '>' :: rest) =
      some (.single name.toList attributes, rest) := by
    rw [markup?_bodyOf isTag (fun isNil => absurd isNil nonempty), tag?_single isTag balanced]
  rw [writeTag_eq, List.cons_append, readBehind_markup isMarkup
    (by simp only [List.length_append, List.length_cons]; omega)]
  simp only [Reading.step, String.ofList_toList]

theorem readBehind_closing {text : String} {children outer : List Element} {root? : Option Element}
    (noBlank : ∀ c ∈ name.toList, isTagBlank c = false) (noAngle : '>' ∉ name.toList) :
    readBehind ⟨.node name attributes text children :: outer, root?⟩
        ('<' :: '/' :: (name.toList ++ '>' :: rest)) =
      (Reading.attach ⟨outer, root?⟩
        (Reading.closed (.node name attributes text children))).bind (readBehind · rest) := by
  rw [readBehind_markup (markup?_closing noBlank noAngle rest)
    (by simp only [List.length_append, List.length_cons]; omega)]
  simp only [Reading.step, Element.name, if_true]

end Tags

theorem escape_ne_nil {text : String} (nonempty : text ≠ "") : escape text.toList ≠ [] := by
  intro isNil
  have read := unescape_escape text.toList
  rw [isNil] at read
  exact nonempty (String.toList_inj.mp (Option.some.inj read).symm)

/-- An escaped text with something in it is a piece, up to the tag behind it. -/
theorem nextPiece?_text {text : String} (nonempty : text ≠ "") (rest : List Char) :
    nextPiece? (escape text.toList ++ '<' :: rest) =
      .ok (some (.text text.toList, '<' :: rest)) := by
  have noBracket := not_mem_escape (c := '<') (by decide) text.toList
  have isText := plainText?_escape text.toList rest
  obtain ⟨first, others, characters⟩ := List.exists_cons_of_ne_nil (escape_ne_nil nonempty)
  rw [characters] at noBracket isText ⊢
  unfold nextPiece?
  split
  · rename_i same
    exact nomatch same
  · rename_i same
    exact absurd (List.cons.inj same).1 (fun isBracket => noBracket (by simp [isBracket]))
  · rename_i same
    exact absurd (List.cons.inj same).1 (fun isBracket => noBracket (by simp [isBracket]))
  · rw [isText]

/-- A text is added to the innermost element; nothing is written for an empty one. -/
theorem readBehind_text {name : String} {attributes : Keyed String} {before text : String}
    {children outer : List Element} {root? : Option Element} :
    readBehind ⟨.node name attributes before children :: outer, root?⟩
        (escape text.toList ++ '<' :: rest) =
      readBehind ⟨.node name attributes (before ++ text) children :: outer, root?⟩
        ('<' :: rest) := by
  by_cases isEmpty : text = ""
  · subst isEmpty
    rw [String.append_empty]
    rfl
  · have shorter : ('<' :: rest).length < (escape text.toList ++ '<' :: rest).length := by
      rw [List.length_append]
      have someText := List.length_pos_iff.mpr (escape_ne_nil isEmpty)
      omega
    rw [readBehind_of_nextPiece (nextPiece?_text isEmpty rest) shorter]
    simp only [Reading.step, String.ofList_toList, Except.bind]

/-! ### One element -/

/-- Reading passes over the element, whatever has been read and whatever follows, and adds it
without its blank texts. -/
def IsPassed (element : Element) : Prop :=
  ∀ (reading : Reading) (rest : List Char), readBehind reading (element.write ++ rest) =
    (reading.attach element.normal).bind (readBehind · rest)

/-- Passing over children adds them, in reverse, to the element around them. -/
theorem readBehind_writeAll {children : List Element} (passed : ∀ child ∈ children, IsPassed child)
    {name : String} {attributes : Keyed String} {text : String} {before outer : List Element}
    {root? : Option Element} :
    readBehind ⟨.node name attributes text before :: outer, root?⟩ (writeAll children ++ rest) =
      readBehind
        ⟨.node name attributes text ((normalAll children).reverse ++ before) :: outer, root?⟩
        rest := by
  induction children generalizing before with
  | nil => rfl
  | cons child others ih =>
    have othersPassed : ∀ other ∈ others, IsPassed other :=
      fun other member => passed other (List.mem_cons_of_mem _ member)
    rw [writeAll, List.append_assoc, passed child List.mem_cons_self, Reading.attach]
    simp only [Except.bind]
    rw [ih othersPassed, normalAll, List.reverse_cons, List.append_assoc, List.singleton_append]

/-- What is written of children begins with a bracket. -/
theorem exists_writeAll_append (children : List Element) (rest : List Char) :
    ∃ others, writeAll children ++ '<' :: rest = '<' :: others := by
  cases children with
  | nil => exact ⟨rest, rfl⟩
  | cons child others =>
    obtain ⟨name, attributes, text, inner⟩ := child
    rw [writeAll, write]
    split
    · exact ⟨_, rfl⟩
    · exact ⟨_, rfl⟩

/-- **Reading passes over a written element** and adds it to what surrounds it. -/
theorem readBehind_write {element : Element} (legible : element.Legible) : IsPassed element := by
  induction legible with
  | node name attributes text children isTag balanced bare content _ passed =>
    intro reading rest
    rw [write]
    split
    · rename_i isBare
      have nonempty := bare isBare
      rw [Bool.and_eq_true, List.isEmpty_iff, String.isEmpty_iff] at isBare
      obtain ⟨rfl, rfl⟩ := isBare
      rw [List.append_assoc]
      exact readBehind_single isTag balanced nonempty
    · rename_i hasContent
      obtain ⟨noSlash, noAngle⟩ := content (Bool.not_eq_true _ ▸ hasContent)
      obtain ⟨others, isContent⟩ :=
        exists_writeAll_append children ('/' :: (name.toList ++ '>' :: rest))
      simp only [List.append_assoc, List.cons_append, List.nil_append]
      rw [readBehind_opening isTag balanced noSlash, isContent, readBehind_text, ← isContent,
        readBehind_writeAll passed, List.append_nil, String.empty_append,
        readBehind_closing isTag.noBlank noAngle, normal, Reading.closed, List.reverse_reverse,
        List.isEmpty_reverse, isEmpty_normalAll]

/-! ### One document -/

/-- A written element does not begin with a byte order mark. -/
theorem read_append (element : Element) (rest : List Char) :
    read (String.ofList (element.write ++ rest)) =
      readBehind Reading.start (element.write ++ rest) := by
  have noMark : Text.dropStart [Char.ofNat 0xFEFF] (element.write ++ rest) =
      element.write ++ rest := by
    obtain ⟨name, attributes, text, children⟩ := element
    rw [write]
    split
    · rfl
    · rfl
  unfold read
  rw [String.toList_ofList, noMark]

/-- **A legible element is read** as itself without its blank texts beside children. -/
theorem read_write_of_legible {element : Element} (legible : element.Legible) :
    read (String.ofList element.write) = .ok element.normal := by
  have whole := read_append element []
  rw [readBehind_write legible, List.append_nil] at whole
  rw [whole]
  change readBehind ⟨[], some element.normal⟩ [] = _
  rw [readBehind]
  rfl

/-- Behind a written element reading goes on with the element as the root. -/
theorem read_write_append {element : Element} (wellNamed : element.WellNamed) (rest : List Char) :
    read (String.ofList (element.write ++ rest)) = readBehind ⟨[], some element.normal⟩ rest := by
  rw [read_append, readBehind_write wellNamed.legible]
  rfl

/-- **A written element with usual names is read** as itself without its blank texts beside
children. -/
theorem read_write_normal {element : Element} (wellNamed : element.WellNamed) :
    read (String.ofList element.write) = .ok element.normal :=
  read_write_of_legible wellNamed.legible

/-- A line end behind a written element changes nothing. -/
theorem read_write_lineEnd {element : Element} (wellNamed : element.WellNamed) :
    read (String.ofList (element.write ++ ['\n'])) = .ok element.normal := by
  have atLineEnd : nextPiece? ['\n'] = .ok (some (.text ['\n'], [])) := rfl
  rw [read_write_append wellNamed, readBehind_of_nextPiece atLineEnd (by decide)]
  change readBehind ⟨[], some element.normal⟩ [] = _
  rw [readBehind]
  rfl

end Reading

end RuleAtoms.Markup
