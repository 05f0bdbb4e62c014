/-
**Which elements are read again.**

Names are written as they were read, so that a tag may end where it was not written to end. A tag
holds (`tagHolds`) if the quotes in it pair up, a single one has something in it, and no other one ends
in a slash.

If all tags hold, reading passes over the written element. Conversely, let the written element be
read as itself. Whatever has been read on the way is a part of it (`LeadsTo`), so the stack of open
elements is a path in it, which tells the element that has to be read next (`nextOf?`). A tag that
does not hold would be read as some other element.

* `leadsTo_of_reads`: what has been read is a part of the element that is read in the end;
* `allTags_of_readBehind`: if the element that has to be read next is what is written next, its tags
  hold;
* `read_write_of_read`: what is read of a document is read again from what is written of it if and
  only if its tags hold;
* `read_write_of_isPlainTag`: so it is if its names are not empty, do not end in a slash, and hold
  neither brackets nor quotes.
-/

import RuleAtoms.Proofs.Markup.Parsed
import RuleAtoms.Proofs.Markup.TagEnds

namespace RuleAtoms.Markup

open Text (Ends)

namespace Element

/-! ### Tags that hold -/

mutual

/-- Whether all tags of an element pass a test. A tag is given by its name, its attributes and whether
it is a single one, of an element without content. -/
def allTags (test : String → Keyed String → Bool → Bool) : Element → Bool
  | node name attributes text children =>
    test name attributes (children.isEmpty && text.isEmpty) && allTagsIn test children

def allTagsIn (test : String → Keyed String → Bool → Bool) : List Element → Bool
  | [] => true
  | child :: rest => allTags test child && allTagsIn test rest

end

theorem allTagsIn_eq_true_iff {test : String → Keyed String → Bool → Bool}
    {children : List Element} :
    allTagsIn test children = true ↔ ∀ child ∈ children, child.allTags test = true := by
  induction children with
  | nil => exact ⟨fun _ => List.forall_mem_nil _, fun _ => rfl⟩
  | cons child rest ih => rw [allTagsIn, Bool.and_eq_true, ih, List.forall_mem_cons]

mutual

/-- A test that implies another one does so for all tags. -/
theorem allTags_mono {test other : String → Keyed String → Bool → Bool}
    (implies : ∀ {name attributes single}, test name attributes single = true →
      other name attributes single = true) :
    ∀ element : Element, element.allTags test = true → element.allTags other = true
  | node _ _ _ children, passed => by
    rw [allTags, Bool.and_eq_true] at passed ⊢
    exact ⟨implies passed.1, allTagsIn_mono implies children passed.2⟩

theorem allTagsIn_mono {test other : String → Keyed String → Bool → Bool}
    (implies : ∀ {name attributes single}, test name attributes single = true →
      other name attributes single = true) :
    ∀ children : List Element, allTagsIn test children = true → allTagsIn other children = true
  | [], _ => rfl
  | child :: rest, passed => by
    rw [allTagsIn, Bool.and_eq_true] at passed ⊢
    exact ⟨allTags_mono implies child passed.1, allTagsIn_mono implies rest passed.2⟩

end

/-- Whether a tag ends where it is written to end, as a tag of its kind: the quotes in it pair up, a
single one has something in it, and no other one ends in a slash. -/
def tagHolds (name : String) (attributes : Keyed String) (single : Bool) : Bool :=
  let body := bodyOf name attributes
  quotesPair none body && if single then !body.isEmpty else body.getLast? != some '/'

/-- **What has been read is legible** if its tags hold. -/
theorem Parsed.legible {element : Element} (parsed : element.Parsed) :
    element.allTags tagHolds = true → element.Legible := by
  induction parsed with
  | node name attributes text children isTag noAngle _ _ legible =>
    intro hold
    rw [allTags, Bool.and_eq_true, allTagsIn_eq_true_iff, tagHolds, Bool.and_eq_true] at hold
    obtain ⟨⟨paired, ends⟩, inner⟩ := hold
    refine .node name attributes text children isTag (balanced_iff.mpr paired) (fun isBare => ?_)
      (fun hasContent => ⟨?_, noAngle hasContent⟩)
      (fun child member => legible child member (inner child member))
    · rw [isBare, if_pos rfl] at ends
      simpa using ends
    · rw [hasContent, if_neg Bool.false_ne_true] at ends
      simpa using ends

end Element

open Element

/-! ### What has to be read next -/

/-- The element of the whole that stands where the next child of the innermost open element will
stand. The open elements are a path, on which the number of children read so far tells the way. -/
def nextOf? : List Element → Element → Option Element
  | [], whole => some whole
  | .node _ _ _ children :: outer, whole =>
    (nextOf? outer whole).bind fun around => around.children[children.length]?

/-- Every open element is a part of the whole as far as it has been read, up to its text. -/
def IsPath (whole : Element) : List Element → Prop
  | [] => True
  | .node name attributes _ children :: outer =>
    IsPath whole outer ∧ ∃ text others,
      nextOf? outer whole = some (.node name attributes text others) ∧ children.reverse <+: others

/-- What has been read is a part of the whole. -/
def LeadsTo (whole : Element) : Reading → Prop
  | ⟨openElements, none⟩ => IsPath whole openElements
  | ⟨openElements, some root⟩ => openElements = [] ∧ root = whole

section Runs

variable {whole element : Element} {reading after : Reading} {piece : Piece}

/-- While an element is open there is no root yet. -/
theorem isPath_of_leadsTo {innermost : Element} {outer : List Element} {root? : Option Element}
    (leads : LeadsTo whole ⟨innermost :: outer, root?⟩) :
    root? = none ∧ IsPath whole (innermost :: outer) := by
  cases root? with
  | none => exact ⟨rfl, leads⟩
  | some root => exact absurd leads.1 (List.cons_ne_nil _ _)

/-- An element that is added is the one that had to be read next. -/
theorem nextOf?_of_attach (attached : reading.attach element = .ok after)
    (leads : LeadsTo whole after) :
    LeadsTo whole reading ∧ reading.root? = none ∧
      nextOf? reading.openElements whole = some element := by
  rcases attach_eq_ok attached with ⟨name, attributes, text, children, outer, isOpen, rfl⟩ | ⟨rfl, rfl⟩
  · obtain ⟨openElements, root?⟩ := reading
    obtain rfl : openElements = _ := isOpen
    obtain ⟨rfl, path, found, others, isNext, added⟩ := isPath_of_leadsTo leads
    rw [List.reverse_cons] at added
    refine ⟨⟨path, found, others, isNext, (List.prefix_append _ _).trans added⟩, rfl, ?_⟩
    obtain ⟨behind, rfl⟩ := added
    rw [nextOf?, isNext, Option.bind_some, Element.children]
    simp
  · obtain ⟨-, rfl⟩ := leads
    exact ⟨trivial, rfl, rfl⟩

/-- **One step back**: what has been read before a piece is a part of the whole too. -/
theorem leadsTo_of_steps (steps : Steps reading piece after) (leads : LeadsTo whole after) :
    LeadsTo whole reading := by
  cases steps with
  | opened openElements root? name attributes =>
    obtain ⟨rfl, path, -⟩ := isPath_of_leadsTo leads
    exact path
  | single attached => exact (nextOf?_of_attach attached leads).1
  | @closed innermost outer root? _ attached =>
    obtain ⟨path, noRoot, isNext⟩ := nextOf?_of_attach attached leads
    obtain ⟨name, attributes, text, children⟩ := innermost
    obtain rfl : root? = none := noRoot
    exact ⟨path, _, _, isNext, List.prefix_rfl⟩
  | text name attributes before children outer root? more =>
    obtain ⟨rfl, path⟩ := isPath_of_leadsTo leads
    exact path
  | blank => exact leads
  | skipped => exact leads

/-- **What has been read** is a part of the element that is read in the end. -/
theorem leadsTo_of_reads (reads : Reads whole reading) : LeadsTo whole reading := by
  induction reads with
  | finish finished =>
    rw [finish_eq_ok finished]
    exact ⟨rfl, rfl⟩
  | step _ steps _ ih => exact leadsTo_of_steps steps ih

/-- A closed element has no further child. -/
theorem nextOf?_of_closed {innermost : Element} {outer : List Element}
    (attached : Reading.attach ⟨outer, none⟩ (Reading.closed innermost) = .ok after)
    (leads : LeadsTo whole after) : nextOf? (innermost :: outer) whole = none := by
  obtain ⟨-, -, isNext⟩ := nextOf?_of_attach attached leads
  obtain ⟨name, attributes, text, children⟩ := innermost
  rw [nextOf?, isNext, Option.bind_some, Reading.closed, Element.children]
  simp

/-! ### What is read next -/

variable {openElements : List Element} {text rest : List Char}

/-- If a document is read to its end, the piece that begins with its first bracket is read. -/
theorem exists_steps_of_readBehind (nonempty : text ≠ [])
    (isRead : readBehind reading ('<' :: text) = .ok whole) :
    ∃ piece rest after, markup? text = some (piece, rest) ∧ Steps reading piece after ∧
      LeadsTo whole after := by
  obtain ⟨first, others, rfl⟩ := List.exists_cons_of_ne_nil nonempty
  rw [readBehind] at isRead
  cases found : markup? (first :: others) with
  | none =>
    simp only [nextPiece?, found] at isRead
    cases isRead
  | some next =>
    obtain ⟨piece, rest⟩ := next
    simp only [nextPiece?_markup found] at isRead
    cases stepped : reading.step piece with
    | error error =>
      rw [stepped] at isRead
      cases isRead
    | ok after =>
      simp only [stepped] at isRead
      split at isRead
      · exact ⟨piece, rest, after, rfl, steps_of_step stepped,
          leadsTo_of_reads (reads_of_readBehind isRead)⟩
      · cases isRead

variable {name : String} {attributes : Keyed String} {content : String} {children : List Element}

/-- The tag in which an element begins has the name and the attributes of the one that has to be
read next. -/
theorem eq_of_tag?
    (isNext : nextOf? openElements whole = some (.node name attributes content children))
    (isTag : tag? text = some (piece, rest)) (steps : Steps ⟨openElements, none⟩ piece after)
    (leads : LeadsTo whole after) :
    piece = .opening name.toList attributes ∨ piece = .single name.toList attributes := by
  have kinds : ∃ found others, piece = .single found others ∨ piece = .opening found others := by
    obtain ⟨_, found, others, -, ⟨isSingle, -⟩ | ⟨isOpening, -⟩⟩ := tag?_eq_some isTag
    · exact ⟨found, others, Or.inl isSingle⟩
    · exact ⟨found, others, Or.inr isOpening⟩
  cases steps with
  | opened _ _ found others =>
    obtain ⟨-, _, _, isFound, -⟩ := leads
    rw [isNext] at isFound
    cases isFound
    exact Or.inl (by rw [String.toList_ofList])
  | single attached =>
    have isFound := (nextOf?_of_attach attached leads).2.2
    rw [isNext] at isFound
    cases isFound
    exact Or.inr (by rw [String.toList_ofList])
  | closed => simp at kinds
  | text => simp at kinds
  | blank => simp at kinds
  | skipped => simp at kinds

/-- In a written tag that begins what has to be read next, the quotes pair up. -/
theorem quotesPair_of_readBehind (isTag : IsTag name attributes)
    (isNext : nextOf? openElements whole = some (.node name attributes content children))
    {mark : Char} (visible : isTagBlank mark = false)
    (start : bodyOf name attributes = [] → mark ∉ ['/', '?', '!'])
    (isRead : readBehind ⟨openElements, none⟩ (writeTag name attributes ++ mark :: rest) =
      .ok whole) :
    quotesPair none (bodyOf name attributes) = true ∧
      (mark = '>' → (bodyOf name attributes).getLast? ≠ some '/') := by
  rw [writeTag_eq, List.cons_append] at isRead
  obtain ⟨piece, behind, after, found, steps, leads⟩ :=
    exists_steps_of_readBehind (List.append_ne_nil_of_right_ne_nil _ (List.cons_ne_nil _ _)) isRead
  have isMarkup : markup? (bodyOf name attributes ++ mark :: rest) =
      tag? (bodyOf name attributes ++ mark :: rest) := by
    refine markup?_bodyOf isTag fun isNil c isFirst => ?_
    obtain rfl := Option.mem_some_iff.mp isFirst
    exact start isNil
  rw [isMarkup] at found
  have paired := quotesPair_of_tag? isTag (Text.ends_cons visible) found
    (eq_of_tag? isNext found steps leads)
  exact ⟨paired.1, fun isEnd => paired.2 (by rw [isEnd]; rfl)⟩

/-- Where an element has to be read next, no element is closed. -/
theorem readBehind_closing_ne (isNext : nextOf? openElements whole = some element) :
    readBehind ⟨openElements, none⟩ ('<' :: '/' :: '>' :: rest) ≠ .ok whole := by
  intro isRead
  obtain ⟨piece, behind, after, found, steps, leads⟩ :=
    exists_steps_of_readBehind (List.cons_ne_nil _ _) isRead
  obtain rfl : piece = .closing [] := (Prod.mk.inj (Option.some.inj found)).1.symm
  generalize closes : Piece.closing [] = closing at steps
  cases steps with
  | closed attached =>
    rw [nextOf?_of_closed attached leads] at isNext
    cases isNext
  | _ => cases closes

/-! ### Elements that are read again -/

/-- **A tag holds** where the element that has to be read next is written. -/
theorem tagHolds_of_readBehind (isTag : IsTag name attributes)
    (isNext : nextOf? openElements whole = some (.node name attributes content children))
    (single : Bool) (isRead : readBehind ⟨openElements, none⟩
      (writeTag name attributes ++ ((if single then ['/', '>'] else ['>']) ++ rest)) = .ok whole) :
    tagHolds name attributes single = true := by
  unfold tagHolds
  rw [Bool.and_eq_true]
  cases single with
  | true =>
    have nonempty : bodyOf name attributes ≠ [] := by
      intro isNil
      rw [writeTag_eq, isNil] at isRead
      exact readBehind_closing_ne isNext isRead
    have paired := quotesPair_of_readBehind isTag isNext (by decide)
      (fun isNil => absurd isNil nonempty) isRead
    exact ⟨paired.1, by simpa using nonempty⟩
  | false =>
    have paired := quotesPair_of_readBehind isTag isNext (by decide) (fun _ => by decide) isRead
    exact ⟨paired.1, by simpa using paired.2 rfl⟩

/-- Where children have to be read next and are written, their tags hold, if this is so of each. -/
theorem allTags_of_writeAll {before others : List Element} {text : String}
    (parsed : ∀ child ∈ others, child.Parsed)
    (each : ∀ child ∈ others, ∀ (openElements : List Element) (rest : List Char),
      nextOf? openElements whole = some child →
      readBehind ⟨openElements, none⟩ (child.write ++ rest) = .ok whole →
      child.allTags tagHolds = true)
    (isNext : nextOf? openElements whole =
      some (.node name attributes content (before.reverse ++ others)))
    (isRead : readBehind ⟨.node name attributes text before :: openElements, none⟩
      (writeAll others ++ rest) = .ok whole) : ∀ child ∈ others, child.allTags tagHolds = true := by
  induction others generalizing before with
  | nil => exact List.forall_mem_nil _
  | cons child others ih =>
    obtain ⟨childParsed, othersParsed⟩ := List.forall_mem_cons.mp parsed
    obtain ⟨eachChild, eachOther⟩ := List.forall_mem_cons.mp each
    have childNext : nextOf? (.node name attributes text before :: openElements) whole =
        some child := by
      rw [nextOf?, isNext, Option.bind_some, Element.children]
      simp
    rw [writeAll, List.append_assoc] at isRead
    have childHolds := eachChild _ _ childNext isRead
    rw [readBehind_write (childParsed.legible childHolds), childParsed.normal_eq] at isRead
    refine List.forall_mem_cons.mpr ⟨childHolds, ih othersParsed eachOther ?_ isRead⟩
    rw [isNext, List.reverse_cons, List.append_assoc, List.singleton_append]

/-- **The tags hold** of an element that has to be read next, where it is written. -/
theorem allTags_of_readBehind (parsed : element.Parsed) :
    ∀ (openElements : List Element) (rest : List Char),
      nextOf? openElements whole = some element →
      readBehind ⟨openElements, none⟩ (element.write ++ rest) = .ok whole →
      element.allTags tagHolds = true := by
  induction parsed with
  | node name attributes text children isTag noAngle _ parsed each =>
    intro openElements rest isNext isRead
    rw [allTags, Bool.and_eq_true, allTagsIn_eq_true_iff]
    rw [write] at isRead
    cases isBare : children.isEmpty && text.isEmpty with
    | true =>
      rw [isBare, if_pos rfl, List.append_assoc] at isRead
      rw [Bool.and_eq_true, List.isEmpty_iff] at isBare
      obtain ⟨rfl, -⟩ := isBare
      exact ⟨tagHolds_of_readBehind isTag isNext true isRead, List.forall_mem_nil _⟩
    | false =>
      rw [isBare, if_neg Bool.false_ne_true] at isRead
      simp only [List.append_assoc, List.cons_append, List.nil_append] at isRead
      have holds := tagHolds_of_readBehind isTag isNext false isRead
      obtain ⟨paired, noSlash⟩ := (Bool.and_eq_true _ _).mp holds
      obtain ⟨others, isContent⟩ :=
        exists_writeAll_append children ('/' :: (name.toList ++ '>' :: rest))
      rw [readBehind_opening isTag (balanced_iff.mpr paired) (by simpa using noSlash), isContent,
        readBehind_text, ← isContent] at isRead
      exact ⟨holds, allTags_of_writeAll parsed each isNext isRead⟩

/-- What is read of a document is read again, if its tags hold. -/
theorem read_write_of_tagHolds {document : String} (isRead : read document = .ok element)
    (hold : element.allTags tagHolds = true) : read (String.ofList element.write) = .ok element := by
  have parsed := parsed_of_read isRead
  rw [read_write_of_legible (parsed.legible hold), parsed.normal_eq]

/-- **What is read again.** What is read of a document is read again from what is written of it if
and only if its tags hold. -/
theorem read_write_of_read {document : String} (isRead : read document = .ok element) :
    read (String.ofList element.write) = .ok element ↔ element.allTags tagHolds = true := by
  constructor
  · intro again
    have whole := read_append element []
    rw [List.append_nil, again] at whole
    rw [← List.append_nil element.write] at whole
    exact allTags_of_readBehind (parsed_of_read isRead) [] [] rfl whole.symm
  · exact read_write_of_tagHolds isRead

end Runs

/-- A document with quotes and a slash in names, a comment, a marked-off text, and text on both sides
of a child. -/
def oddDocument : String := "<x'='y z=\"1>\"><!--c--><![CDATA[<&]]><b/ k='\"'/>t</x'='y>"

def oddElement : Element :=
  .node "x'='y" (Keyed.empty.insert "z" "1>") "<&t"
    [.node "b/" (Keyed.empty.insert "k" "\"") "" []]

/-- The names are written as they are, and the element is read again. -/
theorem read_write_oddElement :
    read oddDocument = .ok oddElement ∧
      oddElement.write =
        "<x'='y z=\"1&gt;\">&lt;&amp;t<b/ k=\"&quot;\"/></x'='y>".toList ∧
      read (String.ofList oddElement.write) = .ok oddElement := by
  have isRead : read oddDocument = .ok oddElement := by with_unfolding_all rfl
  have hold : oddElement.allTags tagHolds = true := by decide
  exact ⟨isRead, by decide +kernel, (read_write_of_read isRead).mpr hold⟩

/-- An element whose opening tag, which a blank kept from being a single one, is written as one. -/
def slashedElement : Element := .node "a/" Keyed.empty "t" []

/-- Not everything that is read is read again. -/
theorem not_forall_read_write :
    ¬ ∀ (document : String) (element : Element), read document = .ok element →
      read (String.ofList element.write) = .ok element := by
  intro everything
  have isRead : read "<a/ >t</a/>" = .ok slashedElement := by with_unfolding_all rfl
  have written : String.ofList slashedElement.write = "<a/>t</a/>" := by decide +kernel
  have refused : read "<a/>t</a/>" = .error .textOutside := by with_unfolding_all rfl
  have again := everything _ _ isRead
  rw [written, refused] at again
  cases again

/-! ### Plain names -/

/-- Whether the names in a tag are not empty, do not end in a slash, and hold neither brackets nor
quotes. -/
def isPlainTag (name : String) (attributes : Keyed String) (_ : Bool) : Bool :=
  !name.isEmpty && name.toList.getLast? != some '/' &&
    (name :: attributes.keys).all fun key =>
      key.toList.all fun c => !(['>', '"', '\''].contains c)

/-- **A tag with plain names holds**, single or not. -/
theorem tagHolds_of_isPlainTag {name : String} {attributes : Keyed String} {single : Bool}
    (plain : isPlainTag name attributes single = true) : tagHolds name attributes single = true := by
  simp only [isPlainTag, Bool.and_eq_true, List.all_cons, List.all_eq_true] at plain
  obtain ⟨⟨nonempty, noSlash⟩, plainName, plainKeys⟩ := plain
  have isPlain : IsPlain name := fun c member => by simpa using plainName c member
  have keys : ∀ entry ∈ attributes.entries, IsPlain entry.1 := by
    intro entry member c inKey
    simpa using plainKeys entry.1 (List.mem_map_of_mem member) c inKey
  have paired := balanced_iff.mp (balanced_bodyOf isPlain keys)
  have someName : name ≠ "" := by simpa using nonempty
  have noEnd : (bodyOf name attributes).getLast? ≠ some '/' := by
    rw [getLast?_bodyOf]
    split
    · simpa using noSlash
    · decide
  rw [tagHolds, Bool.and_eq_true]
  refine ⟨paired, ?_⟩
  cases single with
  | true => simp [bodyOf, someName]
  | false => simpa using noEnd

/-- **Elements with plain names are read again**, whatever their texts and values hold. -/
theorem read_write_of_isPlainTag {document : String} {element : Element}
    (isRead : read document = .ok element) (plain : element.allTags isPlainTag = true) :
    read (String.ofList element.write) = .ok element :=
  read_write_of_tagHolds isRead (allTags_mono tagHolds_of_isPlainTag element plain)

end RuleAtoms.Markup
