/-
**What reading makes of documents.**

The pieces that a document is cut into are proper, whatever it holds: a tag has a name and attributes
that a tag can have, and no angle bracket is in the name of a closing tag (`nextPiece?_isProper`).
Reading a document is a run over such pieces (`Reads`). Each step keeps what has been read `IsParsed`,
and so the element that is read is `Parsed`.

* `steps_of_step`: what one piece can change;
* `parsed_of_read`: what is read of a document;
* `Element.Parsed.normal_eq`: such an element has no blank texts beside children.
-/

import RuleAtoms.Proofs.Markup.Trees

namespace RuleAtoms.Markup

/-! ### Pieces -/

/-- A piece that can be cut from a document. -/
inductive Piece.IsProper : Piece → Prop
  | opening {name : List Char} {attributes : Keyed String}
      (isTag : IsTag (String.ofList name) attributes) : IsProper (.opening name attributes)
  | single {name : List Char} {attributes : Keyed String}
      (isTag : IsTag (String.ofList name) attributes) : IsProper (.single name attributes)
  | closing {name : List Char} (noAngle : '>' ∉ name) : IsProper (.closing name)
  | text (more : List Char) : IsProper (.text more)
  | skipped : IsProper .skipped

section Pieces

variable {text rest body name : List Char} {attributes : Keyed String} {piece : Piece}

theorem mem_head?_of_front {front : List Char} (isFront : front <+: text) {c : Char}
    (isFirst : c ∈ front.head?) : c ∈ text.head? := by
  obtain ⟨behind, rfl⟩ := isFront
  rw [List.head?_append, Option.mem_def.mp isFirst]
  rfl

/-- The name and attributes in a part of a document that begins with no mark. -/
theorem isTag_of_tagParts? (parts : tagParts? body = some (name, attributes))
    (start : ∀ c ∈ body.head?, c ∉ ['/', '?', '!']) : IsTag (String.ofList name) attributes := by
  obtain ⟨found, isRead, same⟩ := Option.map_eq_some_iff.mp parts
  cases same
  refine ⟨fun c member => ?_, fun c isFirst => start c ?_, ?_⟩
  · rw [String.toList_ofList] at member
    simpa using List.mem_takeWhile_imp member
  · rw [String.toList_ofList] at isFirst
    exact mem_head?_of_front (List.takeWhile_prefix _) isFirst
  · exact (attributesRead_of_attributesBehind? isRead).keys (List.forall_mem_nil _)

theorem isProper_of_tag? (found : tag? text = some (piece, rest))
    (start : ∀ c ∈ text.head?, c ∉ ['/', '?', '!']) : piece.IsProper := by
  obtain ⟨part, name, attributes, parts, ⟨rfl, isBody⟩ | ⟨rfl, -, isBody⟩⟩ := tag?_eq_some found
  · have isFront : part <+: text := by
      rw [tagBody?_eq_some isBody, List.append_assoc]
      exact List.prefix_append _ _
    exact .single (isTag_of_tagParts? parts fun c isFirst =>
      start c (mem_head?_of_front isFront isFirst))
  · have isFront : part <+: text := ⟨_, (tagBody?_eq_some isBody).symm⟩
    exact .opening (isTag_of_tagParts? parts fun c isFirst =>
      start c (mem_head?_of_front isFront isFirst))

/-- Trimming a name adds no characters. -/
theorem mem_of_mem_trimName {c : Char} (member : c ∈ trimName name) : c ∈ name := by
  unfold trimName at member
  simp only at member
  split at member
  · exact member
  · have inTail := (List.dropWhile_suffix isTagBlank).subset (List.mem_reverse.mp member)
    exact List.mem_reverse.mp inTail

theorem isProper_of_markedOff? (found : markedOff? text = some (piece, rest)) :
    piece.IsProper := by
  unfold markedOff? comment? markedText? documentType? at found
  split at found
  case h_5 => cases found
  all_goals
    obtain ⟨⟨body, tail⟩, -, isMade⟩ := Option.bind_eq_some_iff.mp found
    simp only [Option.ite_none_right_eq_some, Option.some.injEq, Prod.mk.injEq] at isMade
    obtain ⟨-, rfl, -⟩ := isMade
    first
      | exact .skipped
      | exact .text _

theorem isProper_of_markup? (found : markup? text = some (piece, rest)) : piece.IsProper := by
  unfold markup? at found
  split at found
  · cases found
    refine .closing fun inName => ?_
    simpa using List.mem_takeWhile_imp (mem_of_mem_trimName inName)
  · unfold instruction? at found
    simp only [Option.ite_none_right_eq_some, Option.some.injEq, Prod.mk.injEq] at found
    exact found.2.1 ▸ .skipped
  · exact isProper_of_markedOff? found
  · rename_i noSlash noQuestion noExclamation
    refine isProper_of_tag? found fun c isFirst special => ?_
    obtain ⟨behind, rfl⟩ := List.head?_eq_some_iff.mp isFirst
    simp only [List.mem_cons, List.not_mem_nil, or_false] at special
    rcases special with rfl | rfl | rfl
    · exact noSlash behind rfl
    · exact noQuestion behind rfl
    · exact noExclamation behind rfl

/-- **Every piece of a document is proper.** -/
theorem nextPiece?_isProper (next : nextPiece? text = .ok (some (piece, rest))) :
    piece.IsProper := by
  rcases nextPiece?_eq_some next with ⟨behind, -, found⟩ | found
  · exact isProper_of_markup? found
  · obtain ⟨denoted, -, same⟩ := Option.map_eq_some_iff.mp found
    cases same
    exact .text denoted

end Pieces

/-! ### Steps -/

/-- What one piece can change in what has been read. -/
inductive Steps : Reading → Piece → Reading → Prop
  | opened (openElements : List Element) (root? : Option Element) (name : List Char)
      (attributes : Keyed String) :
      Steps ⟨openElements, root?⟩ (.opening name attributes)
        ⟨.node (String.ofList name) attributes "" [] :: openElements, root?⟩
  | single {reading after : Reading} {name : List Char} {attributes : Keyed String}
      (attached : reading.attach (.node (String.ofList name) attributes "" []) = .ok after) :
      Steps reading (.single name attributes) after
  | closed {innermost : Element} {outer : List Element} {root? : Option Element} {after : Reading}
      (attached : Reading.attach ⟨outer, root?⟩ (Reading.closed innermost) = .ok after) :
      Steps ⟨innermost :: outer, root?⟩ (.closing innermost.name.toList) after
  | text (name : String) (attributes : Keyed String) (before : String) (children : List Element)
      (outer : List Element) (root? : Option Element) (more : List Char) :
      Steps ⟨.node name attributes before children :: outer, root?⟩ (.text more)
        ⟨.node name attributes (before ++ String.ofList more) children :: outer, root?⟩
  | blank (root? : Option Element) {more : List Char}
      (isBlank : (Text.trim more).isEmpty = true) : Steps ⟨[], root?⟩ (.text more) ⟨[], root?⟩
  | skipped (reading : Reading) : Steps reading .skipped reading

theorem steps_of_step {reading after : Reading} {piece : Piece}
    (stepped : reading.step piece = .ok after) : Steps reading piece after := by
  obtain ⟨openElements, root?⟩ := reading
  cases piece with
  | opening name attributes =>
    cases stepped
    exact .opened openElements root? name attributes
  | single name attributes => exact .single stepped
  | closing name =>
    cases openElements with
    | nil => cases stepped
    | cons innermost outer =>
      simp only [Reading.step] at stepped
      split at stepped
      · rename_i same
        exact same ▸ .closed stepped
      · cases stepped
  | text more =>
    cases openElements with
    | nil =>
      simp only [Reading.step] at stepped
      split at stepped
      · rename_i isBlank
        cases stepped
        exact .blank root? isBlank
      · cases stepped
    | cons innermost outer =>
      obtain ⟨name, attributes, before, children⟩ := innermost
      cases stepped
      exact .text name attributes before children outer root? more
  | skipped =>
    cases stepped
    exact .skipped _

/-- An element is added to the innermost open one, or it becomes the root. -/
theorem attach_eq_ok {reading after : Reading} {element : Element}
    (attached : reading.attach element = .ok after) :
    (∃ name attributes text children outer,
      reading.openElements = .node name attributes text children :: outer ∧
        after = ⟨.node name attributes text (element :: children) :: outer, reading.root?⟩) ∨
      reading = ⟨[], none⟩ ∧ after = ⟨[], some element⟩ := by
  obtain ⟨openElements, root?⟩ := reading
  cases openElements with
  | cons innermost outer =>
    obtain ⟨name, attributes, text, children⟩ := innermost
    cases attached
    exact Or.inl ⟨name, attributes, text, children, outer, rfl, rfl⟩
  | nil =>
    cases root? with
    | some root => cases attached
    | none =>
      cases attached
      exact Or.inr ⟨rfl, rfl⟩

/-- At the end there is a root, and nothing is open. -/
theorem finish_eq_ok {reading : Reading} {element : Element}
    (finished : reading.finish = .ok element) : reading = ⟨[], some element⟩ := by
  obtain ⟨openElements, root?⟩ := reading
  cases openElements with
  | cons innermost outer => cases finished
  | nil =>
    cases root? with
    | none => cases finished
    | some root =>
      cases finished
      rfl

/-- From here proper pieces lead to the element. -/
inductive Reads (element : Element) : Reading → Prop
  | finish {reading : Reading} (finished : reading.finish = .ok element) : Reads element reading
  | step {reading after : Reading} {piece : Piece} (isProper : piece.IsProper)
      (steps : Steps reading piece after) (behind : Reads element after) : Reads element reading

/-- **Reading a document** is a run over proper pieces. -/
theorem reads_of_readBehind {reading : Reading} {text : List Char} {element : Element}
    (isRead : readBehind reading text = .ok element) : Reads element reading := by
  fun_induction readBehind reading text with
  | case1 => cases isRead
  | case2 => exact .finish isRead
  | case3 => cases isRead
  | case4 reading text piece rest next after stepped _ ih =>
    exact .step (nextPiece?_isProper next) (steps_of_step stepped) (ih isRead)
  | case5 => cases isRead

/-! ### Elements -/

namespace Element

/-- What is read of a document: every tag has a name and attributes that a tag can have, a name that
is closed ends where it was written to end, and no text beside children is blank. -/
inductive Parsed : Element → Prop
  | node (name : String) (attributes : Keyed String) (text : String) (children : List Element)
      (isTag : IsTag name attributes)
      (noAngle : (children.isEmpty && text.isEmpty) = false → '>' ∉ name.toList)
      (visible : (!children.isEmpty && (Text.trim text.toList).isEmpty) = true → text = "")
      (inner : ∀ child ∈ children, Parsed child) :
      Parsed (node name attributes text children)

/-- An element that has been opened: nothing is known of its text yet. -/
inductive Opened : Element → Prop
  | node (name : String) (attributes : Keyed String) (text : String) (children : List Element)
      (isTag : IsTag name attributes) (inner : ∀ child ∈ children, Parsed child) :
      Opened (node name attributes text children)

theorem Opened.closed {element : Element} (opened : element.Opened)
    (noAngle : '>' ∉ element.name.toList) : (Reading.closed element).Parsed := by
  obtain ⟨name, attributes, text, children, isTag, inner⟩ := opened
  refine .node _ _ _ _ isTag (fun _ => noAngle) (fun blank => ?_)
    (fun child member => inner child (List.mem_reverse.mp member))
  rw [List.isEmpty_reverse] at blank
  split
  · rfl
  · rename_i visible
    rw [if_neg visible] at blank
    exact absurd blank visible

theorem normalAll_eq {children : List Element} (kept : ∀ child ∈ children, child.normal = child) :
    normalAll children = children := by
  induction children with
  | nil => rfl
  | cons child others ih =>
    rw [normalAll, kept child List.mem_cons_self,
      ih fun other member => kept other (List.mem_cons_of_mem _ member)]

/-- **Nothing is dropped again** of what has been read. -/
theorem Parsed.normal_eq {element : Element} (parsed : element.Parsed) :
    element.normal = element := by
  induction parsed with
  | node name attributes text children _ _ visible _ kept =>
    rw [normal, normalAll_eq kept]
    split
    · rename_i blank
      rw [visible blank]
    · rfl

end Element

/-- The elements that are open, and the root if there is one, are as reading makes them. -/
structure Reading.IsParsed (reading : Reading) : Prop where
  openElements : ∀ element ∈ reading.openElements, element.Opened
  root : ∀ element ∈ reading.root?, element.Parsed

section Runs

variable {reading after : Reading} {piece : Piece} {element : Element}

theorem Reading.IsParsed.attach (parsed : reading.IsParsed) (isParsed : element.Parsed)
    (attached : reading.attach element = .ok after) : after.IsParsed := by
  rcases attach_eq_ok attached with ⟨name, attributes, text, children, outer, isOpen, rfl⟩ | ⟨-, rfl⟩
  · have opened := parsed.openElements
    rw [isOpen, List.forall_mem_cons] at opened
    obtain ⟨_, _, _, _, isTag, inner⟩ := opened.1
    refine ⟨List.forall_mem_cons.mpr ⟨.node _ _ _ _ isTag ?_, opened.2⟩, parsed.root⟩
    exact List.forall_mem_cons.mpr ⟨isParsed, inner⟩
  · refine ⟨List.forall_mem_nil _, fun other isRoot => ?_⟩
    rw [← Option.mem_some_iff.mp isRoot]
    exact isParsed

/-- **One more piece** keeps what has been read as reading makes it. -/
theorem Reading.IsParsed.step (parsed : reading.IsParsed) (isProper : piece.IsProper)
    (steps : Steps reading piece after) : after.IsParsed := by
  cases steps with
  | opened openElements root? name attributes =>
    obtain ⟨isTag⟩ := isProper
    exact ⟨List.forall_mem_cons.mpr ⟨.node _ _ _ _ isTag (List.forall_mem_nil _),
      parsed.openElements⟩, parsed.root⟩
  | single attached =>
    obtain - | ⟨isTag⟩ := isProper
    exact parsed.attach (.node _ _ _ _ isTag (fun content => absurd content (by decide)) (fun _ => rfl)
      (List.forall_mem_nil _)) attached
  | closed attached =>
    obtain - | - | ⟨noAngle⟩ := isProper
    obtain ⟨opened, others⟩ := List.forall_mem_cons.mp parsed.openElements
    have around : Reading.IsParsed ⟨_, _⟩ := ⟨others, parsed.root⟩
    exact around.attach (opened.closed noAngle) attached
  | text name attributes before children outer root? more =>
    obtain ⟨opened, others⟩ := List.forall_mem_cons.mp parsed.openElements
    obtain ⟨_, _, _, _, isTag, inner⟩ := opened
    exact ⟨List.forall_mem_cons.mpr ⟨.node _ _ _ _ isTag inner, others⟩, parsed.root⟩
  | blank => exact parsed
  | skipped => exact parsed

theorem parsed_of_reads (reads : Reads element reading) (parsed : reading.IsParsed) :
    element.Parsed := by
  induction reads with
  | finish finished =>
    rw [finish_eq_ok finished] at parsed
    exact parsed.root element rfl
  | step isProper steps _ ih => exact ih (parsed.step isProper steps)

/-- **What is read of a document** is as reading makes it. -/
theorem parsed_of_read {document : String} (isRead : read document = .ok element) :
    element.Parsed :=
  parsed_of_reads (reads_of_readBehind isRead) ⟨List.forall_mem_nil _, fun _ none => nomatch none⟩

end Runs

end RuleAtoms.Markup
