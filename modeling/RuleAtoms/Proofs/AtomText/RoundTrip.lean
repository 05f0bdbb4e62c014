/-
**Atoms read back from the text they are written as.**

`read_render`: an atom that can be written (`IsWritable`) reads back as itself under the same
prefixes. Lexical forms, language tags and namespaces are free; predicates and datatypes have to fit
between angle brackets, and a datatype must not look like an abbreviated name.
-/

import RuleAtoms.Proofs.AtomText.Arguments

namespace RuleAtoms.AtomText

open Text (Ends)

section Spaces

variable {prefixes : Prefixes} {rest : List Char}

/-! ### No blanks are written -/

theorem isSpace_iff {c : Char} :
    isSpace c = true ↔ c = ' ' ∨ c = '\t' ∨ c = '\r' ∨ c = '\n' := by
  unfold isSpace
  simp only [Bool.or_eq_true, beq_iff_eq, or_assoc]

theorem isBlank_of_isSpace {c : Char} (space : isSpace c = true) : Text.isBlank c = true := by
  obtain rfl | rfl | rfl | rfl := isSpace_iff.mp space <;> decide

theorem isSpace_of_not_isBlank {c : Char} (visible : Text.isBlank c = false) :
    isSpace c = false := by
  rw [← Bool.not_eq_true]
  exact fun space => Bool.false_ne_true (visible.symm.trans (isBlank_of_isSpace space))

theorem skipSpaces_of_ends (ends : Ends isSpace rest) : skipSpaces rest = rest :=
  Text.dropWhile_of_ends ends

/-- A written predicate does not begin with a blank. -/
theorem ends_isSpace_render {iri : String} (readable : HasReadableStart prefixes iri) :
    Ends isSpace ((Prefixes.render prefixes iri).toList ++ rest) := by
  unfold Prefixes.render
  rw [Prefixes.compact?_eq]
  cases taken : Prefixes.best? prefixes iri with
  | none =>
    rw [Option.map_none, Option.getD_none, Iri.bracketed, String.toList_append,
      String.toList_append]
    exact Text.ends_cons (by decide)
  | some best =>
    refine Text.ends_of_head?_ne fun c space => ?_
    obtain ⟨noPrefixChar, noColon⟩ : isPrefixChar c = false ∧ c ≠ ':' := by
      obtain rfl | rfl | rfl | rfl := isSpace_iff.mp space <;> decide
    exact head?_append_colon (readable best taken) noPrefixChar noColon

/-- A lexical form does not begin with a blank, since only visible characters go without quotes. -/
theorem ends_isSpace_renderLexical (lexical : List Char) :
    Ends isSpace (renderLexical lexical ++ rest) := by
  unfold renderLexical
  split
  · rename_i bare
    obtain ⟨nonempty, -, -, -, isRun⟩ := of_isBare bare
    refine Text.ends_of_head?_ne fun c space => Text.head?_run_ne nonempty isRun ?_
    unfold isTokenChar
    rw [isBlank_of_isSpace space]
    rfl
  · exact Text.ends_cons (by decide)

/-- A written argument does not begin with a blank. -/
theorem ends_isSpace_renderArgument (argument : Argument) :
    Ends isSpace (renderArgument prefixes argument ++ rest) := by
  cases argument with
  | «variable» value => exact Text.ends_cons (by decide)
  | literal value =>
    obtain ⟨lexical, kind⟩ := value
    unfold renderArgument renderLiteral
    cases kind with
    | plain => exact ends_isSpace_renderLexical lexical.toList
    | language tag =>
      simp only
      split
      · rw [List.append_assoc]
        exact ends_isSpace_renderLexical lexical.toList
      · exact Text.ends_cons (by decide)
    | typed datatype => exact Text.ends_cons (by decide)

end Spaces

/-! ### Lists of arguments -/

section Lists

variable {prefixes : Prefixes}

/-- Each piece but the first stands behind a separator. -/
theorem join_cons (separator piece : List Char) (pieces : List (List Char)) :
    Text.join separator (piece :: pieces) = piece ++ pieces.flatMap (separator ++ ·) := by
  induction pieces generalizing piece with
  | nil => simp [Text.join]
  | cons second others ih =>
    rw [Text.join, ih, List.flatMap_cons, List.append_assoc, List.append_assoc]
    simp

/-- The arguments behind a first one, each with the comma in front of it. -/
def renderMore (prefixes : Prefixes) (arguments : List Argument) : List Char :=
  (arguments.map (renderArgument prefixes)).flatMap ([','] ++ ·)

theorem renderMore_cons (prefixes : Prefixes) (argument : Argument) (others : List Argument)
    (rest : List Char) : renderMore prefixes (argument :: others) ++ rest =
      ',' :: (renderArgument prefixes argument ++ (renderMore prefixes others ++ rest)) := by
  unfold renderMore
  rw [List.map_cons, List.flatMap_cons, List.append_assoc, List.append_assoc]
  rfl

theorem followsArgument_renderMore (prefixes : Prefixes) (arguments : List Argument)
    (rest : List Char) :
    FollowsArgument (renderMore prefixes arguments ++ ')' :: rest) := by
  cases arguments with
  | nil => exact Or.inr rfl
  | cons argument others => exact Or.inl rfl

/-- **The arguments behind a first one read back**, up to the closing parenthesis. -/
theorem moreArguments_renderMore {arguments : List Argument}
    (readsAs : ∀ argument ∈ arguments, ReadsAs prefixes (renderArgument prefixes argument) argument)
    (rest : List Char) :
    ∃ written, moreArguments (renderMore prefixes arguments ++ ')' :: rest) =
        (written, ')' :: rest) ∧
      written.mapM (WrittenArgument.resolve prefixes) = .ok arguments := by
  induction arguments with
  | nil =>
    refine ⟨[], ?_, rfl⟩
    rw [moreArguments]
    rfl
  | cons argument others ih =>
    obtain ⟨written, readOthers, resolvedOthers⟩ :=
      ih fun other member => readsAs other (List.mem_cons_of_mem _ member)
    obtain ⟨first, read, resolves⟩ :=
      readsAs argument List.mem_cons_self _ (followsArgument_renderMore prefixes others rest)
    have next : nextArgument? (renderMore prefixes (argument :: others) ++ ')' :: rest) =
        some (first, renderMore prefixes others ++ ')' :: rest) := by
      rw [renderMore_cons]
      show argument? (skipSpaces _) = _
      rw [skipSpaces_of_ends (ends_isSpace_renderArgument argument), read]
    have shorter : (renderMore prefixes others ++ ')' :: rest).length <
        (renderMore prefixes (argument :: others) ++ ')' :: rest).length := by
      rw [renderMore_cons]
      simp only [List.length_cons, List.length_append]
      omega
    refine ⟨first :: written, ?_, ?_⟩
    · rw [moreArguments, next]
      simp only [if_pos shorter, readOthers]
    · rw [List.mapM_cons, resolves, resolvedOthers]
      rfl

/-- **The arguments of an atom read back**, up to the closing parenthesis. -/
theorem arguments_join {arguments : List Argument} (nonempty : arguments ≠ [])
    (readsAs : ∀ argument ∈ arguments, ReadsAs prefixes (renderArgument prefixes argument) argument)
    (rest : List Char) :
    ∃ written,
      AtomText.arguments
          (Text.join [','] (arguments.map (renderArgument prefixes)) ++ ')' :: rest) =
        (written, ')' :: rest) ∧
      written.mapM (WrittenArgument.resolve prefixes) = .ok arguments := by
  obtain ⟨argument, others, rfl⟩ := List.exists_cons_of_ne_nil nonempty
  obtain ⟨written, readOthers, resolvedOthers⟩ := moreArguments_renderMore
    (fun other member => readsAs other (List.mem_cons_of_mem _ member)) rest
  obtain ⟨first, read, resolves⟩ :=
    readsAs argument List.mem_cons_self _ (followsArgument_renderMore prefixes others rest)
  refine ⟨first :: written, ?_, ?_⟩
  · rw [List.map_cons, join_cons, List.append_assoc]
    change AtomText.arguments (_ ++ (renderMore prefixes others ++ ')' :: rest)) = _
    unfold AtomText.arguments
    rw [read]
    simp only [readOthers]
  · rw [List.mapM_cons, resolves, resolvedOthers]
    rfl

end Lists

/-! ### Atoms -/

/-- An atom that can be written under some prefixes. -/
structure IsWritable (prefixes : Prefixes) (atom : Atom) : Prop where
  nonempty : atom.arguments ≠ []
  predicate : isEnclosable atom.predicate = true
  arguments : ∀ argument ∈ atom.arguments, isWritableArgument prefixes argument = true

variable {prefixes : Prefixes} {atom : Atom}

theorem render_eq (nonempty : atom.arguments ≠ []) : render prefixes atom =
    (Prefixes.render prefixes atom.predicate).toList ++ '(' ::
      (Text.join [','] (atom.arguments.map (renderArgument prefixes)) ++ [')']) := by
  unfold render
  rw [if_neg (by simpa using nonempty), List.append_assoc, List.cons_append]

/-- **The writing of an atom** is read up to what follows it, where its predicate and each of its
arguments is. -/
theorem atom_render_append (nonempty : atom.arguments ≠ [])
    (readable : HasReadableStart prefixes atom.predicate)
    (enclosable : isEnclosable atom.predicate = true)
    (readsAs : ∀ argument ∈ atom.arguments,
      ReadsAs prefixes (renderArgument prefixes argument) argument) (rest : List Char) :
    ∃ written, AtomText.atom (render prefixes atom ++ rest) = .ok (written, skipSpaces rest) ∧
      written.resolve prefixes = .ok atom := by
  obtain ⟨written, readArguments, resolvedArguments⟩ := arguments_join nonempty readsAs rest
  obtain ⟨argument, others, isArguments⟩ := List.exists_cons_of_ne_nil nonempty
  generalize isInside :
    Text.join [','] (atom.arguments.map (renderArgument prefixes)) ++ ')' :: rest = inside
    at readArguments
  have characters : render prefixes atom ++ rest =
      (Prefixes.render prefixes atom.predicate).toList ++ '(' :: inside := by
    rw [render_eq nonempty, ← isInside]
    simp only [List.append_assoc, List.cons_append, List.nil_append]
  have insideSpaces : skipSpaces inside = inside := by
    rw [← isInside, isArguments, List.map_cons, join_cons, List.append_assoc]
    exact skipSpaces_of_ends (ends_isSpace_renderArgument argument)
  have opens : Ends isNameChar ('(' :: inside) := Text.ends_cons (by decide)
  obtain ⟨name, readName, resolvedName⟩ := name?_render readable enclosable opens
  have readPredicate : AtomText.predicate
      ((Prefixes.render prefixes atom.predicate).toList ++ '(' :: inside) =
        .ok (name, '(' :: inside) := by
    unfold AtomText.predicate
    rw [readName]
  have opened : expect '(' (skipSpaces ('(' :: inside)) = .ok inside := by
    rw [skipSpaces_of_ends (Text.ends_cons (by decide))]
    rfl
  have closed : expect ')' (skipSpaces (')' :: rest)) = .ok rest := rfl
  refine ⟨⟨name, written⟩, ?_, ?_⟩
  · unfold AtomText.atom
    rw [characters, skipSpaces_of_ends (ends_isSpace_render readable), readPredicate]
    simp only [bind, Except.bind, opened, insideSpaces, readArguments, closed]
  · unfold WrittenAtom.resolve
    rw [resolvedName, resolvedArguments]
    rfl

/-- An atom that can be written is read whole. -/
theorem atom_render (readable : HasReadableKeys prefixes) (writable : IsWritable prefixes atom) :
    ∃ written, AtomText.atom (render prefixes atom) = .ok (written, []) ∧
      written.resolve prefixes = .ok atom := by
  have readsAs := fun argument member =>
    readsAs_renderArgument readable (writable.arguments argument member)
  have whole := atom_render_append writable.nonempty (readable.start atom.predicate)
    writable.predicate readsAs []
  rw [List.append_nil] at whole
  exact whole

/-- **An atom reads back from the text it is written as.** -/
theorem read_render (readable : HasReadableKeys prefixes) (writable : IsWritable prefixes atom) :
    read prefixes (String.ofList (render prefixes atom)) = .ok atom := by
  obtain ⟨written, whole, resolves⟩ := atom_render readable writable
  have visible : Text.trim (render prefixes atom) ≠ [] := by
    rw [render_eq writable.nonempty]
    exact Text.trim_ne_nil (c := '(') (by simp) (by decide)
  unfold read
  simp only [String.toList_ofList, List.isEmpty_iff, if_neg visible, whole, resolves]

/-- An atom with marks, quotes and brackets in its literals. -/
def markedAtom : Atom where
  predicate := "urn:rules#holds"
  arguments :=
    [.variable ⟨"X.1"⟩, .literal (.plain "a \"b\", (c) \\ d@en^^e"),
      .literal (.language "f" "en-GB"), .literal (.language "g" "no tag"),
      .literal (.typed "5" "int"), .literal (.typed "6" (Vocabulary.xsd ++ "int")),
      .literal (.typed "7" "urn:odd,(name)")]

/-- The atom with marks reads back. -/
theorem read_render_markedAtom :
    HasReadableKeys Prefixes.standard ∧ IsWritable Prefixes.standard markedAtom ∧
      String.ofList (render Prefixes.standard markedAtom) =
        "<urn:rules#holds>(?X.1,\"a \\\"b\\\", (c) \\\\ d@en^^e\",f@en-GB,\"g\"@\"no tag\"," ++
          "\"5\"^^int,\"6\"^^xsd:int,\"7\"^^<urn:odd,(name)>)" ∧
      read Prefixes.standard (String.ofList (render Prefixes.standard markedAtom)) =
        .ok markedAtom := by
  have readable : HasReadableKeys Prefixes.standard := by
    unfold HasReadableKeys
    decide
  have writable : IsWritable Prefixes.standard markedAtom :=
    ⟨List.cons_ne_nil _ _, by decide, by decide⟩
  exact ⟨readable, writable, by decide +kernel, read_render readable writable⟩

end RuleAtoms.AtomText
