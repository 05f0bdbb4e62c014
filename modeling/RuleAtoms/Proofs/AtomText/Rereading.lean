/-
**What is read can be written and read again.**

An atom that has been read is written as text; this text need not be read as the same atom, but it is
read as one that is written the same, when its datatypes are legible.

* `isReread_of_legible`: each argument is replaced by one that is written the same and can be written;
* `isLegible_of_isReread`: where a typed literal stands alone and nothing in its datatype is taken for
  the end of the argument, its datatype has to be legible;
* `reread_accepted`: the two together, for the standard prefixes.
-/

import RuleAtoms.Proofs.AtomText.Accepted

namespace RuleAtoms.AtomText

open Text (Ends)

/-- The datatypes of an atom are all legible. -/
def HasLegibleDatatypes (prefixes : Prefixes) (atom : Atom) : Prop :=
  ∀ literal, .literal literal ∈ atom.arguments →
    ∀ datatype ∈ literal.datatype?, IsLegible prefixes datatype

/-- The text that an atom is written as is read as an atom that is written as the same text. -/
def IsReread (prefixes : Prefixes) (atom : Atom) : Prop :=
  ∃ other, read prefixes (String.ofList (render prefixes atom)) = .ok other ∧
    String.ofList (render prefixes other) = String.ofList (render prefixes atom)

/-! ### Legible datatypes are enough -/

section Legible

variable {prefixes : Prefixes} {atom : Atom}

/-- An argument with a legible datatype is written like one that can be written. -/
theorem exists_writable_argument (regular : AreRegular prefixes) {argument : Argument}
    (proper : IsProperArgument prefixes argument)
    (legible : ∀ literal, argument = .literal literal →
      ∀ datatype ∈ literal.datatype?, IsLegible prefixes datatype) :
    ∃ other, isWritableArgument prefixes other = true ∧
      renderArgument prefixes other = renderArgument prefixes argument := by
  cases argument with
  | «variable» value => exact ⟨_, proper, rfl⟩
  | literal value =>
    obtain ⟨lexical, kind⟩ := value
    cases kind with
    | plain => exact ⟨.literal (.plain lexical), rfl, rfl⟩
    | language tag => exact ⟨.literal (.language lexical tag), rfl, rfl⟩
    | typed datatype =>
      obtain ⟨other, writable, sameText⟩ :=
        exists_writable_of_isLegible regular (legible _ rfl datatype rfl)
      refine ⟨.literal (.typed lexical other), writable, ?_⟩
      show quote lexical.toList ++ '^' :: '^' :: (Prefixes.renderDatatype prefixes other).toList = _
      rw [sameText]
      rfl

theorem exists_writable_arguments {arguments : List Argument}
    (each : ∀ argument ∈ arguments, ∃ other, isWritableArgument prefixes other = true ∧
      renderArgument prefixes other = renderArgument prefixes argument) :
    ∃ others : List Argument, (∀ other ∈ others, isWritableArgument prefixes other = true) ∧
      others.map (renderArgument prefixes) = arguments.map (renderArgument prefixes) := by
  induction arguments with
  | nil => exact ⟨[], List.forall_mem_nil _, rfl⟩
  | cons argument rest ih =>
    obtain ⟨⟨first, firstWritable, firstText⟩, eachOther⟩ := List.forall_mem_cons.mp each
    obtain ⟨others, writable, sameTexts⟩ := ih eachOther
    refine ⟨first :: others, List.forall_mem_cons.mpr ⟨firstWritable, writable⟩, ?_⟩
    rw [List.map_cons, List.map_cons, firstText, sameTexts]

/-- **An atom that is read is read again from its own writing** when its datatypes are legible. -/
theorem isReread_of_legible (regular : AreRegular prefixes) {text : String}
    (isRead : read prefixes text = .ok atom) (nonempty : atom.arguments ≠ [])
    (legible : HasLegibleDatatypes prefixes atom) : IsReread prefixes atom := by
  obtain ⟨enclosable, proper⟩ := proper_of_read regular isRead
  obtain ⟨others, writable, sameTexts⟩ := exists_writable_arguments fun argument member =>
    exists_writable_argument regular (proper argument member)
      fun literal isLiteral => legible literal (isLiteral ▸ member)
  have someOther : others ≠ [] := by
    rintro rfl
    exact nonempty (List.map_eq_nil_iff.mp sameTexts.symm)
  have isWritable : IsWritable prefixes ⟨atom.predicate, others⟩ :=
    ⟨someOther, enclosable, writable⟩
  have sameText : render prefixes ⟨atom.predicate, others⟩ = render prefixes atom := by
    rw [render_eq isWritable.nonempty, render_eq nonempty, sameTexts]
  obtain ⟨written, whole, resolves⟩ := atom_render regular.readable isWritable
  rw [sameText] at whole
  exact ⟨_, (read_of_atom prefixes whole).trans resolves, congrArg String.ofList sameText⟩

end Legible

/-! ### A typed literal that stands alone -/

section Alone

variable {prefixes : Prefixes} {text rest left : List Char} {datatype : String}

/-- What is read as a datatype is read the same by itself, and does not end in a parenthesis. -/
theorem datatype?_front {name : Name} (isRead : datatype? text = some (name, rest)) :
    ∃ front, text = front ++ rest ∧ datatype? front = some (name, []) ∧
      front.getLast? ≠ some ')' := by
  rcases datatype?_eq_some_iff.mp isRead with
    isName | ⟨noName, word, nonempty, isLocal, ends, rfl, rfl⟩
  · rcases name?_eq_some_iff.mp isName with isIri | isAbbreviated
    · obtain ⟨iri, enclosable, rfl, rfl⟩ := iri?_eq_some_iff.mp isIri
      refine ⟨(Iri.bracketed iri).toList, rfl, ?_, ?_⟩
      · have read := iri?_bracketed enclosable []
        rw [List.append_nil] at read
        exact datatype?_eq_some_iff.mpr (Or.inl (name?_eq_some_iff.mpr (Or.inl read)))
      · have closes : (Iri.bracketed iri).toList.getLast? = some '>' := by
          unfold Iri.bracketed
          rw [String.toList_append]
          exact List.getLast?_concat
        rw [closes]
        decide
    · obtain ⟨start, localName, isStart, isLocal, -, rfl, rfl⟩ :=
        abbreviated?_eq_some_iff.mp isAbbreviated
      refine ⟨(start ++ ":" ++ localName).toList, rfl, ?_, fun isLast => ?_⟩
      · exact datatype?_abbreviation isStart isLocal
      · have inName := List.mem_of_getLast? isLast
        exact absurd (isNameChar_of_mem_abbreviation isStart isLocal inName) (by decide)
  · refine ⟨word.toList, rfl, ?_, fun isLast => ?_⟩
    · exact datatype?_word nonempty isLocal
    · have inWord := List.mem_of_getLast? isLast
      exact absurd (List.all_eq_true.mp isLocal ')' inWord) (by decide)

/-- A character that neither a blank nor a comma is. -/
def IsWithin (c : Char) : Prop := isSpace c = false ∧ c ≠ ','

/-- In the writing of a datatype there are no other characters than in the datatype, in names and
around them. -/
theorem isWithin_of_mem_renderDatatype (readable : HasReadableKeys prefixes)
    (within : ∀ c ∈ datatype.toList, IsWithin c) {c : Char}
    (member : c ∈ (Prefixes.renderDatatype prefixes datatype).toList) : IsWithin c := by
  have ofName {c : Char} (isName : isNameChar c = true) : IsWithin c := by
    refine ⟨isSpace_of_not_isBlank (isBlank_of_isNameChar isName), ?_⟩
    rintro rfl
    exact absurd isName (by decide)
  have ofMarks : IsWithin '<' ∧ IsWithin '>' ∧ IsWithin ':' := by
    unfold IsWithin
    decide
  unfold Prefixes.renderDatatype Prefixes.render at member
  rw [Prefixes.compact?_eq] at member
  split at member
  · cases taken : Prefixes.best? prefixes datatype with
    | some best =>
      obtain ⟨-, isLocal, -⟩ := Prefixes.best?_eq_some taken
      rw [taken, Option.map_some, Option.getD_some] at member
      rcases isNameChar_of_mem_abbreviation (readable.start datatype best taken) isLocal member with
        isName | rfl
      · exact ofName isName
      · exact ofMarks.2.2
    | none =>
      have characters := toList_bracketed datatype []
      rw [List.append_nil] at characters
      rw [taken, Option.map_none, Option.getD_none, characters] at member
      rcases List.mem_cons.mp member with rfl | inside
      · exact ofMarks.1
      · rcases List.mem_append.mp inside with inDatatype | isLast
        · exact within c inDatatype
        · exact List.mem_singleton.mp isLast ▸ ofMarks.2.1
  · exact within c member

/-- No further argument begins where there is no comma. -/
theorem moreArguments_of_within (within : ∀ c ∈ left, IsWithin c) :
    moreArguments (left ++ [')']) = ([], left ++ [')']) := by
  have noNext : nextArgument? (left ++ [')']) = none := by
    cases left with
    | nil => rfl
    | cons c others =>
      obtain ⟨noSpace, noComma⟩ := within c List.mem_cons_self
      unfold nextArgument?
      rw [List.cons_append, skipSpaces_of_ends (Text.ends_cons noSpace)]
      split
      · rename_i isText
        exact absurd (List.cons.inj isText).1 noComma
      · rfl
  rw [moreArguments, noNext]

/-- **A typed literal in front of a parenthesis** is read with its datatype up to some point of it. The
parenthesis is left, since no datatype ends in one. -/
theorem argument?_typed_parenthesis (prefixes : Prefixes) (lexical datatype : String) :
    ∃ written left,
      argument? (renderLiteral prefixes (.typed lexical datatype) ++ [')']) =
        some (written, left ++ [')']) ∧
      left <:+ '^' :: '^' :: (Prefixes.renderDatatype prefixes datatype).toList ∧
      (left = [] → ∃ name, written = .quoted lexical (some (.datatype name)) ∧
        datatype? (Prefixes.renderDatatype prefixes datatype).toList = some (name, [])) := by
  generalize isWritten : (Prefixes.renderDatatype prefixes datatype).toList = written
  have characters : renderLiteral prefixes (.typed lexical datatype) ++ [')'] =
      quote lexical.toList ++ ('^' :: '^' :: (written ++ [')'])) := by
    show (quote lexical.toList ++
      '^' :: '^' :: (Prefixes.renderDatatype prefixes datatype).toList) ++ [')'] = _
    rw [isWritten, List.append_assoc, List.cons_append, List.cons_append]
  rw [characters]
  cases isRead : datatype? (written ++ [')']) with
  | none =>
    have noSuffix : suffix? ('^' :: '^' :: (written ++ [')'])) = none := by
      unfold suffix?
      simp only [isRead, Option.map_none]
    refine ⟨.quoted (String.ofList lexical.toList) none, '^' :: '^' :: written, ?_,
      List.suffix_rfl, fun isNil => nomatch isNil⟩
    refine argument?_quote _ _ ?_
    unfold quotedArgument?
    simp only [quoted?_quote, Option.map_some, noSuffix, List.cons_append]
  | some found =>
    obtain ⟨name, rest⟩ := found
    have isSuffix : suffix? ('^' :: '^' :: (written ++ [')'])) = some (.datatype name, rest) := by
      unfold suffix?
      simp only [isRead, Option.map_some]
    have isArgument := argument?_quote_of_suffix lexical.toList isSuffix
    rw [String.ofList_toList] at isArgument
    obtain ⟨front, isText, readFront, noParenthesis⟩ := datatype?_front isRead
    rcases List.append_eq_append_iff.mp isText with ⟨more, isFront, isRest⟩ | ⟨left, isFront, isRest⟩
    · cases more with
      | nil =>
        rw [List.append_nil] at isFront
        rw [List.nil_append] at isRest
        rw [← isRest] at isArgument
        refine ⟨_, [], isArgument, List.nil_suffix, fun _ => ⟨name, rfl, ?_⟩⟩
        rwa [← isFront]
      | cons c others =>
        obtain ⟨rfl, isNil⟩ := List.cons.inj isRest
        obtain ⟨rfl, -⟩ := List.append_eq_nil_iff.mp isNil.symm
        rw [isFront, List.getLast?_append] at noParenthesis
        exact absurd rfl noParenthesis
    · rw [isRest] at isArgument
      refine ⟨_, left, isArgument, ?_, fun isNil => ⟨name, rfl, ?_⟩⟩
      · exact (isFront ▸ List.suffix_append front left).trans ⟨['^', '^'], rfl⟩
      · rwa [isFront, isNil, List.append_nil]

/-- What is left of an argument in front of the last parenthesis is nothing. -/
theorem eq_nil_of_closes {behind : List Char} (within : ∀ c ∈ left, IsWithin c)
    (closes : skipSpaces (left ++ [')']) = ')' :: behind) (noneLeft : [] = skipSpaces behind) :
    left = [] := by
  cases left with
  | nil => rfl
  | cons c others =>
    obtain ⟨noSpace, -⟩ := within c List.mem_cons_self
    rw [List.cons_append, skipSpaces_of_ends (Text.ends_cons noSpace)] at closes
    obtain ⟨-, rfl⟩ := List.cons.inj closes
    have allSpaces := List.dropWhile_eq_nil_iff.mp noneLeft.symm
    exact absurd (allSpaces ')' (by simp)) (by decide)

theorem render_typed {predicate lexical : String} :
    render prefixes ⟨predicate, [.literal (.typed lexical datatype)]⟩ =
      (Prefixes.render prefixes predicate).toList ++
        '(' :: (renderLiteral prefixes (.typed lexical datatype) ++ [')']) :=
  render_eq (List.cons_ne_nil _ _)

/-- A list of one quoted text with a datatype stands for one typed literal. -/
theorem mapM_resolve_typed {lexical : String} {name : Name} {arguments : List Argument}
    (resolves : [WrittenArgument.quoted lexical (some (.datatype name))].mapM
      (WrittenArgument.resolve prefixes) = .ok arguments) :
    ∃ other, name.resolve prefixes = .ok other ∧ arguments = [.literal (.typed lexical other)] := by
  rw [List.mapM_cons] at resolves
  obtain ⟨argument, isArgument, same⟩ := bind_eq_ok_iff.mp resolves
  obtain ⟨other, resolvesName, rfl⟩ := resolve_datatype_eq_ok_iff.mp isArgument
  cases same
  exact ⟨other, resolvesName, rfl⟩

/-- **A typed literal that stands alone** is read with the whole writing of its datatype, if the atom
is read at all and nothing in the datatype is taken for the end of the argument. -/
theorem written_of_atom_typed (readable : HasReadableKeys prefixes) {predicate lexical : String}
    (enclosable : isEnclosable predicate = true) (within : ∀ c ∈ datatype.toList, IsWithin c)
    {written : WrittenAtom}
    (isRead : atom (render prefixes ⟨predicate, [.literal (.typed lexical datatype)]⟩) =
      .ok (written, [])) :
    ∃ name, written.predicate.resolve prefixes = .ok predicate ∧
      written.arguments = [.quoted lexical (some (.datatype name))] ∧
      datatype? (Prefixes.renderDatatype prefixes datatype).toList = some (name, []) := by
  rw [render_typed] at isRead
  obtain ⟨afterName, inside, afterArguments, behind, isName, opens, areArguments, closes,
    noneLeft⟩ := atom_eq_ok_iff.mp isRead
  have opensName : Ends isNameChar
      ('(' :: (renderLiteral prefixes (.typed lexical datatype) ++ [')'])) :=
    Text.ends_cons (by decide)
  obtain ⟨name, readName, resolvesName⟩ :=
    name?_render (readable.start predicate) enclosable opensName
  rw [skipSpaces_of_ends (ends_isSpace_render (readable.start predicate)), readName] at isName
  cases isName
  rw [skipSpaces_of_ends (Text.ends_cons (by decide))] at opens
  cases opens
  obtain ⟨argument, left, readArgument, isSuffix, ofNil⟩ :=
    argument?_typed_parenthesis prefixes lexical datatype
  have withinLeft : ∀ c ∈ left, IsWithin c := by
    intro c member
    have inMarks := isSuffix.subset member
    simp only [List.mem_cons, or_self_left] at inMarks
    rcases inMarks with rfl | inDatatype
    · exact ⟨by decide, by decide⟩
    · exact isWithin_of_mem_renderDatatype readable within inDatatype
  have readArguments : arguments (renderLiteral prefixes (.typed lexical datatype) ++ [')']) =
      ([argument], left ++ [')']) := by
    unfold arguments
    rw [readArgument]
    simp only [moreArguments_of_within withinLeft]
  have noSpace : Ends isSpace (renderLiteral prefixes (.typed lexical datatype) ++ [')']) :=
    ends_isSpace_renderArgument (.literal (.typed lexical datatype))
  rw [skipSpaces_of_ends noSpace, readArguments] at areArguments
  obtain ⟨isArgument, rfl⟩ := Prod.mk.inj areArguments
  obtain ⟨datatypeName, rfl, readDatatype⟩ := ofNil (eq_nil_of_closes withinLeft closes noneLeft)
  exact ⟨datatypeName, resolvesName, isArgument.symm, readDatatype⟩

/-- **Where a typed literal stands alone**, it is read again only if its datatype is legible. -/
theorem isLegible_of_isReread (regular : AreRegular prefixes) {predicate lexical : String}
    (enclosable : isEnclosable predicate = true) (within : ∀ c ∈ datatype.toList, IsWithin c)
    (reread : IsReread prefixes ⟨predicate, [.literal (.typed lexical datatype)]⟩) :
    IsLegible prefixes datatype := by
  obtain ⟨other, isRead, sameText⟩ := reread
  obtain ⟨written, whole, resolves⟩ := read_eq_ok isRead
  rw [String.toList_ofList] at whole
  obtain ⟨name, resolvesName, isArgument, readDatatype⟩ :=
    written_of_atom_typed regular.readable enclosable within whole
  obtain ⟨resolvesPredicate, resolvesArguments⟩ := resolve_eq_ok resolves
  have samePredicate := Except.ok.inj (resolvesPredicate.symm.trans resolvesName)
  rw [isArgument] at resolvesArguments
  obtain ⟨otherDatatype, resolvesDatatype, areTyped⟩ := mapM_resolve_typed resolvesArguments
  have isOther : other = ⟨predicate, [.literal (.typed lexical otherDatatype)]⟩ := by
    rw [← samePredicate, ← areTyped]
  refine isLegible_of_datatype? regular readDatatype resolvesDatatype ?_
  have sameCharacters := String.ofList_injective sameText
  rw [isOther, render_typed, render_typed] at sameCharacters
  have sameLiteral : quote lexical.toList ++
        '^' :: '^' :: (Prefixes.renderDatatype prefixes otherDatatype).toList =
      quote lexical.toList ++ '^' :: '^' :: (Prefixes.renderDatatype prefixes datatype).toList :=
    List.append_cancel_right (List.cons.inj (List.append_cancel_left sameCharacters)).2
  have sameSuffix := List.append_cancel_left sameLiteral
  exact String.toList_inj.mp (List.cons.inj (List.cons.inj sameSuffix).2).2

end Alone

/-! ### The standard prefixes -/

/-- **What is read is read again.** An atom that has been read, from whatever text, is written as a
text that is read as an atom written the same, when its datatypes are legible. For a typed literal
that stands alone, with no comma in its datatype, this is not only enough but needed. -/
theorem reread_accepted {text : String} {atom : Atom}
    (isRead : read Prefixes.standard text = .ok atom) (nonempty : atom.arguments ≠ []) :
    (HasLegibleDatatypes Prefixes.standard atom →
      ∃ other, read Prefixes.standard (standardText atom) = .ok other ∧
        standardText other = standardText atom) ∧
      ∀ lexical datatype, atom.arguments = [.literal (.typed lexical datatype)] →
        ',' ∉ datatype.toList →
          ((∃ other, read Prefixes.standard (standardText atom) = .ok other ∧
              standardText other = standardText atom) ↔
            IsLegible Prefixes.standard datatype) := by
  have enough := isReread_of_legible areRegular_standard isRead nonempty
  refine ⟨enough, fun lexical datatype alone noComma => ⟨fun reread => ?_, fun legible => ?_⟩⟩
  · obtain ⟨enclosable, proper⟩ := proper_of_read areRegular_standard isRead
    have properLiteral : IsProperArgument Prefixes.standard (.literal (.typed lexical datatype)) :=
      proper _ (alone ▸ List.mem_singleton_self _)
    have within : ∀ c ∈ datatype.toList, IsWithin c := by
      intro c member
      exact ⟨isSpace_of_not_isBlank (properLiteral datatype rfl c member),
        fun isComma => noComma (isComma ▸ member)⟩
    obtain ⟨predicate, arguments⟩ := atom
    cases alone
    exact isLegible_of_isReread areRegular_standard enclosable within reread
  · refine enough fun literal isLiteral other isDatatype => ?_
    rw [alone, List.mem_singleton] at isLiteral
    cases isLiteral
    cases isDatatype
    exact legible

/-- A number with an abbreviated datatype, as a token holds it. -/
def numberAtom : Atom where
  predicate := Vocabulary.swrl ++ "f"
  arguments := [.literal (.typed "5" "xsd:int")]

/-- The abbreviation is not the datatype that it is read as again, but it is written the same. -/
theorem reread_accepted_numberAtom :
    read Prefixes.standard " swrl:f( 5^^xsd:int)" = .ok numberAtom ∧
      numberAtom.arguments ≠ [] ∧ standardText numberAtom = "swrl:f(\"5\"^^xsd:int)" ∧
      ∃ other, read Prefixes.standard (standardText numberAtom) = .ok other ∧
        standardText other = standardText numberAtom := by
  have isRead : read Prefixes.standard " swrl:f( 5^^xsd:int)" = .ok numberAtom := by
    decide +kernel
  have nonempty : numberAtom.arguments ≠ [] := List.cons_ne_nil _ _
  have legible : IsLegible Prefixes.standard "xsd:int" :=
    Or.inr (Or.inl ⟨"xsd", "int", by decide, by decide, rfl⟩)
  obtain ⟨-, alone⟩ := reread_accepted isRead nonempty
  exact ⟨isRead, nonempty, by decide, (alone "5" "xsd:int" rfl (by decide)).mpr legible⟩

/-- A token with a relative path for its datatype, and the atom that it is an argument of. -/
def pathAtom : Atom where
  predicate := Vocabulary.swrlb ++ "contains"
  arguments := [.variable ⟨"X"⟩, .literal (.typed "x" "foo/bar")]

/-- The path is read in a token, but not behind quotes, where it is written. -/
theorem read_standardText_pathAtom :
    read Prefixes.standard "swrlb:contains(?X,x^^foo/bar)" = .ok pathAtom ∧
      pathAtom.arguments ≠ [] ∧
      standardText pathAtom = "swrlb:contains(?X,\"x\"^^foo/bar)" ∧
      read Prefixes.standard (standardText pathAtom) =
        .error (.unexpected 26 "/bar)".toList) := by
  have isText : standardText pathAtom = "swrlb:contains(?X,\"x\"^^foo/bar)" := by
    decide +kernel
  rw [isText]
  exact ⟨by decide +kernel, List.cons_ne_nil _ _, rfl, by decide +kernel⟩

end RuleAtoms.AtomText
