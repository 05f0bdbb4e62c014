/-
**Atoms that are read with another namespace of variables.**

Reader and writer of a document may have different namespaces. What the reader makes of the IRI of a
variable is what is left behind its own namespace, if the IRI lies in it, and the local name of the IRI
otherwise. Both give the name that was written only if the namespace of the writer is taken away as a
whole.

* `variableOfIri_eq_iff`: when a name is read as itself; this does not depend on the name;
* `read_write_renamed`: an atom is read with its variables renamed by what is read of their IRIs;
* `read_write_other`: so it is read as itself exactly when each name is.
-/

import RuleAtoms.Name.Prefixes
import RuleAtoms.Proofs.AtomMarkup.RoundTrip
import RuleAtoms.Proofs.Text.Occurrence

namespace RuleAtoms

namespace AtomMarkup

/-- Whether a namespace ends in one of the characters that part a local name from it. -/
def EndsInMark (space : String) : Prop :=
  space.toList.getLast? = some '#' ∨ space.toList.getLast? = some '/'

/-- Whether the local name of an IRI in a namespace is what stands behind the namespace: if there is a
`#` in the namespace, then it ends in one. -/
def IsWholeSpace (space : String) : Prop :=
  space.toList.getLast? = some '#' ∨ '#' ∉ space.toList

/-! ### Names behind a namespace -/

section Names

variable {reader writer name : String}

/-- A name behind more than a marker is not read as the name alone. -/
theorem ofText_append_ne {rest : String} {c : Char} (member : c ∈ rest.toList) (noMarker : c ≠ '?')
    (isLocal : isLocalName name = true) (noNameChar : isNameChar c = false) :
    Variable.ofText (rest ++ name) ≠ ⟨name⟩ := by
  intro same
  have inBoth : c ∈ (rest ++ name).toList := by
    rw [String.toList_append]
    exact List.mem_append_left _ member
  have inName : c ∈ name.toList := Variable.mk.inj same ▸ mem_dropMarker inBoth noMarker
  exact Bool.false_ne_true (noNameChar.symm.trans (List.all_eq_true.mp isLocal c inName))

/-- The namespace of a name in it is a whole one, or its local name has more in front. -/
theorem localNameOf_append (ends : EndsInMark writer) (isLocal : isLocalName name = true) :
    Iri.localNameOf (writer ++ name) = name ∧ IsWholeSpace writer ∨
      ∃ rest, Iri.localNameOf (writer ++ name) = rest ++ name ∧ '/' ∈ rest.toList ∧
        ¬ IsWholeSpace writer := by
  have noHash : '#' ∉ name.toList := fun member =>
    absurd (List.all_eq_true.mp isLocal '#' member) (by decide)
  have noSlash : '/' ∉ name.toList := fun member =>
    absurd (List.all_eq_true.mp isLocal '/' member) (by decide)
  unfold Iri.localNameOf Iri.parts? IsWholeSpace
  rw [String.toList_append]
  cases cut : Text.splitLast? ['#'] writer.toList with
  | none =>
    have absent : '#' ∉ writer.toList := by
      rwa [Text.splitLast?_eq_none_iff, List.singleton_infix_iff] at cut
    have isSlash : writer.toList.getLast? = some '/' :=
      ends.resolve_left fun isHash => absent (List.mem_of_getLast? isHash)
    obtain ⟨front, isWriter⟩ := List.getLast?_eq_some_iff.mp isSlash
    have noCut : Text.splitLast? ['#'] (writer.toList ++ name.toList) = none := by
      rw [Text.splitLast?_eq_none_iff, List.singleton_infix_iff, List.mem_append]
      exact not_or.mpr ⟨absent, noHash⟩
    have lastSlash : Text.splitLast? ['/'] (writer.toList ++ name.toList) =
        some (front, name.toList) := by
      rw [isWriter, List.append_assoc, List.singleton_append, Text.splitLast?_singleton noSlash]
    refine Or.inl ⟨?_, Or.inr absent⟩
    simp only [noCut, lastSlash, Option.map_some, String.ofList_toList]
  | some parts =>
    obtain ⟨front, back⟩ := parts
    obtain ⟨isWriter, final⟩ := (Text.splitLast?_eq_some_iff (List.cons_ne_nil _ _)).mp cut
    have noLater : '#' ∉ back := by
      rwa [List.singleton_append, List.tail_cons, List.singleton_infix_iff] at final
    have lastHash : Text.splitLast? ['#'] (writer.toList ++ name.toList) =
        some (front, back ++ name.toList) := by
      rw [isWriter, List.append_assoc, List.append_assoc, List.singleton_append,
        Text.splitLast?_singleton]
      rw [List.mem_append]
      exact not_or.mpr ⟨noLater, noHash⟩
    simp only [lastHash]
    by_cases isNil : back = []
    · refine Or.inl ⟨by rw [isNil, List.nil_append, String.ofList_toList], Or.inl ?_⟩
      rw [isWriter, isNil, List.append_nil, List.getLast?_concat]
    · have sameLast : writer.toList.getLast? = back.getLast? := by
        rw [isWriter, List.getLast?_append_of_ne_nil _ isNil]
      have noHashLast : writer.toList.getLast? ≠ some '#' := fun isHash =>
        noLater (List.mem_of_getLast? (sameLast ▸ isHash))
      have isSlash : back.getLast? = some '/' := sameLast ▸ ends.resolve_left noHashLast
      refine Or.inr ⟨String.ofList back, ?_, ?_, not_or.mpr ⟨noHashLast, fun absent => ?_⟩⟩
      · rw [String.ofList_append, String.ofList_toList]
      · rw [String.toList_ofList]
        exact List.mem_of_getLast? isSlash
      · exact absent (isWriter ▸ by simp)

/-- What lies in a namespace of a written name is what the two namespaces differ by. A longer namespace
of the reader would end in a character of the name. -/
theorem within?_other (writer : String) (ends : EndsInMark reader) (isLocal : isLocalName name = true) :
    (∃ rest, Iri.within? (writer ++ name) reader = some (rest ++ name) ∧ writer = reader ++ rest) ∨
      Iri.within? (writer ++ name) reader = none ∧ ¬ reader.toList <+: writer.toList := by
  by_cases begins : reader.toList <+: writer.toList
  · obtain ⟨rest, isWriter⟩ := begins
    have isAppend : writer = reader ++ String.ofList rest := by
      rw [← String.toList_inj, String.toList_append, String.toList_ofList, isWriter]
    refine Or.inl ⟨String.ofList rest, ?_, isAppend⟩
    rw [isAppend, String.append_assoc, Iri.within?_append]
  · refine Or.inr ⟨?_, begins⟩
    unfold Iri.within?
    rw [Option.map_eq_none_iff, Text.isPrefixOf?_eq_none_iff, String.toList_append]
    intro isPrefix
    rcases List.prefix_or_prefix_of_prefix isPrefix (List.prefix_append _ _) with short | long
    · exact begins short
    · obtain ⟨more, isReader⟩ := long
      have inName : more <+: name.toList := by
        rwa [← isReader, List.prefix_append_right_inj] at isPrefix
      by_cases isNil : more = []
      · rw [isNil, List.append_nil] at isReader
        exact begins (isReader ▸ List.prefix_rfl)
      · have isLast : reader.toList.getLast? = more.getLast? := by
          rw [← isReader, List.getLast?_append_of_ne_nil _ isNil]
        have inMore : ∀ c, reader.toList.getLast? = some c → isNameChar c = true :=
          fun c isMark => List.all_eq_true.mp isLocal c
            (inName.subset (List.mem_of_getLast? (isLast ▸ isMark)))
        rcases ends with isHash | isSlash
        · exact absurd (inMore _ isHash) (by decide)
        · exact absurd (inMore _ isSlash) (by decide)

/-- **When a name is read as itself**: the namespaces are the same, or the one of the reader does not
begin the one of the writer, and this one is the namespace of the IRI. -/
theorem variableOfIri_eq_iff (readerEnds : EndsInMark reader) (writerEnds : EndsInMark writer)
    (isLocal : isLocalName name = true) :
    variableOfIri reader (writer ++ name) = ⟨name⟩ ↔
      reader = writer ∨ ¬ reader.toList <+: writer.toList ∧ IsWholeSpace writer := by
  have readsName : Variable.ofText name = ⟨name⟩ :=
    Variable.ofText_of_unmarked (unmarked_of_isLocalName isLocal)
  unfold variableOfIri
  rcases within?_other writer readerEnds isLocal with
    ⟨rest, within, isWriter⟩ | ⟨outside, noPrefix⟩
  · have begins : reader.toList <+: writer.toList := by
      rw [isWriter, String.toList_append]
      exact List.prefix_append _ _
    rw [within, Option.getD_some, or_iff_left (fun other => other.1 begins)]
    by_cases isEmpty : rest = ""
    · subst isEmpty
      rw [String.append_empty] at isWriter
      rw [String.empty_append, readsName]
      exact ⟨fun _ => isWriter.symm, fun _ => rfl⟩
    · have someRest : rest.toList ≠ [] := fun isNil => isEmpty (String.toList_eq_nil_iff.mp isNil)
      have sameLast : writer.toList.getLast? = rest.toList.getLast? := by
        rw [isWriter, String.toList_append, List.getLast?_append_of_ne_nil _ someRest]
      obtain ⟨c, isMark, held⟩ : ∃ c, (c = '#' ∨ c = '/') ∧ c ∈ rest.toList := by
        rcases writerEnds with isHash | isSlash
        · exact ⟨'#', Or.inl rfl, List.mem_of_getLast? (sameLast ▸ isHash)⟩
        · exact ⟨'/', Or.inr rfl, List.mem_of_getLast? (sameLast ▸ isSlash)⟩
      have notName : Variable.ofText (rest ++ name) ≠ ⟨name⟩ := by
        rcases isMark with rfl | rfl
        · exact ofText_append_ne held (by decide) isLocal (by decide)
        · exact ofText_append_ne held (by decide) isLocal (by decide)
      refine ⟨fun same => absurd same notName, fun same => absurd ?_ someRest⟩
      have sameCharacters := congrArg String.toList isWriter
      rwa [same, String.toList_append, List.self_eq_append_right] at sameCharacters
  · rw [outside, Option.getD_none]
    have others : reader ≠ writer := fun same => noPrefix (same ▸ List.prefix_rfl)
    rw [or_iff_right others, and_iff_right noPrefix]
    rcases localNameOf_append writerEnds isLocal with ⟨isName, whole⟩ | ⟨rest, isRest, held, part⟩
    · rw [isName, readsName]
      exact ⟨fun _ => whole, fun _ => rfl⟩
    · rw [isRest]
      have notName := ofText_append_ne held (by decide) isLocal (by decide)
      exact ⟨fun same => absurd same notName, fun whole => absurd whole part⟩

end Names

/-! ### Atoms -/

section Atoms

variable {reader writer : String} {atom : Atom} {arguments : List Argument}

/-- An argument with another variable in the place of one. -/
def renamedArgument (rename : Variable → Variable) : Argument → Argument
  | .variable value => .variable (rename value)
  | .literal value => .literal value

/-- An atom with its variables renamed. -/
def renamed (rename : Variable → Variable) (atom : Atom) : Atom where
  predicate := atom.predicate
  arguments := atom.arguments.map (renamedArgument rename)

theorem renamed_eq_iff (rename : Variable → Variable) (atom : Atom) :
    renamed rename atom = atom ↔ ∀ wanted ∈ atom.variableList, rename wanted = wanted := by
  obtain ⟨predicate, arguments⟩ := atom
  have asArguments : renamed rename ⟨predicate, arguments⟩ = ⟨predicate, arguments⟩ ↔
      ∀ argument ∈ arguments, renamedArgument rename argument = argument := by
    unfold renamed
    rw [Atom.mk.injEq, and_iff_right rfl]
    have eachKept := List.map_inj_left (l := arguments) (f := renamedArgument rename) (g := id)
    rwa [List.map_id] at eachKept
  rw [asArguments]
  constructor
  · intro kept wanted member
    exact Argument.variable.inj (kept _ (Evaluation.mem_variableList.mp member))
  · intro kept argument member
    cases argument with
    | «variable» wanted =>
      exact congrArg Argument.variable (kept wanted (Evaluation.mem_variableList.mpr member))
    | literal value => rfl

/-- What is read of an IRI takes the place of the variable that it was written for. -/
theorem decodeArguments_encode (reader writer : String) {position : Nat}
    (typed : ∀ value, .literal value ∈ arguments → value.datatype? ≠ some "") :
    decodeArguments reader position (arguments.map (encodeArgument writer)) =
      .ok (arguments.map
        (renamedArgument fun wanted => variableOfIri reader (writer ++ wanted.name))) := by
  induction arguments generalizing position with
  | nil => rfl
  | cons first rest ih =>
    have restTyped : ∀ value, .literal value ∈ rest → value.datatype? ≠ some "" :=
      fun value member => typed value (List.mem_cons_of_mem _ member)
    have readFirst : decodeArgument reader (encodeArgument writer first) = .ok
        (renamedArgument (fun wanted => variableOfIri reader (writer ++ wanted.name)) first) := by
      cases first with
      | «variable» value => exact decodeArgument_variable reader writer value
      | literal value =>
        exact (decodeArgument_literal value).trans (if_neg (typed value List.mem_cons_self))
    rw [List.map_cons, decodeArguments, readFirst]
    simp only [ih restTyped, Except.map, List.map_cons]

/-- **An atom is read with its variables renamed** by what the reader makes of their IRIs. -/
theorem read_write_renamed (reader writer : String)
    (typed : ∀ value, .literal value ∈ atom.arguments → value.datatype? ≠ some "") :
    read reader (write writer atom) =
      .ok (renamed (fun wanted => variableOfIri reader (writer ++ wanted.name)) atom) := by
  have isPredicate : (Keyed.empty.insert iriAttribute atom.predicate).find? iriAttribute =
      some atom.predicate := by
    rw [Keyed.find?_insert, if_pos rfl]
  unfold read
  rw [read_write_encode]
  unfold decode encode
  simp only [Markup.Element.name, Markup.Element.attributes, Markup.Element.children,
    beq_self_eq_true, if_true, isPredicate, decodeArguments_encode reader writer typed, Except.map]
  rfl

/-- **Another namespace of variables.** What is written with one namespace can always be read with
another one. It is read as the same atom if and only if the atom has no variables, the namespaces are
the same, or the reader's does not begin the writer's and this one has no `#` except at its end. -/
theorem read_write_other (readerEnds : EndsInMark reader) (writerEnds : EndsInMark writer)
    (named : ∀ wanted ∈ atom.variableList, isLocalName wanted.name = true)
    (typed : ∀ value, .literal value ∈ atom.arguments → value.datatype? ≠ some "") :
    ∃ other, read reader (write writer atom) = .ok other ∧
      (other = atom ↔ atom.variableList = [] ∨ reader = writer ∨
        ¬ reader.toList <+: writer.toList ∧ IsWholeSpace writer) := by
  refine ⟨_, read_write_renamed reader writer typed, ?_⟩
  rw [renamed_eq_iff]
  have each : ∀ wanted ∈ atom.variableList,
      (variableOfIri reader (writer ++ wanted.name) = wanted ↔
        reader = writer ∨ ¬ reader.toList <+: writer.toList ∧ IsWholeSpace writer) :=
    fun wanted member => variableOfIri_eq_iff readerEnds writerEnds (named wanted member)
  constructor
  · intro kept
    cases areVariables : atom.variableList with
    | nil => exact Or.inl rfl
    | cons first others =>
      have member : first ∈ atom.variableList := areVariables ▸ List.mem_cons_self
      exact Or.inr ((each first member).mp (kept first member))
  · rintro (noVariables | alike) wanted member
    · rw [noVariables] at member
      cases member
    · exact (each wanted member).mpr alike

/-- An atom with a variable and a literal. -/
def columnAtom (name : String) : Atom where
  predicate := Vocabulary.swrlb ++ "equal"
  arguments := [.variable ⟨name⟩, .literal (.typed "5" (Vocabulary.xsd ++ "int"))]

theorem typed_columnAtom (name : String) :
    ∀ value, .literal value ∈ (columnAtom name).arguments → value.datatype? ≠ some "" := by
  intro value member
  simp only [columnAtom, List.mem_cons, reduceCtorEq, Argument.literal.injEq, List.not_mem_nil,
    false_or, or_false] at member
  subst member
  decide

theorem read_write_columnAtom (reader writer name : String) :
    read reader (write writer (columnAtom name)) =
      .ok (columnAtom (variableOfIri reader (writer ++ name)).name) :=
  read_write_renamed reader writer (typed_columnAtom name)

/-- What is written with a namespace of paths is read unchanged with the usual namespace. -/
theorem read_write_other_paths :
    EndsInMark "urn:swrl#" ∧ EndsInMark "http://example.org/vars/" ∧
      read "urn:swrl#" (write "http://example.org/vars/" (columnAtom "X.1")) =
        .ok (columnAtom "X.1") := by
  have readerEnds : EndsInMark "urn:swrl#" := Or.inl (by decide)
  have writerEnds : EndsInMark "http://example.org/vars/" := Or.inr (by decide)
  have apart : ¬ "urn:swrl#".toList <+: "http://example.org/vars/".toList := by decide
  have named : ∀ wanted ∈ (columnAtom "X.1").variableList, isLocalName wanted.name = true := by
    decide
  obtain ⟨other, isRead, sameIff⟩ :=
    read_write_other readerEnds writerEnds named (typed_columnAtom "X.1")
  obtain rfl := sameIff.mpr (Or.inr (Or.inr ⟨apart, Or.inr (by decide)⟩))
  exact ⟨readerEnds, writerEnds, isRead⟩

/-- A namespace that goes on where the reader's ends leaves its rest in the name, and so does a path
behind a fragment. -/
theorem read_write_columnAtom_ne :
    (EndsInMark "http://a/" ∧ EndsInMark "http://a/b#" ∧
      read "http://a/" (write "http://a/b#" (columnAtom "X")) = .ok (columnAtom "b#X")) ∧
    (EndsInMark "urn:swrl#" ∧ EndsInMark "http://a#b/" ∧
      read "urn:swrl#" (write "http://a#b/" (columnAtom "X")) = .ok (columnAtom "b/X")) ∧
    columnAtom "b#X" ≠ columnAtom "X" ∧ columnAtom "b/X" ≠ columnAtom "X" := by
  have outerName : (variableOfIri "http://a/" ("http://a/b#" ++ "X")).name = "b#X" := by decide
  have fragmentName : (variableOfIri "urn:swrl#" ("http://a#b/" ++ "X")).name = "b/X" := by decide
  refine ⟨⟨Or.inr (by decide), Or.inl (by decide), ?_⟩,
    ⟨Or.inl (by decide), Or.inr (by decide), ?_⟩, by decide, by decide⟩
  · rw [read_write_columnAtom, outerName]
  · rw [read_write_columnAtom, fragmentName]

end Atoms

end AtomMarkup

end RuleAtoms
