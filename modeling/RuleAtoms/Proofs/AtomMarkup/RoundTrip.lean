/-
**Atoms read back from the document they are written as.**

The texts of an atom stand in attributes and as the text of elements without children, so none of
them is changed by reading. What is lost is a marker that a name begins with, since reading takes it
for the marker of the variable, and a literal with an empty datatype is refused.

* `read_write_iff`: every atom is written as a document of its element, and it reads back from the
  document exactly when no variable name begins with a marker and no datatype is empty.
-/

import RuleAtoms.AtomMarkup
import RuleAtoms.Proofs.Evaluation.Values
import RuleAtoms.Proofs.Markup.Trees
import RuleAtoms.Proofs.Name.Abbreviation

namespace RuleAtoms

namespace AtomMarkup

open Markup

/-! ### The document of an atom -/

section Document

variable (space : String) (atom : Atom) (argument : Argument)

theorem wellNamed_encodeArgument : (encodeArgument space argument).WellNamed := by
  have variableName : IsName variableElement := ⟨by decide, List.all_eq_true.mp (by decide)⟩
  have literalName : IsName literalElement := ⟨by decide, List.all_eq_true.mp (by decide)⟩
  have iriName : IsName iriAttribute := ⟨by decide, List.all_eq_true.mp (by decide)⟩
  have datatypeName : IsName datatypeAttribute := ⟨by decide, List.all_eq_true.mp (by decide)⟩
  have languageName : IsName languageAttribute := ⟨by decide, List.all_eq_true.mp (by decide)⟩
  cases argument with
  | «variable» value =>
    refine .node _ _ _ _ variableName (fun entry member => ?_) (fun _ member => nomatch member)
    rw [List.mem_singleton.mp member]
    exact iriName
  | literal value =>
    refine .node _ _ _ _ literalName (fun entry member => ?_) (fun _ member => nomatch member)
    cases kind : value.kind with
    | plain =>
      rw [kind] at member
      cases member
    | language tag =>
      rw [kind] at member
      rw [List.mem_singleton.mp member]
      exact languageName
    | typed datatype =>
      rw [kind] at member
      rw [List.mem_singleton.mp member]
      exact datatypeName

theorem wellNamed_encode : (encode space atom).WellNamed := by
  have atomName : IsName atomElement := ⟨by decide, List.all_eq_true.mp (by decide)⟩
  have iriName : IsName iriAttribute := ⟨by decide, List.all_eq_true.mp (by decide)⟩
  refine .node _ _ _ _ atomName (fun entry member => ?_) (fun child member => ?_)
  · rw [List.mem_singleton.mp member]
    exact iriName
  · obtain ⟨argument, -, rfl⟩ := List.mem_map.mp member
    exact wellNamed_encodeArgument space argument

/-- The element of an argument has no children, so its text is kept. -/
theorem normal_encodeArgument :
    (encodeArgument space argument).normal = encodeArgument space argument := by
  cases argument with
  | «variable» value => rfl
  | literal value => rfl

theorem normalAll_encodeArgument (arguments : List Argument) :
    Element.normalAll (arguments.map (encodeArgument space)) =
      arguments.map (encodeArgument space) := by
  induction arguments with
  | nil => rfl
  | cons argument rest ih =>
    rw [List.map_cons, Element.normalAll, normal_encodeArgument, ih]

theorem normal_encode : (encode space atom).normal = encode space atom := by
  unfold encode
  rw [Element.normal, normalAll_encodeArgument, ite_self]

/-- **The document of an atom** reads as the element of the atom, whatever its texts. -/
theorem read_write_encode : Markup.read (write space atom) = .ok (encode space atom) := by
  unfold write
  rw [read_write_normal (wellNamed_encode space atom), normal_encode]

end Document

/-! ### The atom of an element -/

section Atoms

variable {space : String} {argument : Argument}

/-- An argument that is the only one with its element. -/
def HasOwnElement : Argument → Prop
  | .variable value => Unmarked value.name
  | .literal value => value.datatype? ≠ some ""

/-- A variable is read by what the reader makes of its IRI. -/
theorem decodeArgument_variable (reader writer : String) (value : Variable) :
    decodeArgument reader (encodeArgument writer (.variable value)) =
      .ok (.variable (variableOfIri reader (writer ++ value.name))) := by
  have isIri : (Keyed.empty.insert iriAttribute (writer ++ value.name)).find? iriAttribute =
      some (writer ++ value.name) := by
    rw [Keyed.find?_insert, if_pos rfl]
  unfold decodeArgument encodeArgument
  simp only [Element.name, Element.attributes, beq_self_eq_true, if_true, isIri]

/-- In its own namespace that is its name, from which a marker is dropped. -/
theorem variableOfIri_own (space name : String) :
    variableOfIri space (space ++ name) = Variable.ofText name := by
  unfold variableOfIri
  rw [Iri.within?_append, Option.getD_some]

/-- A literal is read as it was written, or refused for its empty datatype. -/
theorem literalOf_attributesOfKind (value : Literal) :
    literalOf value.lexical (attributesOfKind value.kind) =
      if value.datatype? = some "" then .error (.emptyDatatype value.lexical) else .ok value := by
  obtain ⟨lexical, kind⟩ := value
  cases kind with
  | plain => rfl
  | language tag => rfl
  | typed datatype =>
    have isDatatype : (Keyed.empty.insert datatypeAttribute datatype).find? datatypeAttribute =
        some datatype := by
      rw [Keyed.find?_insert, if_pos rfl]
    have noLanguage : (Keyed.empty.insert datatypeAttribute datatype).find? languageAttribute =
        none := by
      rw [Keyed.find?_insert, if_neg (by decide)]
      rfl
    unfold literalOf attributesOfKind Literal.datatype?
    simp only [isDatatype, noLanguage, String.isEmpty_iff, Option.some.injEq]
    rfl

theorem decodeArgument_literal (value : Literal) :
    decodeArgument space (encodeArgument space (.literal value)) =
      if value.datatype? = some "" then .error (.emptyDatatype value.lexical)
      else .ok (.literal value) := by
  have otherName : (literalElement == variableElement) = false := by decide
  unfold decodeArgument encodeArgument
  simp only [Element.name, Element.attributes, Element.text, otherName, Bool.false_eq_true,
    if_false, beq_self_eq_true, if_true, literalOf_attributesOfKind]
  split
  · rfl
  · rfl

/-- **An argument reads back** exactly when it has an element of its own. -/
theorem decodeArgument_encode_iff :
    decodeArgument space (encodeArgument space argument) = .ok argument ↔
      HasOwnElement argument := by
  cases argument with
  | «variable» value =>
    obtain ⟨name⟩ := value
    rw [decodeArgument_variable, variableOfIri_own, Except.ok.injEq, Argument.variable.injEq,
      Variable.ofText, Variable.mk.injEq]
    exact dropMarker_eq_self_iff
  | literal value =>
    rw [decodeArgument_literal]
    unfold HasOwnElement
    split
    · rename_i isEmpty
      exact ⟨fun failed => (nomatch failed), fun nonempty => absurd isEmpty nonempty⟩
    · rename_i nonempty
      exact ⟨fun _ => nonempty, fun _ => rfl⟩

/-- Arguments read back, from whatever position, exactly when each of them does. -/
theorem decodeArguments_encode_iff {arguments : List Argument} {position : Nat} :
    decodeArguments space position (arguments.map (encodeArgument space)) = .ok arguments ↔
      ∀ argument ∈ arguments, HasOwnElement argument := by
  induction arguments generalizing position with
  | nil => exact ⟨fun _ _ member => (nomatch member), fun _ => rfl⟩
  | cons first rest ih =>
    rw [List.forall_mem_cons, ← @decodeArgument_encode_iff space first,
      ← @ih (position + 1), List.map_cons, decodeArguments]
    cases decodeArgument space (encodeArgument space first) with
    | error error =>
      constructor
      · intro failed
        cases failed
      · rintro ⟨failed, -⟩
        cases failed
    | ok other =>
      cases decodeArguments space (position + 1) (rest.map (encodeArgument space)) with
      | error error =>
        constructor
        · intro failed
          cases failed
        · rintro ⟨-, failed⟩
          cases failed
      | ok others =>
        simp only [Except.map, Except.ok.injEq, List.cons.injEq]

theorem decode_encode_iff {atom : Atom} :
    decode space (encode space atom) = .ok atom ↔
      ∀ argument ∈ atom.arguments, HasOwnElement argument := by
  have isPredicate : (Keyed.empty.insert iriAttribute atom.predicate).find? iriAttribute =
      some atom.predicate := by
    rw [Keyed.find?_insert, if_pos rfl]
  obtain ⟨predicate, arguments⟩ := atom
  rw [← @decodeArguments_encode_iff space arguments 1]
  unfold decode encode
  simp only [Element.name, Element.attributes, Element.children, beq_self_eq_true, if_true,
    isPredicate]
  cases decodeArguments space 1 (arguments.map (encodeArgument space)) with
  | error error =>
    constructor
    · intro failed
      cases failed
    · intro failed
      cases failed
  | ok others => simp only [Except.map, Except.ok.injEq, Atom.mk.injEq, true_and]

/-- **Documents of atoms.** Whatever the texts of an atom and the namespace of variables are, the
atom is written as a document that holds its element. The atom reads back from it if and only if no
name of a variable begins with a marker and no literal has an empty datatype. -/
theorem read_write_iff (space : String) (atom : Atom) :
    Markup.read (write space atom) = .ok (encode space atom) ∧
      (read space (write space atom) = .ok atom ↔
        (∀ wanted ∈ atom.variableList, Unmarked wanted.name) ∧
          ∀ value, Argument.literal value ∈ atom.arguments → value.datatype? ≠ some "") := by
  refine ⟨read_write_encode space atom, ?_⟩
  unfold read
  rw [read_write_encode]
  simp only [decode_encode_iff]
  constructor
  · intro own
    refine ⟨fun wanted member => ?_, fun value member => own _ member⟩
    exact own _ (Evaluation.mem_variableList.mp member)
  · rintro ⟨unmarked, typed⟩ argument member
    cases argument with
    | «variable» wanted => exact unmarked wanted (Evaluation.mem_variableList.mpr member)
    | literal value => exact typed value member

end Atoms

end AtomMarkup

end RuleAtoms
