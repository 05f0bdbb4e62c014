/-
**Datatypes that are written legibly.**

A datatype that is no full IRI is written as it stands, as if it were short already, and so is one that
looks like an abbreviated name. It is read again only if this happens to be a name.

* `exists_writable_of_isLegible`: a legible datatype is written like one that can be written;
* `isLegible_of_datatype?`: and what is read from a writing as a datatype that is written the same, is
  the writing of a legible one.
-/

import RuleAtoms.Proofs.AtomText.Readers
import RuleAtoms.Proofs.Name.Expansion

namespace RuleAtoms.AtomText

open Text (Ends)

/-- Whether a datatype is an IRI that fits between angle brackets and is not taken for an abbreviated
name. -/
def isFullDatatype (prefixes : Prefixes) (datatype : String) : Bool :=
  Iri.isAbsolute datatype && isEnclosable datatype && !Prefixes.isAbbreviated prefixes datatype

/-- Prefixes whose expanded names are full IRIs and can be abbreviated in one way only. -/
structure AreRegular (prefixes : Prefixes) : Prop where
  readable : HasReadableKeys prefixes
  separated : prefixes.AreSeparated
  full : ∀ binding ∈ prefixes.entries, isFullDatatype prefixes binding.2 = true

theorem areRegular_standard : AreRegular Prefixes.standard where
  readable := by
    unfold HasReadableKeys
    decide
  separated := ⟨by decide, by decide⟩
  full := by decide

variable {prefixes : Prefixes} {start space localName datatype : String}

theorem isEnclosable_append {first second : String} :
    isEnclosable (first ++ second) = (isEnclosable first && isEnclosable second) := by
  unfold isEnclosable
  rw [String.toList_append, List.all_append]

theorem isEnclosable_of_isLocalName (isLocal : isLocalName localName = true) :
    isEnclosable localName = true := by
  refine List.all_eq_true.mpr fun c member => ?_
  have isName := List.all_eq_true.mp isLocal c member
  have noBracket : c ≠ '>' := by
    rintro rfl
    exact absurd isName (by decide)
  rw [isBlank_of_isNameChar isName, bne_iff_ne.mpr noBracket]
  rfl

theorem isWritableDatatype_of_full (full : isFullDatatype prefixes datatype = true) :
    isWritableDatatype prefixes datatype = true :=
  (Bool.or_eq_true _ _).mpr (Or.inr full)

/-- What is written as an IRI is a full one if it fits between angle brackets. -/
theorem isFullDatatype_of_isEnclosable
    (isIri : (Iri.isAbsolute datatype && !Prefixes.isAbbreviated prefixes datatype) = true)
    (enclosable : isEnclosable datatype = true) : isFullDatatype prefixes datatype = true := by
  unfold isFullDatatype
  rwa [enclosable, Bool.and_true]

theorem isEnclosable_of_full (full : isFullDatatype prefixes datatype = true) :
    isEnclosable datatype = true := by
  obtain ⟨absoluteEnclosable, -⟩ := (Bool.and_eq_true _ _).mp full
  exact ((Bool.and_eq_true _ _).mp absoluteEnclosable).2

theorem renderDatatype_of_full (full : isFullDatatype prefixes datatype = true) :
    Prefixes.renderDatatype prefixes datatype = Prefixes.render prefixes datatype := by
  obtain ⟨absoluteEnclosable, notAbbreviated⟩ := (Bool.and_eq_true _ _).mp full
  obtain ⟨absolute, -⟩ := (Bool.and_eq_true _ _).mp absoluteEnclosable
  unfold Prefixes.renderDatatype
  rw [absolute, notAbbreviated, Bool.and_true, if_pos rfl]

/-- A name in a namespace begins with the scheme of the namespace. -/
theorem isFullDatatype_append (full : isFullDatatype prefixes space = true)
    (isLocal : isLocalName localName = true) :
    isFullDatatype prefixes (space ++ localName) = true := by
  unfold isFullDatatype at full ⊢
  rw [isEnclosable_append, isEnclosable_of_isLocalName isLocal, Bool.and_true]
  unfold Iri.isAbsolute Prefixes.isAbbreviated at full ⊢
  cases found : Text.splitFirst? [':'] space.toList with
  | none =>
    rw [found] at full
    cases full
  | some parts =>
    rw [found] at full
    rw [String.toList_append, Text.splitFirst?_append found]
    exact full

/-- What an abbreviated name with a bound prefix stands for fits between angle brackets. -/
theorem isEnclosable_of_find? (regular : AreRegular prefixes)
    (bound : prefixes.find? start = some space) (isLocal : isLocalName localName = true) :
    isEnclosable (space ++ localName) = true := by
  have full : isFullDatatype prefixes space = true :=
    regular.full (start, space) (Keyed.find?_eq_some_iff.mp bound)
  exact isEnclosable_of_full (isFullDatatype_append full isLocal)

/-- The colon of an abbreviated name is its first one. -/
theorem splitFirst?_abbreviation (isStart : start.toList.all isPrefixChar = true)
    (localName : String) : Text.splitFirst? [':'] (start ++ ":" ++ localName).toList =
      some (start.toList, localName.toList) := by
  have noColon : ':' ∉ start.toList := fun member =>
    absurd (List.all_eq_true.mp isStart ':' member) (by decide)
  have characters := toList_abbreviation start localName []
  rw [List.append_nil, List.append_nil] at characters
  rw [characters, Text.splitFirst?_singleton noColon]

/-- A name with a bound prefix stays as it is. -/
theorem renderDatatype_abbreviation (isStart : start.toList.all isPrefixChar = true)
    (bound : start ∈ prefixes.keys) (localName : String) :
    Prefixes.renderDatatype prefixes (start ++ ":" ++ localName) = start ++ ":" ++ localName := by
  obtain ⟨binding, member, isStartOf⟩ := List.mem_map.mp bound
  have isAbbreviated : Prefixes.isAbbreviated prefixes (start ++ ":" ++ localName) = true := by
    unfold Prefixes.isAbbreviated
    rw [splitFirst?_abbreviation isStart]
    simp only [String.ofList_toList]
    exact List.any_eq_true.mpr ⟨binding, member, beq_iff_eq.mpr isStartOf⟩
  unfold Prefixes.renderDatatype
  rw [isAbbreviated, Bool.not_true, Bool.and_false, if_neg Bool.false_ne_true]

/-- A datatype between angle brackets begins with no scheme. -/
theorem isAbsolute_bracketed (iri : String) : Iri.isAbsolute (Iri.bracketed iri) = false := by
  have characters := toList_bracketed iri []
  rw [List.append_nil] at characters
  unfold Iri.isAbsolute
  split
  · rename_i scheme behind found
    have isText := Text.splitFirst?_eq_some found
    rw [characters] at isText
    cases scheme with
    | nil => cases isText
    | cons first others =>
      rw [← (List.cons.inj isText).1]
      rfl
  · rfl

/-- Whether a datatype is written as a datatype that can be written, and so is read again as one that
is written the same: it can be written itself, or it is an abbreviated name with a bound prefix, or
an IRI that no prefix applies to between angle brackets. -/
def IsLegible (prefixes : Prefixes) (datatype : String) : Prop :=
  isWritableDatatype prefixes datatype = true ∨
    (∃ start localName, start ∈ prefixes.keys ∧ isLocalName localName = true ∧
      datatype = start ++ ":" ++ localName) ∨
    ∃ iri, isFullDatatype prefixes iri = true ∧ Prefixes.compact? prefixes iri = none ∧
      datatype = Iri.bracketed iri

/-- **A legible datatype is written like one that can be written.** -/
theorem exists_writable_of_isLegible (regular : AreRegular prefixes)
    (legible : IsLegible prefixes datatype) :
    ∃ other, isWritableDatatype prefixes other = true ∧
      Prefixes.renderDatatype prefixes other = Prefixes.renderDatatype prefixes datatype := by
  rcases legible with writable | ⟨start, localName, bound, isLocal, rfl⟩ |
    ⟨iri, full, noPrefix, rfl⟩
  · exact ⟨datatype, writable, rfl⟩
  · obtain ⟨⟨key, space⟩, member, rfl⟩ := List.mem_map.mp bound
    have full := isFullDatatype_append (regular.full _ member) isLocal
    have compacts :=
      Prefixes.compact?_append regular.separated (Keyed.find?_eq_some_iff.mpr member) isLocal
    refine ⟨space ++ localName, isWritableDatatype_of_full full, ?_⟩
    rw [renderDatatype_abbreviation (regular.readable _ bound) bound,
      renderDatatype_of_full full, Prefixes.render, compacts, Option.getD_some]
  · refine ⟨iri, isWritableDatatype_of_full full, ?_⟩
    rw [renderDatatype_of_full full, Prefixes.render, noPrefix, Option.getD_none,
      Prefixes.renderDatatype, isAbsolute_bracketed, Bool.false_and, if_neg Bool.false_ne_true]

/-- No abbreviated name looks like an IRI between angle brackets. -/
theorem abbreviation_ne_bracketed (isStart : start.toList.all isPrefixChar = true)
    (localName iri : String) : start ++ ":" ++ localName ≠ Iri.bracketed iri := by
  intro same
  have noBracket : ((start ++ ":" ++ localName).toList ++ []).head? ≠ some '<' :=
    head?_append_colon isStart (by decide) (by decide)
  rw [same, toList_bracketed] at noBracket
  exact noBracket rfl

theorem bracketed_injective {first second : String}
    (same : Iri.bracketed first = Iri.bracketed second) : first = second := by
  have characters := congrArg (fun text => text.toList ++ []) same
  simp only [toList_bracketed, List.cons.injEq, true_and] at characters
  exact String.toList_inj.mp (List.append_cancel_right characters)

/-- An IRI between angle brackets is read only if it fits between them. -/
theorem isEnclosable_of_datatype? {name : Name} {iri : String}
    (isRead : datatype? (Iri.bracketed iri).toList = some (name, [])) :
    isEnclosable iri = true := by
  rcases datatype?_eq_some_iff.mp isRead with isName | ⟨-, word, -, isLocal, -, -, isText⟩
  · rcases name?_eq_some_iff.mp isName with isBracketed | isAbbreviated
    · obtain ⟨other, enclosable, -, isText⟩ := iri?_eq_some_iff.mp isBracketed
      rw [List.append_nil] at isText
      rwa [bracketed_injective (String.toList_inj.mp isText)]
    · obtain ⟨start, localName, isStart, -, -, -, isText⟩ :=
        abbreviated?_eq_some_iff.mp isAbbreviated
      rw [List.append_nil] at isText
      exact absurd (String.toList_inj.mp isText).symm
        (abbreviation_ne_bracketed isStart localName iri)
  · have inWord : '<' ∈ word.toList ++ [] := by
      rw [← isText]
      unfold Iri.bracketed
      simp
    rw [List.append_nil] at inWord
    exact absurd (List.all_eq_true.mp isLocal '<' inWord) (by decide)

/-- An IRI that is written between angle brackets is a full one to which no prefix applies. -/
theorem full_of_renderDatatype (readable : HasReadableKeys prefixes) {iri : String}
    (enclosable : isEnclosable iri = true)
    (isText : Prefixes.renderDatatype prefixes iri = Iri.bracketed iri) :
    isFullDatatype prefixes iri = true ∧ Prefixes.compact? prefixes iri = none := by
  by_cases isIri : (Iri.isAbsolute iri && !Prefixes.isAbbreviated prefixes iri) = true
  · refine ⟨isFullDatatype_of_isEnclosable isIri enclosable, ?_⟩
    unfold Prefixes.renderDatatype Prefixes.render at isText
    rw [if_pos isIri] at isText
    rw [Prefixes.compact?_eq] at isText ⊢
    cases taken : Prefixes.best? prefixes iri with
    | none => rfl
    | some best =>
      rw [taken, Option.map_some, Option.getD_some] at isText
      exact absurd isText (abbreviation_ne_bracketed (readable.start iri best taken) _ _)
  · have stays : Prefixes.renderDatatype prefixes iri = iri := if_neg isIri
    have lengths := congrArg String.length (stays.symm.trans isText)
    have bracket : "<".length = 1 := by decide
    unfold Iri.bracketed at lengths
    simp only [String.length_append] at lengths
    omega

/-- **A datatype is legible as soon as its writing is read** as a datatype that is written the same. -/
theorem isLegible_of_datatype? (regular : AreRegular prefixes) {name : Name} {other : String}
    (isRead : datatype? (Prefixes.renderDatatype prefixes datatype).toList = some (name, []))
    (resolves : name.resolve prefixes = .ok other)
    (sameText : Prefixes.renderDatatype prefixes other =
      Prefixes.renderDatatype prefixes datatype) :
    IsLegible prefixes datatype := by
  by_cases isIri : (Iri.isAbsolute datatype && !Prefixes.isAbbreviated prefixes datatype) = true
  · have isWritable (enclosable : isEnclosable datatype = true) : IsLegible prefixes datatype :=
      Or.inl (isWritableDatatype_of_full (isFullDatatype_of_isEnclosable isIri enclosable))
    unfold Prefixes.renderDatatype Prefixes.render at isRead
    rw [if_pos isIri] at isRead
    cases taken : Prefixes.best? prefixes datatype with
    | some best =>
      obtain ⟨-, isLocal, expands⟩ := Prefixes.best?_eq_some taken
      obtain ⟨space, bound, rfl⟩ := Option.map_eq_some_iff.mp expands
      exact isWritable (isEnclosable_of_find? regular bound isLocal)
    | none =>
      rw [Prefixes.compact?_eq, taken, Option.map_none, Option.getD_none] at isRead
      exact isWritable (isEnclosable_of_datatype? isRead)
  · have stays : Prefixes.renderDatatype prefixes datatype = datatype := if_neg isIri
    rw [stays] at isRead sameText
    rcases datatype?_eq_some_iff.mp isRead with isName | ⟨-, word, nonempty, isLocal, -, -, isText⟩
    · rcases name?_eq_some_iff.mp isName with isBracketed | isAbbreviated
      · obtain ⟨iri, enclosable, rfl, isText⟩ := iri?_eq_some_iff.mp isBracketed
        cases resolves
        rw [List.append_nil] at isText
        obtain rfl := String.toList_inj.mp isText
        obtain ⟨full, noPrefix⟩ := full_of_renderDatatype regular.readable enclosable sameText
        exact Or.inr (Or.inr ⟨_, full, noPrefix, rfl⟩)
      · obtain ⟨start, localName, -, isLocal, -, rfl, isText⟩ :=
          abbreviated?_eq_some_iff.mp isAbbreviated
        obtain ⟨space, bound, -⟩ := resolve_abbreviated_eq_ok_iff.mp resolves
        rw [List.append_nil] at isText
        exact Or.inr (Or.inl ⟨start, localName,
          List.mem_map_of_mem (Keyed.find?_eq_some_iff.mp bound), isLocal, String.toList_inj.mp isText⟩)
    · rw [List.append_nil] at isText
      obtain rfl := String.toList_inj.mp isText
      exact Or.inl ((Bool.or_eq_true _ _).mpr
        (Or.inl ((Bool.and_eq_true _ _).mpr ⟨bne_iff_ne.mpr nonempty, isLocal⟩)))

end RuleAtoms.AtomText
