/-
**By which names a predicate is found.**

A predicate has three names: its full IRI, its local name behind the usual prefix, and its local name
alone. An IRI begins like none of the other names, and no local name begins with the prefix, so a name
that is looked up is tried as an IRI and then as a local name without losing anything.

* `ofIri?_eq_some_iff`: which IRI is that of a predicate;
* `lookup?_eq_some_iff`: a name finds the entry whose predicate has it.
-/

import RuleAtoms.Proofs.Name.Abbreviation
import RuleAtoms.Proofs.Predicate.RegistryLookup

namespace RuleAtoms

namespace Predicate

variable {predicate other : Predicate} {name iri : String}

/-- The full IRI of a predicate, its local name with the usual prefix, or its local name alone. -/
def HasName (predicate : Predicate) (name : String) : Prop :=
  name = predicate.iri ∨ name = predicate.shortName ∨ name = predicate.localName

theorem ofLocalName?_eq_some_iff :
    ofLocalName? name = some predicate ↔ predicate.localName = name := by
  constructor
  · intro found
    simpa using List.find?_some found
  · rintro rfl
    exact ofLocalName?_localName predicate

/-- **The IRI of a predicate** is read as the predicate, and no other IRI is. -/
theorem ofIri?_eq_some_iff : ofIri? iri = some predicate ↔ iri = predicate.iri := by
  unfold ofIri?
  rw [Option.bind_eq_some_iff]
  constructor
  · rintro ⟨localName, within, named⟩
    rw [Prefixes.eq_append_of_within? within, ← ofLocalName?_eq_some_iff.mp named]
    rfl
  · rintro rfl
    exact ⟨predicate.localName, Iri.within?_append _ _, ofLocalName?_localName predicate⟩

/-! ### Names of different kinds -/

theorem head?_iri (predicate : Predicate) : predicate.iri.toList.head? = some 'h' := by
  unfold iri
  rw [String.toList_append]
  rfl

theorem iri_ne_shortName (predicate other : Predicate) : predicate.iri ≠ other.shortName := by
  intro same
  have first := head?_iri predicate
  rw [same, shortName, String.toList_append] at first
  have sameCharacter : some 's' = some 'h' := first
  exact absurd sameCharacter (by decide)

theorem iri_ne_localName (predicate other : Predicate) : predicate.iri ≠ other.localName := by
  intro same
  have first := head?_iri predicate
  rw [same] at first
  cases other <;> exact absurd first (by decide)

/-- No local name begins with the usual prefix. -/
theorem isPrefixOf?_localName (predicate : Predicate) :
    "swrlb:".toList.isPrefixOf? predicate.localName.toList = none := by
  cases predicate <;> rfl

/-- What a name has behind the usual prefix, if it begins with it, is the local name of a predicate
exactly for its two short names. -/
theorem localName_eq_dropStart_iff :
    predicate.localName = String.ofList (Text.dropStart "swrlb:".toList name.toList) ↔
      name = predicate.shortName ∨ name = predicate.localName := by
  simp only [← String.toList_inj, String.toList_ofList, shortName, String.toList_append]
  have noPrefix := isPrefixOf?_localName predicate
  unfold Text.dropStart
  cases isPrefix : "swrlb:".toList.isPrefixOf? name.toList with
  | some rest =>
    rw [Option.getD_some, Text.eq_append_of_isPrefixOf? isPrefix, List.append_cancel_left_eq,
      eq_comm, or_iff_left]
    intro same
    rw [← same, List.isPrefixOf?_eq_some_iff_append_eq.mpr rfl] at noPrefix
    cases noPrefix
  | none =>
    rw [Option.getD_none, eq_comm, or_iff_right]
    intro same
    rw [same, List.isPrefixOf?_eq_some_iff_append_eq.mpr rfl] at isPrefix
    cases isPrefix

end Predicate

namespace Registry

variable {registry : Registry} {name : String} {spec : Spec}

/-- **A name finds the entry whose predicate has it.** -/
theorem lookup?_eq_some_iff :
    registry.lookup? name = some spec ↔ spec ∈ registry.specs ∧ spec.predicate.HasName name := by
  unfold lookup? Predicate.HasName
  cases found : registry.get? name with
  | some other =>
    have isOther : name = other.predicate.iri := (get?_eq_some_iff.mp found).2.symm
    have noShort : name ≠ spec.predicate.shortName := isOther ▸ Predicate.iri_ne_shortName _ _
    have noLocal : name ≠ spec.predicate.localName := isOther ▸ Predicate.iri_ne_localName _ _
    show some other = some spec ↔ _
    rw [or_iff_left (not_or.mpr ⟨noShort, noLocal⟩), eq_comm (a := name), ← get?_eq_some_iff, found]
  | none =>
    show registry.get? _ = some spec ↔ _
    rw [get?_eq_some_iff]
    refine and_congr_right fun member => ?_
    have noIri : name ≠ spec.predicate.iri := (get?_eq_none_iff.mp found spec member).symm
    rw [or_iff_right noIri, ← Predicate.localName_eq_dropStart_iff]
    exact String.append_right_inj _

/-- An IRI is known when it finds an entry. -/
theorem isKnown_eq (registry : Registry) (iri : String) :
    registry.isKnown iri = (registry.get? iri).isSome := List.isSome_find?.symm

end Registry

end RuleAtoms
