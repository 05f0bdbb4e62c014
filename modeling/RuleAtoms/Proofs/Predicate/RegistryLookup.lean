/-
**Which entry a registry finds.**

Predicates have distinct local names, so distinct IRIs, and a registry has at most one entry for
each predicate. So an IRI finds the one entry whose predicate has it.

* `get?_eq_some_iff`, `get?_eq_none_iff`: what is found under an IRI.
-/

import Mathlib.Data.List.Nodup
import RuleAtoms.Predicate.Registry

namespace RuleAtoms

theorem Predicate.ofLocalName?_localName (predicate : Predicate) :
    ofLocalName? predicate.localName = some predicate := by
  cases predicate <;> rfl

theorem Predicate.localName_injective : Function.Injective localName := by
  intro first second same
  have found := ofLocalName?_localName first
  rw [same, ofLocalName?_localName] at found
  exact (Option.some.inj found).symm

/-- Predicates have distinct IRIs. -/
theorem Predicate.iri_injective : Function.Injective iri := by
  intro first second same
  exact localName_injective ((String.append_right_inj _).mp same)

namespace Registry

variable {registry : Registry} {iri : String} {spec : Spec}

/-- **An IRI finds the entry whose predicate has it.** -/
theorem get?_eq_some_iff :
    registry.get? iri = some spec ↔ spec ∈ registry.specs ∧ spec.predicate.iri = iri := by
  have sound : ∀ {other}, registry.get? iri = some other →
      other ∈ registry.specs ∧ other.predicate.iri = iri := by
    intro other found
    exact ⟨List.mem_of_find?_eq_some found, by simpa using List.find?_some found⟩
  refine ⟨sound, fun ⟨member, named⟩ => ?_⟩
  cases found : registry.get? iri with
  | none =>
    have noEntry := List.find?_eq_none.mp found spec member
    exact absurd (beq_iff_eq.mpr named) noEntry
  | some other =>
    obtain ⟨otherMember, otherNamed⟩ := sound found
    have samePredicate := Predicate.iri_injective (otherNamed.trans named.symm)
    rw [List.inj_on_of_nodup_map registry.distinct otherMember member samePredicate]

/-- An IRI finds nothing when no entry's predicate has it. -/
theorem get?_eq_none_iff :
    registry.get? iri = none ↔ ∀ spec ∈ registry.specs, spec.predicate.iri ≠ iri := by
  unfold get?
  simp only [List.find?_eq_none, beq_iff_eq, ne_eq]

end Registry

end RuleAtoms
