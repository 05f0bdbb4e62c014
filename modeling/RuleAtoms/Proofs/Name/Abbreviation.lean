/-
**Abbreviations stand for what they abbreviate.**

An IRI is abbreviated by the candidate that is taken of all bindings (`best?`, `compact?_eq`).

* `candidate?_eq_some_iff`: which bindings are candidates;
* `foldl_longer_eq`: of several candidates the last one with the longest namespace is taken;
* `best?_eq_some`: its prefix is bound, what it leaves of the IRI is a local name, and the two expand
  to the IRI again. This holds whatever the namespaces are, and whichever binding is taken.
-/

import Mathlib.Data.List.Induction
import Mathlib.Data.List.Infix
import RuleAtoms.Name.Prefixes

namespace RuleAtoms

theorem Iri.within?_append (space localName : String) :
    Iri.within? (space ++ localName) space = some localName := by
  unfold Iri.within?
  rw [String.toList_append, List.isPrefixOf?_eq_some_iff_append_eq.mpr rfl, Option.map_some,
    String.ofList_toList]

namespace Prefixes

/-- The text of an IRI in a namespace is the namespace and the rest. -/
theorem eq_append_of_within? {iri space localName : String}
    (within : Iri.within? iri space = some localName) : iri = space ++ localName := by
  obtain ⟨rest, isPrefix, rfl⟩ := Option.map_eq_some_iff.mp within
  rw [← String.toList_inj, String.toList_append, String.toList_ofList]
  exact Text.eq_append_of_isPrefixOf? isPrefix

/-- **A binding is a candidate** when its namespace is not empty and leaves a local name of the IRI. -/
theorem candidate?_eq_some_iff {iri : String} {binding : String × String} {candidate : Candidate} :
    candidate? iri binding = some candidate ↔
      ∃ localName, binding.2 ≠ "" ∧ binding.2 ++ localName = iri ∧ isLocalName localName = true ∧
        candidate = ⟨binding.1, binding.2, localName⟩ := by
  unfold candidate?
  constructor
  · intro made
    split at made
    · cases made
    · rename_i nonempty
      split at made
      · rename_i localName within
        split at made
        · rename_i isLocal
          cases made
          rw [String.isEmpty_iff] at nonempty
          exact ⟨localName, nonempty, (eq_append_of_within? within).symm, isLocal, rfl⟩
        · cases made
      · cases made
  · rintro ⟨localName, nonempty, rfl, isLocal, rfl⟩
    rw [if_neg (by rwa [String.isEmpty_iff])]
    simp only [Iri.within?_append, isLocal, if_true]

/-- A candidate comes from a binding, and expands to the IRI. -/
theorem candidate?_eq_some {prefixes : Prefixes} {iri : String} {binding : String × String}
    {candidate : Candidate} (member : binding ∈ prefixes.entries)
    (made : candidate? iri binding = some candidate) :
    candidate.start ∈ prefixes.keys ∧ isLocalName candidate.localName = true ∧
      expand? prefixes candidate.start candidate.localName = some iri := by
  obtain ⟨localName, -, isIri, isLocal, rfl⟩ := candidate?_eq_some_iff.mp made
  refine ⟨List.mem_map_of_mem member, isLocal, ?_⟩
  unfold expand?
  rw [Keyed.find?_eq_some_iff.mpr member, Option.map_some, isIri]

/-- **The candidate that is taken** is the last one of those with the longest namespace. -/
theorem foldl_longer_eq (first : Candidate) (rest : List Candidate) :
    ∃ before after, first :: rest = before ++ rest.foldl longer first :: after ∧
      (∀ other ∈ before, other.space.length ≤ (rest.foldl longer first).space.length) ∧
      ∀ other ∈ after, other.space.length < (rest.foldl longer first).space.length := by
  induction rest using List.reverseRecOn with
  | nil => exact ⟨[], [], rfl, by simp, by simp⟩
  | append_singleton front last ih =>
    obtain ⟨before, after, parts, longest, later⟩ := ih
    rw [List.foldl_concat, ← List.cons_append, parts, longer]
    split
    · rename_i shorter
      refine ⟨before, after ++ [last], by simp, longest, fun other member => ?_⟩
      rcases List.mem_append.mp member with inAfter | isLast
      · exact later other inAfter
      · rw [List.mem_singleton.mp isLast]
        exact shorter
    · rename_i notShorter
      refine ⟨before ++ front.foldl longer first :: after, [], rfl, fun other member => ?_, by simp⟩
      have atMost : other.space.length ≤ (front.foldl longer first).space.length := by
        rcases List.mem_append.mp member with inBefore | inRest
        · exact longest other inBefore
        · rcases List.mem_cons.mp inRest with rfl | inAfter
          · exact Nat.le_refl _
          · exact Nat.le_of_lt (later other inAfter)
      omega

/-- The candidate that is taken is one of the candidates. -/
theorem foldl_longer_mem (first : Candidate) (rest : List Candidate) :
    rest.foldl longer first ∈ first :: rest := by
  obtain ⟨before, after, parts, -⟩ := foldl_longer_eq first rest
  rw [parts]
  exact List.mem_append_right _ List.mem_cons_self

/-- The candidate that abbreviates an IRI, if there is one. -/
def best? (prefixes : Prefixes) (iri : String) : Option Candidate :=
  match prefixes.entries.filterMap (candidate? iri) with
  | [] => none
  | first :: rest => some (rest.foldl longer first)

theorem compact?_eq (prefixes : Prefixes) (iri : String) :
    compact? prefixes iri = (best? prefixes iri).map fun best =>
      best.start ++ ":" ++ best.localName := by
  unfold compact? best?
  cases prefixes.entries.filterMap (candidate? iri) <;> rfl

/-- **An abbreviation is a bound prefix and a local name**, and stands for the IRI. -/
theorem best?_eq_some {prefixes : Prefixes} {iri : String} {best : Candidate}
    (taken : best? prefixes iri = some best) :
    best.start ∈ prefixes.keys ∧ isLocalName best.localName = true ∧
      expand? prefixes best.start best.localName = some iri := by
  unfold best? at taken
  split at taken
  · cases taken
  · rename_i first rest candidates
    have isCandidate := foldl_longer_mem first rest
    rw [← candidates, Option.some.inj taken] at isCandidate
    obtain ⟨binding, member, made⟩ := List.mem_filterMap.mp isCandidate
    exact candidate?_eq_some member made

end Prefixes

end RuleAtoms
