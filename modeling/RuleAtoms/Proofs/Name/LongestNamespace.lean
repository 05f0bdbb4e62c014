/-
**An IRI is abbreviated by the longest namespace that it begins with.**

Only bindings that leave a local name of the IRI are candidates, and of these the last of the longest
is taken (`foldl_longer_eq`). A longer namespace that the IRI begins with would be a candidate too:
what it leaves of the IRI is the end of a local name (`isLocalName_of_append`). So the namespace that
is taken is the longest of all that the IRI begins with, whatever they leave of it.

* `takes_of_best?`, `best?_of_takes`: the binding that is taken is the last one of the longest
  namespace, and no other is;
* `compact?_longest`: when an IRI is abbreviated, and by what.
-/

import RuleAtoms.Proofs.Name.Abbreviation

namespace RuleAtoms.Prefixes

variable {prefixes : Prefixes} {iri start space localName : String}

/-- The end of a local name is a local name. -/
theorem isLocalName_of_append {front back : String} (isLocal : isLocalName (front ++ back) = true) :
    isLocalName back = true := by
  unfold isLocalName at isLocal ⊢
  rw [String.toList_append, List.all_append, Bool.and_eq_true] at isLocal
  exact isLocal.2

/-- The binding of a prefix to a namespace abbreviates an IRI by a local name, and is the last one of
the longest namespace that the IRI begins with. -/
structure Takes (prefixes : Prefixes) (iri start space localName : String) : Prop where
  bound : prefixes.find? start = some space
  nonempty : space ≠ ""
  parts : space ++ localName = iri
  isLocal : isLocalName localName = true
  longest : ∀ binding ∈ prefixes.entries, (∃ rest, binding.2 ++ rest = iri) →
    binding.2.length ≤ space.length
  last : ∃ front back, prefixes.entries = front ++ (start, space) :: back ∧
    ∀ binding ∈ back, binding.2 ≠ space

/-- Of two namespaces that an IRI begins with, the longer one begins with the other. -/
theorem exists_append_of_length_le {shorter rest : String} (parts : space ++ localName = iri)
    (others : shorter ++ rest = iri) (atMost : shorter.length ≤ space.length) :
    ∃ between, shorter ++ between = space ∧ rest = between ++ localName := by
  rw [← String.toList_inj, String.toList_append] at parts others
  rw [← String.length_toList, ← String.length_toList] at atMost
  obtain ⟨between, isSpace⟩ := List.prefix_of_prefix_length_le ⟨_, others⟩ ⟨_, parts⟩ atMost
  rw [← parts, ← isSpace, List.append_assoc] at others
  refine ⟨String.ofList between, ?_, ?_⟩
  · rw [← String.toList_inj, String.toList_append, String.toList_ofList, isSpace]
  · rw [← String.toList_inj, String.toList_append, String.toList_ofList]
    exact List.append_cancel_left others

/-- **The binding that is taken** is the last one of the longest namespace. A longer one would leave
the end of a local name, and so be a candidate too. -/
theorem takes_of_best? {best : Candidate} (taken : best? prefixes iri = some best) :
    Takes prefixes iri best.start best.space best.localName := by
  unfold best? at taken
  split at taken
  · cases taken
  rename_i first rest candidates
  obtain rfl := Option.some.inj taken
  obtain ⟨before, after, parts, atMost, less⟩ := foldl_longer_eq first rest
  rw [parts] at candidates
  generalize rest.foldl longer first = best at candidates atMost less
  obtain ⟨front, others, entries, -, fromOthers⟩ := List.filterMap_eq_append_iff.mp candidates
  obtain ⟨between, binding, back, rfl, noneBetween, made, fromBack⟩ :=
    List.filterMap_eq_cons_iff.mp fromOthers
  obtain ⟨localName, nonempty, isIri, isLocal, rfl⟩ := candidate?_eq_some_iff.mp made
  have longest : ∀ other ∈ prefixes.entries, ∀ candidate, candidate? iri other = some candidate →
      candidate.space.length ≤ binding.2.length := by
    intro other member candidate isCandidate
    have inCandidates := List.mem_filterMap.mpr ⟨other, member, isCandidate⟩
    rw [candidates] at inCandidates
    rcases List.mem_append.mp inCandidates with inBefore | inRest
    · exact atMost candidate inBefore
    · rcases List.mem_cons.mp inRest with rfl | inAfter
      · exact Nat.le_refl _
      · exact Nat.le_of_lt (less candidate inAfter)
  refine ⟨?_, nonempty, isIri, isLocal, ?_, front ++ between, back, by simp [entries], ?_⟩
  · exact Keyed.find?_eq_some_iff.mpr (by simp [entries])
  · rintro other member ⟨left, isOther⟩
    change other.2.length ≤ binding.2.length
    by_contra isLonger
    obtain ⟨more, isSpace, rfl⟩ := exists_append_of_length_le isOther isIri (by omega)
    have otherNonempty : other.2 ≠ "" := fun isEmpty => by simp [isEmpty] at isLonger
    have isCandidate := candidate?_eq_some_iff.mpr
      ⟨left, otherNonempty, isOther, isLocalName_of_append isLocal, rfl⟩
    exact isLonger (longest other member _ isCandidate)
  · intro other member (same : other.2 = binding.2)
    rw [← same] at nonempty isIri
    have isCandidate := candidate?_eq_some_iff.mpr ⟨localName, nonempty, isIri, isLocal, rfl⟩
    have inAfter := fromBack ▸ List.mem_filterMap.mpr ⟨other, member, isCandidate⟩
    have isShorter : other.2.length < binding.2.length := less _ inAfter
    rw [same] at isShorter
    exact absurd isShorter (Nat.lt_irrefl _)

/-- What is the last of its kind in a list is the only one. -/
theorem eq_of_last {α β : Type} {key : α → β} {first second : α} {front back front' back' : List α}
    (same : front ++ first :: back = front' ++ second :: back') (sameKey : key first = key second)
    (last : ∀ other ∈ back, key other ≠ key first)
    (last' : ∀ other ∈ back', key other ≠ key second) : first = second := by
  rcases List.append_eq_append_iff.mp same with ⟨between, -, split⟩ | ⟨between, -, split⟩
  · cases between with
    | nil => exact (List.cons.inj split).1
    | cons other more =>
      have inBack : second ∈ back := by rw [(List.cons.inj split).2]; simp
      exact absurd sameKey.symm (last second inBack)
  · cases between with
    | nil => exact (List.cons.inj split).1.symm
    | cons other more =>
      have inBack : first ∈ back' := by rw [(List.cons.inj split).2]; simp
      exact absurd sameKey (last' first inBack)

/-- Only one binding can be taken. -/
theorem Takes.unique {start' space' localName' : String}
    (first : Takes prefixes iri start space localName)
    (second : Takes prefixes iri start' space' localName') :
    start = start' ∧ space = space' ∧ localName = localName' := by
  obtain ⟨front, back, entries, last⟩ := first.last
  obtain ⟨front', back', entries', last'⟩ := second.last
  have notShorter : space'.length ≤ space.length :=
    first.longest (start', space') (by simp [entries']) ⟨localName', second.parts⟩
  have notLonger : space.length ≤ space'.length :=
    second.longest (start, space) (by simp [entries]) ⟨localName, first.parts⟩
  have sides : space.toList = space'.toList ∧ localName.toList = localName'.toList := by
    have together := first.parts.trans second.parts.symm
    rw [← String.toList_inj, String.toList_append, String.toList_append] at together
    refine List.append_inj together ?_
    rw [String.length_toList, String.length_toList]
    omega
  obtain rfl := String.toList_inj.mp sides.1
  have sameBinding := @eq_of_last _ _ Prod.snd _ _ _ _ _ _ (entries.symm.trans entries') rfl last last'
  exact ⟨(Prod.mk.inj sameBinding).1, rfl, String.toList_inj.mp sides.2⟩

/-- There is a binding to take as soon as one binding leaves a local name. -/
theorem isSome_best?_iff :
    (best? prefixes iri).isSome = true ↔ ∃ binding ∈ prefixes.entries, binding.2 ≠ "" ∧
      ∃ localName, binding.2 ++ localName = iri ∧ isLocalName localName = true := by
  unfold best?
  split
  · rename_i noCandidate
    rw [List.filterMap_eq_nil_iff] at noCandidate
    simp only [Option.isSome_none, Bool.false_eq_true, false_iff]
    rintro ⟨binding, member, nonempty, localName, isIri, isLocal⟩
    have made := candidate?_eq_some_iff.mpr ⟨localName, nonempty, isIri, isLocal, rfl⟩
    exact nomatch (noCandidate binding member).symm.trans made
  · rename_i first rest candidates
    have isCandidate : first ∈ prefixes.entries.filterMap (candidate? iri) := by simp [candidates]
    obtain ⟨binding, member, made⟩ := List.mem_filterMap.mp isCandidate
    obtain ⟨localName, nonempty, isIri, isLocal, -⟩ := candidate?_eq_some_iff.mp made
    simp only [Option.isSome_some, true_iff]
    exact ⟨binding, member, nonempty, localName, isIri, isLocal⟩

/-- **A binding that can be taken is taken.** -/
theorem best?_of_takes (takes : Takes prefixes iri start space localName) :
    best? prefixes iri = some ⟨start, space, localName⟩ := by
  obtain ⟨front, back, entries, -⟩ := takes.last
  have isSome : (best? prefixes iri).isSome = true :=
    isSome_best?_iff.mpr ⟨(start, space), by simp [entries], takes.nonempty, localName, takes.parts,
      takes.isLocal⟩
  obtain ⟨best, taken⟩ := Option.isSome_iff_exists.mp isSome
  obtain ⟨rfl, rfl, rfl⟩ := takes.unique (takes_of_best? taken)
  exact taken

/-- **An IRI is abbreviated by the longest namespace.** It is abbreviated as soon as one namespace
that is not empty leaves a local name of it. The abbreviation is then a prefix and a local name that
expand to the IRI; the namespace of the prefix is the longest of all that the IRI begins with, whatever
they leave of it, and the prefix is the last one that is bound to this namespace. -/
theorem compact?_longest (prefixes : Prefixes) (iri : String) :
    ((compact? prefixes iri).isSome = true ↔
        ∃ binding ∈ prefixes.entries, binding.2 ≠ "" ∧
          ∃ localName, binding.2 ++ localName = iri ∧ isLocalName localName = true) ∧
      ∀ text, compact? prefixes iri = some text ↔
        ∃ start space localName, Takes prefixes iri start space localName ∧
          expand? prefixes start localName = some iri ∧ text = start ++ ":" ++ localName := by
  rw [compact?_eq, Option.isSome_map]
  refine ⟨isSome_best?_iff, fun text => ?_⟩
  rw [Option.map_eq_some_iff]
  constructor
  · rintro ⟨best, taken, rfl⟩
    exact ⟨_, _, _, takes_of_best? taken, (best?_eq_some taken).2.2, rfl⟩
  · rintro ⟨start, space, localName, takes, -, rfl⟩
    exact ⟨_, best?_of_takes takes, rfl⟩

/-- A longer namespace wins over earlier and later ones, the last of its prefixes over the others,
and neither an empty namespace nor one that leaves no local name counts. -/
example :
    compact? (Keyed.ofList [("w3", "http://w3/"), ("a", "http://w3/2003/#"), ("e", ""),
      ("b", "http://w3/2003/#"), ("y", "http://w3/2003/")]) "http://w3/2003/#mod" = some "b:mod" := by
  decide +kernel

end RuleAtoms.Prefixes
