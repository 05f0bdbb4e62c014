/-
**What a registry holds after entries have been registered.**

Entries are registered from left to right, and one for a known predicate takes the place of the old
one. So a registry lists each predicate once, at the place of its first entry, with its last entry.

A registry may also be kept as a `Directory`: the entries in order, and the position of each IRI among
them. Nothing in a directory ties a position to the entry that stands there; registering does.

* `predicates_register`, `mem_register`: what one registration changes;
* `predicates_ofSpecs`, `mem_ofSpecs`: so what any number of them leaves;
* `register_directory`: registering does to a directory what it does to the registry;
* `lookups_ofSpecs`: **the list, the positions and all lookups tell the same**.
-/

import Mathlib.Data.Finset.Card
import Mathlib.Data.List.Induction
import RuleAtoms.Proofs.Predicate.Names

namespace RuleAtoms

variable {spec new : Spec} {iri name : String}

namespace Registry

variable {registry : Registry} {given : List Spec}

/-! ### One registration -/

theorem predicates_register (registry : Registry) (new : Spec) :
    (registry.register new).specs.map Spec.predicate =
      if new.predicate ∈ registry.specs.map Spec.predicate then registry.specs.map Spec.predicate
      else registry.specs.map Spec.predicate ++ [new.predicate] := by
  unfold register
  split
  · exact predicates_replaced registry.specs new
  · exact List.map_append

/-- **One registration** adds the entry and drops the one that there was for its predicate. -/
theorem mem_register : spec ∈ (registry.register new).specs ↔
    spec = new ∨ spec ∈ registry.specs ∧ spec.predicate ≠ new.predicate := by
  unfold register
  split
  · rename_i known
    obtain ⟨old, isOld, samePredicate⟩ := List.mem_map.mp known
    constructor
    · intro member
      obtain ⟨entry, isEntry, rfl⟩ := List.mem_map.mp member
      split
      · exact Or.inl rfl
      · rename_i other
        exact Or.inr ⟨isEntry, other⟩
    · rintro (rfl | ⟨member, other⟩)
      · exact List.mem_map.mpr ⟨old, isOld, if_pos samePredicate⟩
      · exact List.mem_map.mpr ⟨spec, member, if_neg other⟩
  · rename_i fresh
    rw [List.mem_append, List.mem_singleton, or_comm]
    refine or_congr_right (and_iff_left_of_imp fun member same => fresh ?_).symm
    exact List.mem_map.mpr ⟨spec, member, same⟩

/-! ### All registrations -/

theorem ofSpecs_concat (given : List Spec) (new : Spec) :
    ofSpecs (given ++ [new]) = (ofSpecs given).register new := List.foldl_concat _ _ _ _

/-- A further item is dropped if it is a repetition. -/
theorem eraseDups_concat {α : Type} [DecidableEq α] (items : List α) (new : α) :
    (items ++ [new]).eraseDups =
      if new ∈ items then items.eraseDups else items.eraseDups ++ [new] := by
  rw [List.eraseDups_append]
  by_cases known : new ∈ items <;> simp [List.removeAll, List.eraseDups_cons, known]

/-- **Each predicate is listed once**, in the order of the first entries. -/
theorem predicates_ofSpecs (given : List Spec) :
    (ofSpecs given).specs.map Spec.predicate = (given.map Spec.predicate).eraseDups := by
  induction given using List.reverseRecOn with
  | nil => rfl
  | append_singleton given new ih =>
    rw [ofSpecs_concat, predicates_register, ih, List.map_append, List.map_singleton,
      eraseDups_concat]
    simp only [List.mem_eraseDups]

/-- An entry is the last one of a list for its predicate. -/
def IsLast (given : List Spec) (spec : Spec) : Prop :=
  ∃ front back, given = front ++ spec :: back ∧
    ∀ later ∈ back, later.predicate ≠ spec.predicate

theorem isLast_concat : IsLast (given ++ [new]) spec ↔
    spec = new ∨ IsLast given spec ∧ spec.predicate ≠ new.predicate := by
  constructor
  · rintro ⟨front, back, parts, last⟩
    rcases List.eq_nil_or_concat back with rfl | ⟨between, final, rfl⟩
    · exact Or.inl (List.append_inj_right' parts rfl |> List.singleton_inj.mp).symm
    · rw [List.concat_eq_append, ← List.cons_append, ← List.append_assoc] at parts
      obtain ⟨rfl, same⟩ := List.append_inj' parts rfl
      obtain rfl := List.singleton_inj.mp same
      have isLast : ∀ later ∈ between ++ [new], later.predicate ≠ spec.predicate := by simpa using last
      refine Or.inr ⟨⟨front, between, rfl, fun later member => ?_⟩, ?_⟩
      · exact isLast later (List.mem_append_left _ member)
      · exact (isLast new (List.mem_append_right _ List.mem_cons_self)).symm
  · rintro (rfl | ⟨⟨front, back, rfl, last⟩, other⟩)
    · exact ⟨given, [], rfl, fun later member => nomatch member⟩
    · refine ⟨front, back ++ [new], by simp, fun later member => ?_⟩
      rcases List.mem_append.mp member with inBack | isNew
      · exact last later inBack
      · exact List.mem_singleton.mp isNew ▸ other.symm

/-- **The entries that are kept** are the last ones for their predicates. -/
theorem mem_ofSpecs : spec ∈ (ofSpecs given).specs ↔ IsLast given spec := by
  induction given using List.reverseRecOn with
  | nil =>
    refine iff_of_false (nomatch ·) ?_
    rintro ⟨front, back, parts, -⟩
    exact List.cons_ne_nil _ _ (List.append_eq_nil_iff.mp parts.symm).2
  | append_singleton given new ih => rw [ofSpecs_concat, mem_register, isLast_concat, ih]

theorem exists_isLast_iff {predicate : Predicate} :
    (∃ spec, IsLast given spec ∧ spec.predicate = predicate) ↔
      predicate ∈ given.map Spec.predicate := by
  rw [← List.mem_eraseDups, ← predicates_ofSpecs, List.mem_map]
  simp only [mem_ofSpecs]

theorem length_ofSpecs (given : List Spec) :
    (ofSpecs given).specs.length = (given.map Spec.predicate).toFinset.card := by
  have samePredicates : ((ofSpecs given).specs.map Spec.predicate).toFinset =
      (given.map Spec.predicate).toFinset := by
    ext predicate
    rw [predicates_ofSpecs, List.mem_toFinset, List.mem_toFinset, List.mem_eraseDups]
  rw [← samePredicates, List.toFinset_card_of_nodup (ofSpecs given).distinct, List.length_map]

end Registry

/-! ### Directories -/

/-- Entries in order, and positions for IRIs. -/
@[ext] structure Directory where
  entries : List Spec
  positions : Keyed Nat

namespace Directory

def empty : Directory := ⟨[], Keyed.empty⟩

/-- The directory with an entry added, or put at the position that its IRI has. -/
def register (directory : Directory) (spec : Spec) : Directory :=
  match directory.positions.find? spec.predicate.iri with
  | some index => { directory with entries := directory.entries.set index spec }
  | none =>
    { entries := directory.entries ++ [spec]
      positions := directory.positions.insert spec.predicate.iri directory.entries.length }

def ofSpecs (given : List Spec) : Directory := given.foldl register empty

/-- The entry at the position of a full IRI. -/
def get? (directory : Directory) (iri : String) : Option Spec :=
  (directory.positions.find? iri).bind (directory.entries[·]?)

def lookup? (directory : Directory) (name : String) : Option Spec :=
  match directory.get? name with
  | some spec => some spec
  | none =>
    directory.get?
      (Vocabulary.swrlb ++ String.ofList (Text.dropStart "swrlb:".toList name.toList))

def isKnown (directory : Directory) (iri : String) : Bool := directory.positions.contains iri

end Directory

namespace Keyed

variable {α : Type}

theorem eq_of_entries {first second : Keyed α} (same : first.entries = second.entries) :
    first = second := by
  cases first
  cases second
  congr

theorem contains_eq (map : Keyed α) (key : String) :
    map.contains key = (map.find? key).isSome := by
  unfold contains find?
  rw [Option.isSome_map, List.isSome_find?]

/-- Each key with its position. -/
def ofKeys (keys : List String) (distinct : keys.Nodup) : Keyed Nat :=
  ⟨keys.zipIdx, by rwa [List.zipIdx_map_fst]⟩

theorem find?_ofKeys {keys : List String} {distinct : keys.Nodup} {key : String} {index : Nat} :
    (ofKeys keys distinct).find? key = some index ↔ keys[index]? = some key := by
  rw [find?_eq_some_iff]
  exact List.mk_mem_zipIdx_iff_getElem?

end Keyed

namespace Registry

variable {registry : Registry} {given : List Spec} {index : Nat}

/-! ### Registries as directories -/

/-- The IRIs of the predicates, in order. -/
def iris (registry : Registry) : List String :=
  (registry.specs.map Spec.predicate).map Predicate.iri

theorem nodup_iris (registry : Registry) : registry.iris.Nodup :=
  registry.distinct.map Predicate.iri_injective

/-- A registry as it is kept. -/
def directory (registry : Registry) : Directory :=
  ⟨registry.specs, .ofKeys registry.iris registry.nodup_iris⟩

/-- **The position of an IRI** is where the entry stands whose predicate has it. -/
theorem find?_positions : registry.directory.positions.find? iri = some index ↔
    ∃ spec, registry.specs[index]? = some spec ∧ spec.predicate.iri = iri := by
  unfold directory
  rw [Keyed.find?_ofKeys, iris, List.map_map, List.getElem?_map, Option.map_eq_some_iff]
  rfl

/-- The position of an IRI leads to its entry. -/
theorem get?_directory (registry : Registry) (iri : String) :
    registry.directory.get? iri = registry.get? iri := by
  refine Option.ext fun spec => ?_
  unfold Directory.get?
  rw [Option.bind_eq_some_iff, get?_eq_some_iff]
  constructor
  · rintro ⟨index, position, isSpec⟩
    obtain ⟨other, isOther, named⟩ := find?_positions.mp position
    obtain rfl := Option.some.inj (isOther.symm.trans isSpec)
    exact ⟨List.mem_of_getElem? isSpec, named⟩
  · rintro ⟨member, named⟩
    obtain ⟨index, isSpec⟩ := List.mem_iff_getElem?.mp member
    exact ⟨index, find?_positions.mpr ⟨spec, isSpec, named⟩, isSpec⟩

theorem lookup?_directory (registry : Registry) (name : String) :
    registry.directory.lookup? name = registry.lookup? name := by
  unfold Directory.lookup? lookup?
  rw [get?_directory]
  cases registry.get? name with
  | some spec => rfl
  | none => exact get?_directory registry _

theorem isKnown_directory (registry : Registry) (iri : String) :
    registry.directory.isKnown iri = registry.isKnown iri := by
  unfold Directory.isKnown
  rw [Keyed.contains_eq, isKnown_eq, Bool.eq_iff_iff, Option.isSome_iff_exists,
    Option.isSome_iff_exists]
  simp only [find?_positions, get?_eq_some_iff]
  rw [exists_comm]
  simp only [List.mem_iff_getElem?, exists_and_right]

/-- Replacing the entry of a predicate is putting another one at its position. -/
theorem replaced_eq_set {old : Spec} (isOld : registry.specs[index]? = some old)
    (samePredicate : old.predicate = new.predicate) :
    replaced registry.specs new = registry.specs.set index new := by
  obtain ⟨inside, rfl⟩ := List.getElem?_eq_some_iff.mp isOld
  refine List.ext_getElem (by simp [replaced]) fun position inReplaced inSet => ?_
  have inSpecs : position < (registry.specs.map Spec.predicate).length := by
    simpa [replaced] using inReplaced
  have isInside : index < (registry.specs.map Spec.predicate).length := by simpa using inside
  have isOnly : (registry.specs.map Spec.predicate)[position] =
      (registry.specs.map Spec.predicate)[index] ↔ position = index :=
    registry.distinct.getElem_inj_iff
  rw [List.getElem_map, List.getElem_map, samePredicate, eq_comm (a := position)] at isOnly
  simp only [replaced, List.getElem_map, List.getElem_set, isOnly]

/-- **Registering keeps a directory in step** with the registry. -/
theorem register_directory (registry : Registry) (new : Spec) :
    registry.directory.register new = (registry.register new).directory := by
  have predicates := predicates_register registry new
  unfold Directory.register
  split
  · rename_i index position
    obtain ⟨old, isOld, named⟩ := find?_positions.mp position
    have samePredicate := Predicate.iri_injective named
    have known : new.predicate ∈ registry.specs.map Spec.predicate :=
      List.mem_map.mpr ⟨old, List.mem_of_getElem? isOld, samePredicate⟩
    have entries : (registry.register new).specs = registry.specs.set index new := by
      rw [← replaced_eq_set isOld samePredicate, register, dif_pos known]
    refine Directory.ext entries.symm (Keyed.eq_of_entries ?_)
    show registry.iris.zipIdx = (registry.register new).iris.zipIdx
    rw [iris, iris, predicates, if_pos known]
  · rename_i noPosition
    have fresh : new.predicate ∉ registry.specs.map Spec.predicate := by
      intro known
      obtain ⟨old, member, samePredicate⟩ := List.mem_map.mp known
      obtain ⟨index, isOld⟩ := List.mem_iff_getElem?.mp member
      have position := find?_positions.mpr ⟨old, isOld, congrArg Predicate.iri samePredicate⟩
      exact nomatch noPosition.symm.trans position
    have entries : (registry.register new).specs = registry.specs ++ [new] := by
      rw [register, dif_neg fresh]
    refine Directory.ext entries.symm (Keyed.eq_of_entries ?_)
    show (registry.directory.positions.insert _ _).entries = (registry.register new).iris.zipIdx
    rw [Keyed.entries_insert (by rw [Keyed.contains_eq, noPosition]; rfl), iris, predicates,
      if_neg fresh, List.map_append, List.zipIdx_append]
    simp [directory, Keyed.ofKeys, iris]

theorem ofSpecs_directory (given : List Spec) :
    Directory.ofSpecs given = (ofSpecs given).directory := by
  induction given using List.reverseRecOn with
  | nil => rfl
  | append_singleton given new ih =>
    rw [ofSpecs_concat, ← register_directory, ← ih]
    exact List.foldl_concat _ _ _ _

/-! ### All lookups -/

/-- **The list, the positions and all lookups of a registry tell the same.** Whatever entries are
registered, in whatever order, the registry lists each predicate once, in the order of their first
entries, and with their last ones; so there are as many as distinct predicates. The last entry of a
predicate is found under its full IRI, and under its two short names by those who ask for any name;
nothing else is found. An IRI is known when it finds an entry, which it does when it is read as a
predicate that has been registered. The same is found in the directory that is registered into entry by
entry, where the position of an IRI is the place of its entry in the list. -/
theorem lookups_ofSpecs (given : List Spec) :
    ((ofSpecs given).specs.map Spec.predicate = (given.map Spec.predicate).eraseDups ∧
      (∀ spec, spec ∈ (ofSpecs given).specs ↔ IsLast given spec) ∧
      (∀ predicate, (∃ spec, IsLast given spec ∧ spec.predicate = predicate) ↔
        predicate ∈ given.map Spec.predicate) ∧
      (ofSpecs given).specs.length = (given.map Spec.predicate).toFinset.card) ∧
    (∀ iri spec, (ofSpecs given).get? iri = some spec ↔
      IsLast given spec ∧ iri = spec.predicate.iri) ∧
    (∀ name spec, (ofSpecs given).lookup? name = some spec ↔
      IsLast given spec ∧ spec.predicate.HasName name) ∧
    (∀ iri, (ofSpecs given).isKnown iri = ((ofSpecs given).get? iri).isSome) ∧
    (∀ iri predicate, (∃ spec, (ofSpecs given).get? iri = some spec ∧ spec.predicate = predicate) ↔
      Predicate.ofIri? iri = some predicate ∧ predicate ∈ given.map Spec.predicate) ∧
    ((Directory.ofSpecs given).entries = (ofSpecs given).specs ∧
      (∀ iri index, (Directory.ofSpecs given).positions.find? iri = some index ↔
        ∃ spec, (ofSpecs given).specs[index]? = some spec ∧ spec.predicate.iri = iri) ∧
      ∀ name, (Directory.ofSpecs given).get? name = (ofSpecs given).get? name ∧
        (Directory.ofSpecs given).lookup? name = (ofSpecs given).lookup? name ∧
        (Directory.ofSpecs given).isKnown name = (ofSpecs given).isKnown name) := by
  have found : ∀ iri spec, (ofSpecs given).get? iri = some spec ↔
      IsLast given spec ∧ iri = spec.predicate.iri := by
    intro iri spec
    rw [get?_eq_some_iff, mem_ofSpecs, eq_comm]
  refine ⟨⟨predicates_ofSpecs given, fun spec => mem_ofSpecs, fun predicate => exists_isLast_iff,
    length_ofSpecs given⟩, found, ?_, isKnown_eq _, ?_, ?_⟩
  · intro name spec
    rw [lookup?_eq_some_iff, mem_ofSpecs]
  · intro iri predicate
    rw [Predicate.ofIri?_eq_some_iff, ← exists_isLast_iff]
    simp only [found]
    constructor
    · rintro ⟨spec, ⟨isLast, named⟩, rfl⟩
      exact ⟨named, spec, isLast, rfl⟩
    · rintro ⟨named, spec, isLast, rfl⟩
      exact ⟨spec, ⟨isLast, named⟩, rfl⟩
  · rw [ofSpecs_directory]
    exact ⟨rfl, fun iri index => find?_positions, fun name =>
      ⟨get?_directory _ name, lookup?_directory _ name, isKnown_directory _ name⟩⟩

/-- The second entry for a predicate stands where the first one stood. -/
example :
    (ofSpecs [.ofTest .equal "first" Comparison.equal, .ofTest .contains "other" TextFunctions.contains,
      .ofTest .equal "second" Comparison.equal]).specs.map Spec.description = ["second", "other"] := rfl

end Registry

end RuleAtoms
