/-
**Lists made from the positions of another.**

An evaluation goes over the numbers of the rows and keeps what comes out of some of them. What it
keeps is a list of its own, each entry of which comes from one position, in order.

* `filterMap_range_eq_filter`: keeping an entry or nothing at each position is a filter;
* `exists_sources`: the entries that are kept come from increasing positions, and from every
  position at which there is something to keep.
-/

import Mathlib.Data.Fintype.Basic
import Mathlib.Order.Monotone.Basic

namespace RuleAtoms.Positions

variable {α : Type}

/-- Keeping at each position of a list its entry or nothing is the same as filtering the list. -/
theorem filterMap_range_eq_filter {list : List α} {keep? : Nat → Option α} {test : α → Bool}
    (same : ∀ index entry, list[index]? = some entry →
      keep? index = if test entry then some entry else none) :
    (List.range list.length).filterMap keep? = list.filter test := by
  induction list using List.reverseRecOn with
  | nil => rfl
  | append_singleton front last ih =>
    have frontSame : ∀ index entry, front[index]? = some entry →
        keep? index = if test entry then some entry else none := by
      intro index entry isEntry
      refine same index entry ?_
      rw [List.getElem?_append_left (List.getElem?_eq_some_iff.mp isEntry).1, isEntry]
    have atLast := same front.length last List.getElem?_concat_length
    rw [List.length_append, List.length_singleton, List.range_succ, List.filterMap_append,
      ih frontSame, List.filter_append]
    congr 1
    by_cases holds : test last = true
    · simp [atLast, holds]
    · simp [atLast, holds]

/-- What is kept of a list stands in it as often as there is something to keep. -/
theorem map_some_filterMap (keep? : Nat → Option α) (positions : List Nat) :
    ((positions.filterMap keep?).map some) =
      (positions.filter fun index => (keep? index).isSome).map keep? := by
  induction positions with
  | nil => rfl
  | cons index rest ih =>
    cases kept : keep? index with
    | none => simp [kept, ih]
    | some entry => simp [kept, ih]

/-- **Where the kept entries come from**: increasing positions, namely all at which there is
something to keep. -/
theorem exists_sources (keep? : Nat → Option α) (count : Nat) :
    ∃ source : Fin ((List.range count).filterMap keep?).length → Fin count,
      StrictMono source ∧
        (∀ place, keep? (source place) = some ((List.range count).filterMap keep?)[place]) ∧
        (List.finRange _).map (fun place => (source place : Nat)) =
          (List.range count).filter fun index => (keep? index).isSome := by
  let positions := (List.range count).filter fun index => (keep? index).isSome
  have values := map_some_filterMap keep? (List.range count)
  have lengths : ((List.range count).filterMap keep?).length = positions.length := by
    have counted := congrArg List.length values
    rwa [List.length_map, List.length_map] at counted
  have bound : ∀ place : Fin ((List.range count).filterMap keep?).length,
      (place : Nat) < positions.length := fun place => lengths ▸ place.isLt
  have inRange : ∀ place (inside : place < positions.length), positions[place] < count :=
    fun place inside =>
      List.mem_range.mp (List.mem_filter.mp (List.getElem_mem inside)).1
  have increasing : positions.Pairwise (· < ·) := List.pairwise_lt_range.filter _
  refine ⟨fun place => ⟨positions[place.val], inRange _ (bound place)⟩, ?_, ?_, ?_⟩
  · intro first second before
    exact List.pairwise_iff_getElem.mp increasing _ _ (bound first) (bound second) before
  · intro place
    have atPlace := List.getElem_of_eq values (i := place.val) (by simp)
    rw [List.getElem_map, List.getElem_map] at atPlace
    exact atPlace.symm
  · refine List.ext_getElem (by simp [lengths, positions]) fun place _ _ => ?_
    simp [positions]

/-- **The kept entries that are the entries of their positions** are those of the positions at which
just that is kept. -/
theorem map_filter_unchanged [DecidableEq α] {list : List α} {keep? : Nat → Option α}
    {source : Fin ((List.range list.length).filterMap keep?).length → Fin list.length}
    (kept : ∀ place,
      keep? (source place) = some ((List.range list.length).filterMap keep?)[place])
    (sources : (List.finRange _).map (fun place => (source place : Nat)) =
      (List.range list.length).filter fun index => (keep? index).isSome) :
    ((List.finRange _).filter fun place =>
        ((List.range list.length).filterMap keep?)[place] = list[source place]).map
          (((List.range list.length).filterMap keep?)[·]) =
      (List.range list.length).filterMap fun index =>
        if keep? index = list[index]? then list[index]? else none := by
  have atSource : ∀ place, list[(source place : Nat)]? = some list[source place] :=
    fun place => List.getElem?_eq_getElem (source place).isLt
  have unchangedIff : ∀ place,
      (((List.range list.length).filterMap keep?)[place] = list[source place]) ↔
        keep? (source place) = list[(source place : Nat)]? := by
    intro place
    rw [kept, atSource, Option.some_inj]
  calc _ = ((List.finRange _).filter fun place =>
          keep? (source place) = list[(source place : Nat)]?).filterMap
            (fun place => list[(source place : Nat)]?) := by
        simp only [unchangedIff]
        rw [← List.filterMap_eq_map]
        refine List.filterMap_congr fun place member => ?_
        have same := of_decide_eq_true (List.mem_filter.mp member).2
        rw [Function.comp_apply, ← same, kept]
    _ = (((List.finRange _).map fun place => (source place : Nat)).filter fun index =>
          keep? index = list[index]?).filterMap (list[·]?) := by
        rw [List.filter_map, List.filterMap_map]
        rfl
    _ = _ := by
        rw [sources, List.filter_filter, List.filterMap_filter]
        refine List.filterMap_congr fun index member => ?_
        have inList : index < list.length := List.mem_range.mp member
        by_cases same : keep? index = list[index]?
        · simp [same, inList]
        · simp [same]

end RuleAtoms.Positions
