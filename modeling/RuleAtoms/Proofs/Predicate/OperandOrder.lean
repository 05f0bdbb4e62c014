/-
**The order of the operands of a sum or a product.**

Whole numbers are added and multiplied from left to right, and there is no result as soon as the
total so far does not fit. So an order of the operands can have a result where another one has none.
Two results never differ: each is the exact total, whatever the order.

* `exists_order_sum`, `exists_order_product`: if the total fits, some order has a result. A sum
  stays in range when each operand brings it back towards zero, a product when small operands come
  first;
* `orderLaw_of_foldsTo`: so the order is of no matter exactly when the total does not fit or every
  selection of the operands has a total that fits;
* `orderLaw_sum_product`: both laws for sums and products.
-/

import Mathlib.Algebra.BigOperators.Group.List.Basic
import Mathlib.Algebra.BigOperators.Ring.List
import Mathlib.Algebra.Order.BigOperators.Group.List
import Mathlib.Data.List.Sublists
import RuleAtoms.Proofs.Predicate.WholeArithmetic

namespace RuleAtoms.Arithmetic

/-- A total that is the same in all orders. -/
def Unordered (total : List Int → Int) : Prop :=
  ∀ ⦃first second : List Int⦄, first.Perm second → total first = total second

theorem Unordered.exactTotal_eq {total : List Int → Int} (unordered : Unordered total)
    {first second : List Whole} (isOrder : first.Perm second) :
    exactTotal total first = exactTotal total second := unordered (isOrder.map Whole.toInt)

theorem unordered_sum : Unordered List.sum := fun _ _ => List.Perm.sum_eq

theorem unordered_product : Unordered List.prod := fun _ _ => List.Perm.prod_eq

/-- The whole numbers up to each of them have a total that fits. -/
def StaysInRange (total : List Int → Int) (values : List Whole) : Prop :=
  ∀ front, front <+: values → Whole.Fits (exactTotal total front)

/-- How the result of a function on whole numbers depends on their order. -/
structure OrderLaw (compute? : List Literal → Option Number) (total : List Int → Int)
    (operands : List Literal) (values : List Whole) : Prop where
  /-- In whatever order there is a result, it is the exact total. -/
  exact : ∀ others, others.Perm operands → ∀ number, compute? others = some number →
    ∃ result : Whole, number = .whole result ∧ result.toInt = exactTotal total values
  /-- All orders have one result, or none, unless the total fits and that of some selection of the
  operands does not. -/
  independent : (∀ others, others.Perm operands → compute? others = compute? operands) ↔
    ¬ Whole.Fits (exactTotal total values) ∨
      ∀ selection, selection.Sublist values → Whole.Fits (exactTotal total selection)

/-! ### Orders that stay in range -/

theorem sum_map_cons (first : Whole) (rest : List Whole) :
    exactTotal List.sum (first :: rest) = first.toInt + exactTotal List.sum rest := List.sum_cons

/-- From a sum that fits, one of the operands left leads to another, if the total of all fits. If all
led out of the range on one side, the rest of the sum would lie on that side too. -/
theorem exists_next_summand {values : List Whole} {start : Int} (nonempty : values ≠ [])
    (startFits : Whole.Fits start) (fits : Whole.Fits (start + exactTotal List.sum values)) :
    ∃ next ∈ values, Whole.Fits (start + next.toInt) := by
  by_contra noNext
  simp only [not_exists, not_and] at noNext
  obtain ⟨first, rest, rfl⟩ := List.exists_cons_of_ne_nil nonempty
  unfold Whole.Fits at startFits fits noNext
  rw [sum_map_cons] at fits
  have firstLeaves := noNext first List.mem_cons_self
  have firstLower := first.lower
  have firstUpper := first.upper
  rcases Int.le_total 0 start with nonnegative | nonpositive
  · have restNonnegative : 0 ≤ exactTotal List.sum rest := by
      refine List.sum_nonneg fun value member => ?_
      obtain ⟨other, inRest, rfl⟩ := List.mem_map.mp member
      have leaves := noNext other (List.mem_cons_of_mem _ inRest)
      have lower := other.lower
      omega
    omega
  · have restNonpositive : exactTotal List.sum rest ≤ 0 := by
      calc (rest.map Whole.toInt).sum
          ≤ (rest.map fun _ => (0 : Int)).sum := by
            refine List.sum_le_sum fun other inRest => ?_
            have leaves := noNext other (List.mem_cons_of_mem _ inRest)
            have upper := other.upper
            omega
        _ = 0 := List.sum_map_zero
    omega

/-- **Summands whose total fits can be put in an order that stays in range.** The next one need not be
the first, so the induction is on their number. -/
theorem exists_order_sum_from {values : List Whole} {start : Int} (startFits : Whole.Fits start)
    (fits : Whole.Fits (start + exactTotal List.sum values)) :
    ∃ others, others.Perm values ∧
      ∀ front, front <+: others → Whole.Fits (start + exactTotal List.sum front) := by
  induction count : values.length generalizing values start with
  | zero =>
    obtain rfl := List.length_eq_zero_iff.mp count
    refine ⟨[], .refl _, fun front isFront => ?_⟩
    rwa [List.prefix_nil.mp isFront]
  | succ left ih =>
    have nonempty : values ≠ [] := List.ne_nil_of_length_eq_add_one count
    obtain ⟨next, member, nextFits⟩ := exists_next_summand nonempty startFits fits
    have split := List.perm_cons_erase member
    have total : exactTotal List.sum values =
        next.toInt + exactTotal List.sum (values.erase next) := by
      rw [← sum_map_cons, unordered_sum.exactTotal_eq split]
    rw [total, ← Int.add_assoc] at fits
    obtain ⟨others, isOrder, stays⟩ :=
      ih nextFits fits (by rw [List.length_erase_of_mem member, count, Nat.add_sub_cancel])
    refine ⟨next :: others, (isOrder.cons next).trans split.symm, fun front isFront => ?_⟩
    rcases List.prefix_cons_iff.mp isFront with rfl | ⟨later, rfl, isLater⟩
    · rwa [show exactTotal List.sum [] = 0 from rfl, Int.add_zero]
    · rw [sum_map_cons, ← Int.add_assoc]
      exact stays later isLater

theorem exists_order_sum {values : List Whole} (fits : Whole.Fits (exactTotal List.sum values)) :
    ∃ others, others.Perm values ∧ StaysInRange List.sum others := by
  rw [← Int.zero_add (exactTotal List.sum values)] at fits
  obtain ⟨others, isOrder, stays⟩ := exists_order_sum_from (by decide) fits
  refine ⟨others, isOrder, fun front isFront => ?_⟩
  rw [← Int.zero_add (exactTotal List.sum front)]
  exact stays front isFront

theorem natAbs_product_cons (first : Whole) (rest : List Whole) :
    (exactTotal List.prod (first :: rest)).natAbs =
      first.toInt.natAbs * (exactTotal List.prod rest).natAbs := by
  rw [← Int.natAbs_mul]
  exact congrArg Int.natAbs List.prod_cons

/-- Zeros, ones and minus ones have no larger product. -/
theorem natAbs_product_le_one {values : List Whole}
    (small : ∀ value ∈ values, value.toInt.natAbs ≤ 1) :
    (exactTotal List.prod values).natAbs ≤ 1 := by
  induction values with
  | nil => exact Nat.le_refl 1
  | cons first rest ih =>
    rw [natAbs_product_cons]
    exact Nat.mul_le_mul (small first List.mem_cons_self)
      (ih fun value member => small value (List.mem_cons_of_mem _ member))

/-- Other factors at least double what they multiply. -/
theorem two_le_natAbs_product {values : List Whole} (nonempty : values ≠ [])
    (large : ∀ value ∈ values, 2 ≤ value.toInt.natAbs) :
    2 ≤ (exactTotal List.prod values).natAbs := by
  have positive : ∀ {others : List Whole}, (∀ value ∈ others, 2 ≤ value.toInt.natAbs) →
      1 ≤ (exactTotal List.prod others).natAbs := by
    intro others each
    refine Int.natAbs_pos.mpr (List.prod_ne_zero fun zero => ?_)
    obtain ⟨value, member, isZero⟩ := List.mem_map.mp zero
    have atLeastTwo := each value member
    omega
  obtain ⟨first, rest, rfl⟩ := List.exists_cons_of_ne_nil nonempty
  rw [natAbs_product_cons]
  exact Nat.mul_le_mul (large first List.mem_cons_self)
    (positive fun value member => large value (List.mem_cons_of_mem _ member))

/-- A front part of factors that grow in size fits, if the whole product does. What is left either at
least doubles the front part, or begins with a factor of size at most one, and then the front part has
no other. -/
theorem fits_front_of_sorted {front back : List Whole}
    (sorted : (front ++ back).Pairwise fun first second =>
      first.toInt.natAbs ≤ second.toInt.natAbs)
    (fits : Whole.Fits (exactTotal List.prod (front ++ back))) :
    Whole.Fits (exactTotal List.prod front) := by
  have acrossOrder := (List.pairwise_append.mp sorted).2.2
  have product : (exactTotal List.prod (front ++ back)).natAbs =
      (exactTotal List.prod front).natAbs * (exactTotal List.prod back).natAbs := by
    rw [← Int.natAbs_mul]
    unfold exactTotal
    rw [List.map_append, List.prod_append]
  by_cases large : ∀ value ∈ back, 2 ≤ value.toInt.natAbs
  · rcases eq_or_ne back [] with rfl | nonempty
    · rwa [List.append_nil] at fits
    · have doubled := Nat.mul_le_mul_left (exactTotal List.prod front).natAbs
        (two_le_natAbs_product nonempty large)
      unfold Whole.Fits at fits ⊢
      omega
  · simp only [not_forall, Nat.not_le] at large
    obtain ⟨value, member, small⟩ := large
    have atMostOne := natAbs_product_le_one fun other inFront =>
      Nat.le_trans (acrossOrder other inFront value member) (Nat.le_of_lt_succ small)
    unfold Whole.Fits
    omega

/-- **Factors whose product fits can be put in an order that stays in range.** -/
theorem exists_order_product {values : List Whole}
    (fits : Whole.Fits (exactTotal List.prod values)) :
    ∃ others, others.Perm values ∧ StaysInRange List.prod others := by
  let smaller : Whole → Whole → Bool := fun first second =>
    decide (first.toInt.natAbs ≤ second.toInt.natAbs)
  have isOrder : (values.mergeSort smaller).Perm values := List.mergeSort_perm values smaller
  have sorted : (values.mergeSort smaller).Pairwise fun first second =>
      first.toInt.natAbs ≤ second.toInt.natAbs := by
    refine (List.pairwise_mergeSort ?_ ?_ values).imp of_decide_eq_true
    · intro first second third firstOrder secondOrder
      exact decide_eq_true (Nat.le_trans (of_decide_eq_true firstOrder)
        (of_decide_eq_true secondOrder))
    · intro first second
      rw [Bool.or_eq_true, decide_eq_true_eq, decide_eq_true_eq]
      exact Nat.le_total _ _
  rw [← unordered_product.exactTotal_eq isOrder] at fits
  refine ⟨values.mergeSort smaller, isOrder, ?_⟩
  rintro front ⟨back, parts⟩
  rw [← parts] at sorted fits
  exact fits_front_of_sorted sorted fits

/-! ### Results in all orders -/

section Orders

variable {onNumbers : Number → Number → Option Number} {total : List Int → Int}
  {operands : List Literal} {values : List Whole}

theorem forall_prefix_map_iff {holds : List Int → Prop} :
    (∀ front, front <+: values.map Whole.toInt → holds front) ↔
      ∀ front, front <+: values → holds (front.map Whole.toInt) := by
  simp only [List.prefix_map_iff]
  exact ⟨fun all front isFront => all _ ⟨front, isFront, rfl⟩,
    fun all _ ⟨front, isFront, same⟩ => same ▸ all front isFront⟩

/-- There is a result, the exact total, exactly in the orders that stay in range. -/
theorem FoldsTo.eq_some_iff (folds : FoldsTo onNumbers total)
    (denote : List.Forall₂ Denotes operands values) (nonempty : operands ≠ []) {number : Number} :
    fold? onNumbers operands = some number ↔ ∃ result : Whole, number = .whole result ∧
      result.toInt = exactTotal total values ∧ StaysInRange total values := by
  rw [folds operands values denote nonempty, forall_prefix_map_iff]
  rfl

theorem FoldsTo.eq_of_staysInRange (folds : FoldsTo onNumbers total)
    (denote : List.Forall₂ Denotes operands values) (nonempty : operands ≠ [])
    (stays : StaysInRange total values) :
    fold? onNumbers operands = (Whole.ofInt? (exactTotal total values)).map .whole := by
  obtain ⟨result, isWhole, isTotal⟩ := Whole.exists_of_fits (stays values (List.prefix_refl values))
  rw [(folds.eq_some_iff denote nonempty).mpr ⟨result, rfl, isTotal, stays⟩, isWhole,
    Option.map_some]

theorem FoldsTo.eq_none_iff (folds : FoldsTo onNumbers total)
    (denote : List.Forall₂ Denotes operands values) (nonempty : operands ≠ []) :
    fold? onNumbers operands = none ↔ ¬ StaysInRange total values := by
  constructor
  · intro noResult stays
    obtain ⟨result, isWhole, -⟩ := Whole.exists_of_fits (stays values (List.prefix_refl values))
    rw [folds.eq_of_staysInRange denote nonempty stays, isWhole] at noResult
    cases noResult
  · intro leaves
    rw [Option.eq_none_iff_forall_ne_some]
    intro number found
    obtain ⟨-, -, -, stays⟩ := (folds.eq_some_iff denote nonempty).mp found
    exact leaves stays

/-- Reordered operands denote the reordered whole numbers. -/
theorem exists_denote_of_perm {others : List Literal}
    (denote : List.Forall₂ Denotes operands values) (isOrder : others.Perm operands) :
    ∃ reordered, List.Forall₂ Denotes others reordered ∧ reordered.Perm values :=
  List.perm_comp_forall₂ isOrder denote

/-- Whole numbers in another order are denoted by the operands in that order. -/
theorem exists_perm_of_denote {reordered : List Whole}
    (denote : List.Forall₂ Denotes operands values) (isOrder : reordered.Perm values) :
    ∃ others, others.Perm operands ∧ List.Forall₂ Denotes others reordered := by
  have swapped : Relation.Comp (List.Forall₂ Denotes) List.Perm operands reordered :=
    ⟨values, denote, isOrder.symm⟩
  rw [List.forall₂_comp_perm_eq_perm_comp_forall₂] at swapped
  obtain ⟨others, isPerm, denoteOthers⟩ := swapped
  exact ⟨others, isPerm.symm, denoteOthers⟩

/-- No order stays in range if the total does not fit. -/
theorem FoldsTo.eq_none_of_not_fits (folds : FoldsTo onNumbers total)
    (unordered : Unordered total)
    (denote : List.Forall₂ Denotes operands values)
    (leaves : ¬ Whole.Fits (exactTotal total values))
    {others : List Literal} (isOrder : others.Perm operands) (nonempty : others ≠ []) :
    fold? onNumbers others = none := by
  obtain ⟨reordered, denoteOthers, isReordered⟩ := exists_denote_of_perm denote isOrder
  refine (folds.eq_none_iff denoteOthers nonempty).mpr fun stays => leaves ?_
  have fits : Whole.Fits (exactTotal total reordered) := stays reordered (List.prefix_refl _)
  rwa [unordered.exactTotal_eq isReordered] at fits

/-- Every order stays in range if the total of every selection fits. -/
theorem FoldsTo.eq_of_forall_fits (folds : FoldsTo onNumbers total)
    (unordered : Unordered total)
    (denote : List.Forall₂ Denotes operands values)
    (allFit : ∀ selection, selection.Sublist values → Whole.Fits (exactTotal total selection))
    {others : List Literal} (isOrder : others.Perm operands) (nonempty : others ≠ []) :
    fold? onNumbers others = (Whole.ofInt? (exactTotal total values)).map .whole := by
  obtain ⟨reordered, denoteOthers, isReordered⟩ := exists_denote_of_perm denote isOrder
  rw [← unordered.exactTotal_eq isReordered]
  refine folds.eq_of_staysInRange denoteOthers nonempty fun front isFront => ?_
  obtain ⟨selection, isSelection, within⟩ := isFront.sublist.subperm.trans isReordered.subperm
  rw [← unordered.exactTotal_eq isSelection]
  exact allFit selection within

/-- **The order is of no matter** exactly when the total does not fit or every selection has one
that does. -/
theorem orderLaw_of_foldsTo (folds : FoldsTo onNumbers total)
    (unordered : Unordered total)
    (nothing : Whole.Fits (total []))
    (arrange : ∀ {values : List Whole}, Whole.Fits (exactTotal total values) →
      ∃ others, others.Perm values ∧ StaysInRange total others)
    (denote : List.Forall₂ Denotes operands values) :
    OrderLaw (fold? onNumbers) total operands values := by
  constructor
  · intro others isOrder number found
    have nonempty : others ≠ [] := by
      rintro rfl
      cases found
    obtain ⟨reordered, denoteOthers, isReordered⟩ := exists_denote_of_perm denote isOrder
    obtain ⟨result, isResult, isTotal, -⟩ := (folds.eq_some_iff denoteOthers nonempty).mp found
    exact ⟨result, isResult, isTotal.trans (unordered.exactTotal_eq isReordered)⟩
  · rcases eq_or_ne operands [] with rfl | nonempty
    · obtain rfl := List.forall₂_nil_left_iff.mp denote
      refine iff_of_true (fun others isOrder => ?_) (Or.inr fun selection within => ?_)
      · rw [List.perm_nil.mp isOrder]
      · rwa [List.sublist_nil.mp within]
    have othersNonempty : ∀ {others : List Literal}, others.Perm operands → others ≠ [] := by
      rintro others isOrder rfl
      exact nonempty (List.nil_perm.mp isOrder)
    constructor
    · intro same
      by_contra depends
      simp only [not_or, not_not, not_forall] at depends
      obtain ⟨fits, selection, within, leaves⟩ := depends
      obtain ⟨rest, split⟩ := within.exists_perm_append
      obtain ⟨broken, isBroken, denoteBroken⟩ := exists_perm_of_denote denote split.symm
      have brokenNone : fold? onNumbers broken = none :=
        (folds.eq_none_iff denoteBroken (othersNonempty isBroken)).mpr
          fun stays => leaves (stays selection (List.prefix_append selection rest))
      obtain ⟨arranged, isArranged, stays⟩ := arrange fits
      obtain ⟨sound, isSound, denoteSound⟩ := exists_perm_of_denote denote isArranged
      have soundNone : fold? onNumbers sound = none :=
        (same sound isSound).trans ((same broken isBroken).symm.trans brokenNone)
      exact (folds.eq_none_iff denoteSound (othersNonempty isSound)).mp soundNone stays
    · rintro (leaves | allFit) others isOrder
      · rw [folds.eq_none_of_not_fits unordered denote leaves isOrder (othersNonempty isOrder),
          folds.eq_none_of_not_fits unordered denote leaves (.refl operands) nonempty]
      · rw [folds.eq_of_forall_fits unordered denote allFit isOrder (othersNonempty isOrder),
          folds.eq_of_forall_fits unordered denote allFit (.refl operands) nonempty]

/-- **The order of the operands of sums and products of whole numbers.** In every order with a
result, the result is the exact sum or product. All orders have this result, or none has one,
exactly when the sum or product does not fit or that of every selection of the operands does. -/
theorem orderLaw_sum_product (denote : List.Forall₂ Denotes operands values) :
    OrderLaw sum? List.sum operands values ∧ OrderLaw product? List.prod operands values :=
  ⟨orderLaw_of_foldsTo foldsTo_sum unordered_sum (by decide) exists_order_sum denote,
    orderLaw_of_foldsTo foldsTo_product unordered_product (by decide) exists_order_product denote⟩

end Orders

/-- Three operands, the first of which is the greatest whole number. -/
def greatestFirst : List Literal := [.plain "9223372036854775807", .plain "1", .plain "-1"]

def greatestFirstValues : List Whole :=
  [.greatest, ⟨1, by decide, by decide⟩, ⟨-1, by decide, by decide⟩]

theorem denote_greatestFirst : List.Forall₂ Denotes greatestFirst greatestFirstValues := by
  unfold Denotes greatestFirst greatestFirstValues
  refine .cons ?_ (.cons ?_ (.cons ?_ .nil)) <;> decide

/-- The order of these matters to their sum, since the first two add up to more than fits, but not
to their product. -/
theorem orderLaw_greatestFirst :
    List.Forall₂ Denotes greatestFirst greatestFirstValues ∧
      (¬ ∀ others, others.Perm greatestFirst → sum? others = sum? greatestFirst) ∧
      ∀ others, others.Perm greatestFirst → product? others = product? greatestFirst := by
  obtain ⟨sumLaw, productLaw⟩ := orderLaw_sum_product denote_greatestFirst
  refine ⟨denote_greatestFirst, fun same => ?_, productLaw.independent.mpr (Or.inr ?_)⟩
  · rcases sumLaw.independent.mp same with leaves | allFit
    · exact leaves (by decide)
    · exact absurd (allFit (greatestFirstValues.take 2) (List.take_sublist 2 _)) (by decide)
  · intro selection within
    have allFit : ∀ part ∈ greatestFirstValues.sublists,
        Whole.Fits (exactTotal List.prod part) := by decide
    exact allFit selection (List.mem_sublists.mpr within)

/-- The greatest whole number, one and minus one have no sum in this order, but one in another. -/
theorem sum?_greatestFirst_ne :
    List.Forall₂ Denotes greatestFirst greatestFirstValues ∧
      greatestFirst.Perm [.plain "9223372036854775807", .plain "-1", .plain "1"] ∧
      sum? greatestFirst = none ∧
      sum? [.plain "9223372036854775807", .plain "-1", .plain "1"] =
        some (.whole .greatest) :=
  ⟨denote_greatestFirst, .cons _ (.swap _ _ _), by decide, by decide⟩

end RuleAtoms.Arithmetic
