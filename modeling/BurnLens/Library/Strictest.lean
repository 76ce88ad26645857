import Mathlib.Data.List.Sort
import Mathlib.Data.Multiset.Lattice

/-! # The strictest verdict

Verdicts are ordered, the strictest below.  The first of the items, sorted by strictness, carries
the meet of all their verdicts: the order in which they came does not matter, and more items give
a verdict that is no laxer.
-/

namespace BurnLens.Library

variable {β K α : Type*} [LinearOrder K] [SemilatticeInf α] [OrderTop α]
  {key : β → K} {verdict : β → α}

theorem first_sorted_eq_inf (agree : ∀ a b, key a ≤ key b → verdict a ≤ verdict b)
    (items : List β) :
    ((items.insertionSort fun a b => key a ≤ key b).head?.map verdict).getD ⊤ =
      (items.map verdict : Multiset α).inf := by
  have permuted : ((items.insertionSort fun a b => key a ≤ key b).map verdict : Multiset α) =
      (items.map verdict : Multiset α) :=
    Multiset.coe_eq_coe.mpr ((List.perm_insertionSort _ items).map verdict)
  have total : Std.Total fun a b => key a ≤ key b := ⟨fun a b => le_total (key a) (key b)⟩
  have transitive : IsTrans β fun a b => key a ≤ key b := ⟨fun _ _ _ => le_trans⟩
  have sorted := List.pairwise_insertionSort (fun a b => key a ≤ key b) items
  rw [← permuted]
  cases order : items.insertionSort fun a b => key a ≤ key b with
  | nil => rfl
  | cons first others =>
    rw [order, List.pairwise_cons] at sorted
    have below : verdict first ≤ (others.map verdict : Multiset α).inf := by
      refine Multiset.le_inf.mpr fun d member => ?_
      obtain ⟨item, among, rfl⟩ := List.mem_map.mp (Multiset.mem_coe.mp member)
      exact agree first item (sorted.1 item among)
    rw [List.map_cons, ← Multiset.cons_coe, Multiset.inf_cons, inf_eq_left.mpr below]
    rfl

theorem inf_mem_or_empty {δ : Type*} [LinearOrder δ] [OrderTop δ] (verdicts : Multiset δ) :
    verdicts.inf ∈ verdicts ∨ verdicts = 0 := by
  induction verdicts using Multiset.induction with
  | empty => exact .inr rfl
  | cons d verdicts inductionHypothesis =>
    refine .inl ?_
    rw [Multiset.inf_cons]
    cases le_total d verdicts.inf with
    | inl below => simp [below]
    | inr above =>
      rw [inf_eq_right.mpr above]
      cases inductionHypothesis with
      | inl member => exact Multiset.mem_cons_of_mem member
      | inr empty =>
        subst empty
        rw [Multiset.inf_zero, top_le_iff] at above
        simp [above]

end BurnLens.Library
