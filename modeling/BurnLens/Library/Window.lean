import Mathlib.Algebra.Order.Group.Defs
import Mathlib.Data.List.Basic
import Mathlib.Data.List.Induction

/-! # Windows of a list

How many items of a list satisfy a predicate, against the indices at which they stand; and how many
instants lie in an interval, where each comes when few enough lie in the one before it.
-/

namespace BurnLens.Library

variable {α : Type*} {p : α → Bool} {items : List α} {i j : Nat}

/-- Items that all stand between two indices are at most as many as these. -/
theorem countP_le_window
    (within : ∀ k a, items[k]? = some a → p a = true → i ≤ k ∧ k ≤ j) :
    items.countP p ≤ j + 1 - i := by
  have before : (items.take i).countP p = 0 := by
    rw [List.countP_eq_zero]
    intro a member holds
    obtain ⟨k, bound, here⟩ := List.mem_take_iff_getElem.mp member
    have := within k a (by simp [← here]) holds
    omega
  have after : (items.drop (j + 1)).countP p = 0 := by
    rw [List.countP_eq_zero]
    intro a member holds
    obtain ⟨k, bound, here⟩ := List.mem_drop_iff_getElem.mp member
    have := within (j + 1 + k) a (by simp [← here]) holds
    omega
  have split : items.countP p = (items.take i).countP p + (items.drop i).countP p := by
    rw [← List.countP_append, List.take_append_drop]
  have middle : (items.drop i).countP p ≤ j + 1 - i := by
    by_cases order : i ≤ j + 1
    · have parts : (items.drop i).countP p = ((items.drop i).take (j + 1 - i)).countP p +
          (items.drop (j + 1)).countP p := by
        have whole : i + (j + 1 - i) = j + 1 := by omega
        rw [← whole, ← List.drop_drop, ← List.countP_append, whole, List.take_append_drop]
      have := List.countP_le_length (p := p) (l := (items.drop i).take (j + 1 - i))
      rw [List.length_take] at this
      omega
    · have rest : items.drop i = (items.drop (j + 1)).drop (i - (j + 1)) := by
        rw [List.drop_drop]
        congr 1
        omega
      have := (List.drop_sublist (i - (j + 1)) (items.drop (j + 1))).countP_le (p := p)
      rw [rest]
      omega
  omega

/-- Where all items between two indices satisfy the predicate, they are among those that do. -/
theorem window_le_countP (bounded : j < items.length)
    (inside : ∀ k a, i ≤ k → k ≤ j → items[k]? = some a → p a = true) :
    j + 1 - i ≤ items.countP p := by
  have all : ((items.drop i).take (j + 1 - i)).countP p = ((items.drop i).take (j + 1 - i)).length := by
    rw [List.countP_eq_length]
    intro a member
    obtain ⟨k, bound, here⟩ := List.mem_take_iff_getElem.mp member
    rw [List.getElem_drop] at here
    exact inside (i + k) a (by omega) (by omega) (by simp [← here])
  have part := ((List.take_sublist (j + 1 - i) (items.drop i)).trans
    (List.drop_sublist i items)).countP_le (p := p)
  rw [all, List.length_take, List.length_drop] at part
  omega

theorem dropWhile_eq_filter {T : Type*} [LinearOrder T] (cutoff : T) {times : List T}
    (ascending : times.Pairwise (· ≤ ·)) :
    times.dropWhile (fun t => decide (t < cutoff)) = times.filter fun t => decide (cutoff ≤ t) := by
  induction times with
  | nil => rfl
  | cons t times inductionHypothesis =>
    obtain ⟨first, rest⟩ := List.pairwise_cons.mp ascending
    by_cases old : t < cutoff
    · rw [List.dropWhile_cons_of_pos (by simp [old]), List.filter_cons_of_neg (by simp [old]),
        inductionHypothesis rest]
    · have fresh : cutoff ≤ t := not_lt.mp old
      rw [List.dropWhile_cons_of_neg (by simp [old]), List.filter_cons_of_pos (by simp [fresh]), eq_comm,
        List.cons.injEq]
      refine ⟨rfl, List.filter_eq_self.mpr fun later member => ?_⟩
      exact decide_eq_true (fresh.trans (first later member))

/-- Where each instant finds fewer than `most` within a width before it, no interval of that width
    has more. -/
theorem countP_interval_le {T : Type*} [AddCommGroup T] [LinearOrder T] [IsOrderedAddMonoid T]
    {most : Nat} {width : T} {times : List T}
    (few : ∀ before t after, times = before ++ t :: after →
      before.countP (fun s => decide (t - width ≤ s)) < most) (start : T) :
    times.countP (fun s => decide (start ≤ s ∧ s ≤ start + width)) ≤ most := by
  induction times using List.reverseRecOn with
  | nil => exact Nat.zero_le _
  | append_singleton before t inductionHypothesis =>
    rw [List.countP_append, List.countP_singleton]
    split
    · next inside =>
      have near : t - width ≤ start := sub_le_iff_le_add.mpr (of_decide_eq_true inside).2
      have fewer := few before t [] rfl
      have among : before.countP (fun s => decide (start ≤ s ∧ s ≤ start + width)) ≤
          before.countP (fun s => decide (t - width ≤ s)) := by
        apply List.countP_mono_left
        intro s _ within
        exact decide_eq_true (near.trans (of_decide_eq_true within).1)
      omega
    · apply inductionHypothesis
      intro front s after same
      apply few front s (after ++ [t])
      rw [same, List.append_assoc, List.cons_append]

end BurnLens.Library
