import Mathlib.Data.List.Sort
import Mathlib.Data.List.Range

/-! # Pages of a sorted query

`ORDER BY key LIMIT limit OFFSET offset`.  Where the key tells the rows apart, every execution of
the query has the same order, and the pages one after another are all rows once.
-/

namespace BurnLens.Library

variable {Row Key : Type*} [LinearOrder Key] {key : Row → Key}

/-- An execution of `ORDER BY key`: where keys are equal, nothing is said of the order. -/
structure OrderBy (key : Row → Key) where
  order : List Row → List Row
  perm : ∀ rows, (order rows).Perm rows
  sorted : ∀ rows, (order rows).Pairwise fun a b => key a ≤ key b

def OrderBy.stable (key : Row → Key) : OrderBy key where
  order rows := rows.insertionSort fun a b => key a ≤ key b
  perm rows := List.perm_insertionSort _ rows
  sorted rows := by
    have : Std.Total fun a b : Row => key a ≤ key b := ⟨fun a b => le_total (key a) (key b)⟩
    have : IsTrans Row fun a b => key a ≤ key b := ⟨fun _ _ _ => le_trans⟩
    exact List.pairwise_insertionSort _ rows

/-- `LIMIT limit OFFSET offset`. -/
def page (limit offset : Nat) (rows : List Row) : List Row := (rows.drop offset).take limit

theorem OrderBy.order_eq (first second : OrderBy key) {rows : List Row}
    (distinct : ∀ a ∈ rows, ∀ b ∈ rows, key a = key b → a = b) :
    first.order rows = second.order rows := by
  apply List.Perm.eq_of_pairwise _ (first.sorted rows) (second.sorted rows)
    ((first.perm rows).trans (second.perm rows).symm)
  intro a b inFirst inSecond below above
  exact distinct a ((first.perm rows).mem_iff.mp inFirst) b ((second.perm rows).mem_iff.mp inSecond)
    (le_antisymm below above)

theorem pages_eq_take (limit pages : Nat) (rows : List Row) :
    ((List.range pages).flatMap fun k => page limit (k * limit) rows) = rows.take (pages * limit) := by
  induction pages with
  | zero => simp
  | succ pages inductionHypothesis =>
    rw [List.range_succ, List.flatMap_append, inductionHypothesis, List.flatMap_singleton, page,
      Nat.succ_mul, List.take_add]

/-- Pages list every row once, also when each of them is a query of its own. -/
theorem pages_perm (executions : Nat → OrderBy key) {limit pages : Nat} {rows : List Row}
    (distinct : ∀ a ∈ rows, ∀ b ∈ rows, key a = key b → a = b)
    (enough : rows.length ≤ pages * limit) :
    ((List.range pages).flatMap fun k => page limit (k * limit) ((executions k).order rows)).Perm
      rows := by
  have same : (fun k => page limit (k * limit) ((executions k).order rows)) =
      fun k => page limit (k * limit) ((executions 0).order rows) := by
    funext k
    rw [(executions k).order_eq (executions 0) distinct]
  rw [same, pages_eq_take, List.take_of_length_le]
  · exact (executions 0).perm rows
  · rw [((executions 0).perm rows).length_eq]
    exact enough

end BurnLens.Library
