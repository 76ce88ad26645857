import Mathlib.Data.List.Basic
import Mathlib.Logic.Function.Iterate

/-! # Batches off the front of a queue

A sender takes the first `k` items of a queue as one batch.  The batch leaves the queue as a whole
if all its items fit, and stays as a whole otherwise.  An item that does not fit blocks everything
from its batch on; it does no harm only where nothing there fits anyway.
-/

namespace BurnLens.Library

variable {α : Type*} {k : Nat} {fits : α → Bool} {queue : List α}

def takeBatch (k : Nat) (fits : α → Bool) (queue : List α) : List α :=
  if (queue.take k).all fits then queue.drop k else queue

theorem takeBatch_fitting (fitting : (queue.take k).all fits = true) :
    takeBatch k fits queue = queue.drop k := if_pos fitting

theorem takeBatch_blocked (blocked : (queue.take k).all fits = false) :
    takeBatch k fits queue = queue := if_neg (by simp [blocked])

theorem iterate_takeBatch_blocked (blocked : (queue.take k).all fits = false) (n : Nat) :
    (takeBatch k fits)^[n] queue = queue :=
  Function.iterate_fixed (takeBatch_blocked blocked) n

theorem takeBatch_congr {fits' : α → Bool} (agree : ∀ item ∈ queue, fits item = fits' item) :
    takeBatch k fits queue = takeBatch k fits' queue := by
  have batch : (queue.take k).all fits = true ↔ (queue.take k).all fits' = true := by
    simp only [List.all_eq_true]
    apply forall₂_congr
    intro item member
    rw [agree item (List.mem_of_mem_take member)]
  simp only [takeBatch, batch]

theorem iterate_takeBatch (fitting : ∀ item ∈ queue, fits item = true) (n : Nat) :
    (takeBatch k fits)^[n] queue = queue.drop (n * k) := by
  induction n generalizing queue with
  | zero => simp
  | succ n inductionHypothesis =>
    have batch : (queue.take k).all fits = true :=
      List.all_eq_true.mpr fun item member => fitting item (List.mem_of_mem_take member)
    rw [Function.iterate_succ_apply, takeBatch_fitting batch,
      inductionHypothesis fun item member => fitting item (List.mem_of_mem_drop member),
      List.drop_drop, Nat.succ_mul, Nat.add_comm]

/-- Where the keys are distinct, what is left without the keys of the batch is the rest. -/
theorem filter_keys_take {β : Type*} [DecidableEq β] {key : α → β}
    (distinct : (queue.map key).Nodup) (k : Nat) :
    (queue.filter fun item => decide (key item ∉ (queue.take k).map key)) = queue.drop k := by
  have split := distinct
  rw [← List.take_append_drop k queue, List.map_append, List.nodup_append] at split
  conv_lhs => rw [← List.take_append_drop k queue]
  rw [List.filter_append, List.filter_eq_nil_iff.mpr, List.nil_append, List.filter_eq_self.mpr]
  · intro item later
    apply decide_eq_true
    intro earlier
    rw [List.take_append_drop] at earlier
    exact split.2.2 _ earlier _ (List.mem_map_of_mem later) rfl
  · intro item member
    rw [List.take_append_drop]
    simpa using List.mem_map_of_mem (f := key) member

/-- In the end nothing that fits is in the queue. -/
def Delivered (k : Nat) (fits : α → Bool) (queue : List α) : Prop :=
  ∃ n, ∀ m ≥ n, ∀ item ∈ (takeBatch k fits)^[m] queue, fits item = false

theorem delivered_of_blocked (blocked : (queue.take k).all fits = false) :
    Delivered k fits queue ↔ ∀ item ∈ queue, fits item = false := by
  simp only [Delivered, iterate_takeBatch_blocked blocked]
  exact ⟨fun ⟨n, gone⟩ => gone n (Nat.le_refl n), fun gone => ⟨0, fun _ _ => gone⟩⟩

theorem delivered_of_fitting (fitting : (queue.take k).all fits = true) :
    Delivered k fits queue ↔ Delivered k fits (queue.drop k) := by
  constructor
  · rintro ⟨n, gone⟩
    refine ⟨n, fun m later => ?_⟩
    have next := gone (m + 1) (by omega)
    rwa [Function.iterate_succ_apply, takeBatch_fitting fitting] at next
  · rintro ⟨n, gone⟩
    refine ⟨n + 1, fun m later => ?_⟩
    obtain ⟨m, rfl⟩ := Nat.exists_eq_add_of_lt later
    rw [show n + m + 1 = (n + m) + 1 from rfl, Function.iterate_succ_apply,
      takeBatch_fitting fitting]
    exact gone (n + m) (by omega)

/-- Everything that fits leaves the queue if and only if nothing that fits is in a batch with, or
    behind, something that does not. -/
theorem delivered_iff (positive : 0 < k) :
    Delivered k fits queue ↔ ∀ n, ((queue.drop (n * k)).take k).all fits = false →
      ∀ item ∈ queue.drop (n * k), fits item = false := by
  induction length : queue.length using Nat.strongRecOn generalizing queue with
  | _ size inductionHypothesis =>
  cases batch : (queue.take k).all fits with
  | false =>
    rw [delivered_of_blocked batch]
    constructor
    · exact fun none n _ item member => none item (List.mem_of_mem_drop member)
    · intro unfit
      have whole := unfit 0
      simp only [Nat.zero_mul, List.drop_zero] at whole
      exact whole batch
  | true =>
    have shift : ∀ n, queue.drop ((n + 1) * k) = (queue.drop k).drop (n * k) := by
      intro n
      rw [List.drop_drop, Nat.succ_mul, Nat.add_comm]
    rw [delivered_of_fitting batch]
    cases queue with
    | nil =>
      have empty : ∀ m, (takeBatch k fits)^[m] [] = [] := by
        intro m
        rw [iterate_takeBatch (by simp), List.drop_nil]
      simp [Delivered, empty]
    | cons head rest =>
      rw [inductionHypothesis _ (by simp at length ⊢; omega) rfl]
      constructor
      · intro unfit n
        cases n with
        | zero => simp [batch]
        | succ n => rw [shift]; exact unfit n
      · intro unfit n
        have later := unfit (n + 1)
        rwa [shift] at later

end BurnLens.Library
