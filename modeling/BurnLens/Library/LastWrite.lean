import Mathlib.Data.List.Basic
import Mathlib.Data.List.Nodup

/-! # Last writes

A value under writes, of which each replaces it or leaves it: what counts is the last that
replaces.  And a list of deliveries, of which each but the first of its key is dropped.
-/

namespace BurnLens.Library

section

variable {α β κ : Type*} (write : α → Option β)

def lastWrite (events : List α) : Option β := (events.filterMap write).getLast?

@[simp] theorem lastWrite_nil : lastWrite write [] = none := rfl

theorem lastWrite_cons (event : α) (events : List α) (v : β) :
    (lastWrite write (event :: events)).getD v =
      (lastWrite write events).getD ((write event).getD v) := by
  cases writes : write event with
  | none => simp [lastWrite, writes]
  | some b =>
    rw [lastWrite, List.filterMap_cons_some writes, List.getLast?_cons]
    rfl

theorem lastWrite_append (before after : List α) (v : β) :
    (lastWrite write (before ++ after)).getD v =
      (lastWrite write after).getD ((lastWrite write before).getD v) := by
  induction before generalizing v with
  | nil => rfl
  | cons event before inductionHypothesis =>
    rw [List.cons_append, lastWrite_cons, inductionHypothesis, ← lastWrite_cons]

theorem lastWrite_eq_none {events : List α} (silent : ∀ event ∈ events, write event = none) :
    lastWrite write events = none := by
  have none : events.filterMap write = [] := List.filterMap_eq_nil_iff.mpr silent
  rw [lastWrite, none]
  rfl

/-! ## First deliveries -/

variable [DecidableEq κ] (key : α → κ)

/-- The items whose key is seen for the first time. -/
def firsts (seen : κ → Bool) : List α → List α
  | [] => []
  | item :: items =>
    if seen (key item) then firsts seen items
    else item :: firsts (fun k => seen k || k = key item) items

variable {key}

theorem firsts_of_nodup {seen : κ → Bool} {items : List α} (distinct : (items.map key).Nodup)
    (unseen : ∀ item ∈ items, seen (key item) = false) : firsts key seen items = items := by
  induction items generalizing seen with
  | nil => rfl
  | cons item items inductionHypothesis =>
    obtain ⟨apart, distinct⟩ := List.nodup_cons.mp distinct
    rw [firsts, if_neg (by simp [unseen item]), inductionHypothesis distinct]
    intro other member
    have before := unseen other (List.mem_cons_of_mem _ member)
    have new : key other ≠ key item := fun same => apart (same ▸ List.mem_map_of_mem member)
    rw [before, Bool.false_or, decide_eq_false new]

theorem mem_of_mem_firsts {seen : κ → Bool} {items : List α} {item : α}
    (member : item ∈ firsts key seen items) : item ∈ items := by
  induction items generalizing seen with
  | nil => cases member
  | cons head items inductionHypothesis =>
    rw [firsts] at member
    split at member
    · exact List.mem_cons_of_mem _ (inductionHypothesis member)
    · obtain rfl | later := List.mem_cons.mp member
      · exact List.mem_cons_self ..
      · exact List.mem_cons_of_mem _ (inductionHypothesis later)

theorem firsts_fresh {seen : κ → Bool} {items : List α} :
    ((firsts key seen items).map key).Nodup ∧
      ∀ item ∈ firsts key seen items, seen (key item) = false := by
  induction items generalizing seen with
  | nil => exact ⟨List.nodup_nil, by simp [firsts]⟩
  | cons head items inductionHypothesis =>
    rw [firsts]
    split
    · exact inductionHypothesis
    · rename_i new
      obtain ⟨distinct, unseen⟩ := @inductionHypothesis (fun k => seen k || k = key head)
      simp only [Bool.or_eq_false_iff, decide_eq_false_iff_not] at unseen
      refine ⟨List.nodup_cons.mpr ⟨fun member => ?_, distinct⟩, fun item member => ?_⟩
      · obtain ⟨item, later, same⟩ := List.mem_map.mp member
        exact (unseen item later).2 same
      · obtain rfl | later := List.mem_cons.mp member
        · simpa using new
        · exact (unseen item later).1

theorem firsts_covers {seen : κ → Bool} {items : List α} {item : α} (member : item ∈ items) :
    seen (key item) = true ∨ ∃ first ∈ firsts key seen items, key first = key item := by
  induction items generalizing seen with
  | nil => cases member
  | cons head items inductionHypothesis =>
    rw [firsts]
    split
    · rename_i before
      obtain rfl | later := List.mem_cons.mp member
      · exact Or.inl before
      · exact inductionHypothesis later
    · obtain rfl | later := List.mem_cons.mp member
      · exact Or.inr ⟨item, List.mem_cons_self .., rfl⟩
      · obtain before | ⟨first, there, same⟩ :=
          @inductionHypothesis (fun k => seen k || k = key head) later
        · simp only [Bool.or_eq_true, decide_eq_true_eq] at before
          obtain before | same := before
          · exact Or.inl before
          · exact Or.inr ⟨head, List.mem_cons_self .., same.symm⟩
        · exact Or.inr ⟨first, List.mem_cons_of_mem _ there, same⟩

end

end BurnLens.Library
