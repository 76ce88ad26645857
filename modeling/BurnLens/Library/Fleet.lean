import BurnLens.Library.Machine
import Mathlib.Algebra.Order.BigOperators.Group.List
import Mathlib.Algebra.Order.Ring.Nat
import Mathlib.Data.List.Perm.Basic

/-! # Concurrent calls

Any number of calls over one world, each with the statement it is about to execute: a label
executes the statement of one call, or lets the environment act.  A call that has ended has no
statement.  Two rules for invariants: an assertion about every call that the statements of the
others leave true, and a total over the calls, of which a statement changes one summand.
-/

namespace BurnLens.Library

structure Fleet (World Call Phase : Type*) where
  world : World
  calls : List (Call × Phase)

inductive FleetLabel (Event : Type*) where
  | advance (k : Nat)
  | happen (event : Event)
deriving DecidableEq

section

variable {World Call Phase Event : Type*}

/-- What a fleet does: the statement of a call, and the events of the environment. -/
structure Routes (World Call Phase Event : Type*) where
  advance : World → Call → Phase → Option (World × Phase)
  happen : World → Event → World

variable (routes : Routes World Call Phase Event)

def Fleet.step (s : Fleet World Call Phase) :
    FleetLabel Event → Option (Fleet World Call Phase)
  | .advance k =>
    s.calls[k]?.bind fun (call, phase) =>
      (routes.advance s.world call phase).map fun (w, next) =>
        ⟨w, s.calls.set k (call, next)⟩
  | .happen event => some { s with world := routes.happen s.world event }

def Routes.machine : Machine (Fleet World Call Phase) (FleetLabel Event) where
  step := Fleet.step routes

variable {routes} {s s' : Fleet World Call Phase} {k : Nat} {event : Event}

theorem advance_cases (stepped : routes.machine.step s (.advance k) = some s') :
    ∃ call phase w next, s.calls[k]? = some (call, phase) ∧
      routes.advance s.world call phase = some (w, next) ∧
      s' = ⟨w, s.calls.set k (call, next)⟩ := by
  obtain ⟨⟨call, phase⟩, found, moved⟩ := Option.bind_eq_some_iff.mp stepped
  obtain ⟨⟨w, next⟩, went, rfl⟩ := Option.map_eq_some_iff.mp moved
  exact ⟨call, phase, w, next, found, went, rfl⟩

theorem happen_cases (stepped : routes.machine.step s (.happen event) = some s') :
    s' = { s with world := routes.happen s.world event } :=
  (Option.some.inj stepped).symm

/-- A condition on the statement of a call, and one on what happens meanwhile. -/
def Fleet.Meets (statement : World → Call → Phase → Prop) (meanwhile : World → Event → Prop)
    (s : Fleet World Call Phase) : FleetLabel Event → Prop
  | .advance k => ∀ c ∈ s.calls[k]?, statement s.world c.1 c.2
  | .happen event => meanwhile s.world event

instance {statement : World → Call → Phase → Prop} {meanwhile : World → Event → Prop}
    [∀ w call phase, Decidable (statement w call phase)] [∀ w event, Decidable (meanwhile w event)]
    (s : Fleet World Call Phase) : (l : FleetLabel Event) → Decidable (s.Meets statement meanwhile l)
  | .advance k => inferInstanceAs (Decidable (∀ c ∈ s.calls[k]?, statement s.world c.1 c.2))
  | .happen event => inferInstanceAs (Decidable (meanwhile s.world event))

/-- The invariant rule: one obligation for a statement, one for an event. -/
theorem Routes.preserves {statement : World → Call → Phase → Prop}
    {meanwhile : World → Event → Prop} {inv : Fleet World Call Phase → Prop}
    (advance : ∀ s k call phase w next, inv s → s.calls[k]? = some (call, phase) →
      statement s.world call phase → routes.advance s.world call phase = some (w, next) →
      inv ⟨w, s.calls.set k (call, next)⟩)
    (happen : ∀ s event, inv s → meanwhile s.world event →
      inv { s with world := routes.happen s.world event }) :
    routes.machine.Preserves (Fleet.Meets statement meanwhile) inv := by
  intro s l s' holds meets stepped
  cases l with
  | advance k =>
    obtain ⟨call, phase, w, next, found, went, rfl⟩ := advance_cases stepped
    exact advance s k call phase w next holds found (meets _ found) went
  | happen event =>
    rw [happen_cases stepped]
    exact happen s event holds meets

theorem Routes.run_invariant {inv : Fleet World Call Phase → Prop}
    (advance : ∀ s k call phase w next, inv s → s.calls[k]? = some (call, phase) →
      routes.advance s.world call phase = some (w, next) → inv ⟨w, s.calls.set k (call, next)⟩)
    (happen : ∀ s event, inv s → inv { s with world := routes.happen s.world event })
    {labels : List (FleetLabel Event)} (start : inv s) (ran : routes.machine.run s labels = some s') :
    inv s' := by
  refine routes.machine.run_invariant ?_ start ran
  intro s l s' holds stepped
  cases l with
  | advance k =>
    obtain ⟨call, phase, w, next, found, went, rfl⟩ := advance_cases stepped
    exact advance s k call phase w next holds found went
  | happen event =>
    rw [happen_cases stepped]
    exact happen s event holds

/-- Every call satisfies what is asserted of it in the world as it is. -/
def Fleet.Each (assertion : World → Call → Phase → Prop) (s : Fleet World Call Phase) : Prop :=
  ∀ call phase, (call, phase) ∈ s.calls → assertion s.world call phase

theorem Fleet.Each.at {assertion : World → Call → Phase → Prop} (each : s.Each assertion)
    {call : Call} {phase : Phase} (found : s.calls[k]? = some (call, phase)) :
    assertion s.world call phase :=
  each call phase (List.mem_of_getElem? found)

theorem Fleet.Each.set {assertion : World → Call → Phase → Prop} {w : World} {call : Call}
    {next : Phase} (own : assertion w call next)
    (others : ∀ j other phase, j ≠ k → s.calls[j]? = some (other, phase) →
      assertion w other phase) :
    Fleet.Each assertion ⟨w, s.calls.set k (call, next)⟩ := by
  intro other phase member
  obtain ⟨j, at_⟩ := List.mem_iff_getElem?.mp member
  rw [List.getElem?_set] at at_
  split at at_
  · split at at_
    · cases at_
      exact own
    · cases at_
  · rename_i apart
    exact others j other phase (Ne.symm apart) at_

/-! ## Totals -/

theorem sum_map_set {α M : Type*} [AddCommMonoid M] (f : α → M) {l : List α} {k : Nat} {a : α}
    (found : l[k]? = some a) (b : α) :
    ((l.set k b).map f).sum + f a = (l.map f).sum + f b := by
  induction l generalizing k with
  | nil => cases found
  | cons head l inductionHypothesis =>
    cases k with
    | zero =>
      cases found
      simp only [List.set_cons_zero, List.map_cons, List.sum_cons]
      rw [add_comm (f b), add_assoc, add_comm (f b), ← add_assoc, add_comm (l.map f).sum]
    | succ k =>
      simp only [List.set_cons_succ, List.map_cons, List.sum_cons, add_assoc]
      rw [inductionHypothesis found]

def total {M : Type*} [AddCommMonoid M] (weight : Call → Phase → M)
    (calls : List (Call × Phase)) : M :=
  (calls.map fun c => weight c.1 c.2).sum

section

variable {M : Type*} [AddCommMonoid M] (weight : Call → Phase → M)
  {calls : List (Call × Phase)} {call : Call} {phase : Phase}

theorem total_set (found : calls[k]? = some (call, phase)) (next : Phase) :
    total weight (calls.set k (call, next)) + weight call phase =
      total weight calls + weight call next :=
  sum_map_set (fun c : Call × Phase => weight c.1 c.2) found (call, next)

variable {weight} in
theorem total_eq_zero (none : ∀ call phase, (call, phase) ∈ calls → weight call phase = 0) :
    total weight calls = 0 := by
  apply List.sum_eq_zero
  intro m member
  obtain ⟨⟨call, phase⟩, at_, rfl⟩ := List.mem_map.mp member
  exact none call phase at_

theorem part_le_total [PartialOrder M] [IsOrderedAddMonoid M] [CanonicallyOrderedAdd M]
    (member : (call, phase) ∈ calls) : weight call phase ≤ total weight calls :=
  List.single_le_sum (fun _ _ => zero_le) _
    (List.mem_map_of_mem (f := fun c : Call × Phase => weight c.1 c.2) member)

theorem total_eq_add (found : calls[k]? = some (call, phase)) :
    total weight calls = weight call phase + total weight (calls.eraseIdx k) := by
  obtain ⟨inside, at_⟩ := List.getElem?_eq_some_iff.mp found
  have rearranged := List.getElem_cons_eraseIdx_perm inside
  rw [at_] at rearranged
  exact (rearranged.map fun c : Call × Phase => weight c.1 c.2).sum_eq.symm

theorem add_le_total [PartialOrder M] [IsOrderedAddMonoid M] [CanonicallyOrderedAdd M]
    {j : Nat} {other : Call} {phase' : Phase} (found : calls[k]? = some (call, phase))
    (there : calls[j]? = some (other, phase')) (apart : j ≠ k) :
    weight call phase + weight other phase' ≤ total weight calls := by
  rw [total_eq_add weight found]
  exact add_le_add_right (part_le_total weight (List.mem_eraseIdx_iff_getElem?.mpr ⟨j, apart, there⟩)) _

variable {weight} in
theorem total_alone (found : calls[k]? = some (call, phase))
    (others : ∀ j other phase', j ≠ k → calls[j]? = some (other, phase') →
      weight other phase' = 0) : total weight calls = weight call phase := by
  have none : total weight (calls.eraseIdx k) = 0 := by
    apply total_eq_zero
    intro other phase' member
    obtain ⟨j, apart, there⟩ := List.mem_eraseIdx_iff_getElem?.mp member
    exact others j other phase' apart there
  rw [total_eq_add weight found, none, add_zero]

end

end

end BurnLens.Library
