import Mathlib.Data.Option.Basic

/-! # Labelled machines

A machine is a partial step function: `step s l = none` says that the label `l` is not
enabled in `s`.  A schedule is a list of labels; `run` executes it.  The two invariant rules
below are the only inductions over schedules that a protocol proof needs: the plain one, and
one for schedules all of whose labels meet a guard in the state they are taken in.
-/

namespace BurnLens.Library

structure Machine (State : Type*) (Label : Type*) where
  step : State → Label → Option State

namespace Machine

variable {State Label : Type*} (machine : Machine State Label)

/-- The state a schedule ends in, provided that every label is enabled in turn. -/
def run : State → List Label → Option State
  | s, [] => some s
  | s, l :: ls =>
    match machine.step s l with
    | some s' => run s' ls
    | none => none

/-- Every label of the schedule meets `guard` in the state in which it is taken. -/
def Guarded (guard : State → Label → Prop) : State → List Label → Prop
  | _, [] => True
  | s, l :: ls => guard s l ∧ ∀ s', machine.step s l = some s' → Guarded guard s' ls

instance decidableGuarded {guard : State → Label → Prop} [∀ s l, Decidable (guard s l)] :
    (s : State) → (ls : List Label) → Decidable (machine.Guarded guard s ls)
  | _, [] => isTrue trivial
  | s, l :: ls =>
    match stepped : machine.step s l with
    | none => decidable_of_iff (guard s l) (by simp [Guarded, stepped])
    | some s' =>
      have : Decidable (machine.Guarded guard s' ls) := decidableGuarded s' ls
      decidable_of_iff (guard s l ∧ machine.Guarded guard s' ls) (by simp [Guarded, stepped])

def Preserves (guard : State → Label → Prop) (inv : State → Prop) : Prop :=
  ∀ s l s', inv s → guard s l → machine.step s l = some s' → inv s'

@[simp] theorem run_nil (s : State) : machine.run s [] = some s := rfl

theorem run_cons (s : State) (l : Label) (ls : List Label) :
    machine.run s (l :: ls) = (machine.step s l).bind fun s' => machine.run s' ls := by
  rw [run]
  cases machine.step s l <;> rfl

theorem run_cons_some {s s'' : State} {l : Label} {ls : List Label}
    (ran : machine.run s (l :: ls) = some s'') :
    ∃ s', machine.step s l = some s' ∧ machine.run s' ls = some s'' := by
  rw [run_cons] at ran
  exact Option.bind_eq_some_iff.mp ran

theorem run_concat (s : State) (ls : List Label) (l : Label) :
    machine.run s (ls ++ [l]) = (machine.run s ls).bind fun s' => machine.step s' l := by
  induction ls generalizing s with
  | nil => rw [List.nil_append, run_cons, run_nil]; simp
  | cons head ls inductionHypothesis =>
    rw [List.cons_append, run_cons, run_cons, Option.bind_assoc]
    exact congrArg _ (funext inductionHypothesis)

theorem guarded_last {guard : State → Label → Prop} {s s' : State} {ls : List Label} {l : Label}
    (guarded : machine.Guarded guard s (ls ++ [l])) (ran : machine.run s ls = some s') :
    guard s' l := by
  induction ls generalizing s with
  | nil => cases ran; exact guarded.1
  | cons head ls inductionHypothesis =>
    obtain ⟨next, stepped, rest⟩ := machine.run_cons_some ran
    exact inductionHypothesis (guarded.2 next stepped) rest

theorem run_append (s : State) (before after : List Label) :
    machine.run s (before ++ after) =
      (machine.run s before).bind fun s' => machine.run s' after := by
  induction before generalizing s with
  | nil => rfl
  | cons l before inductionHypothesis =>
    rw [List.cons_append, run_cons, run_cons, Option.bind_assoc]
    exact congrArg _ (funext inductionHypothesis)

theorem guarded_append {guard : State → Label → Prop} {s : State} {before after : List Label}
    (guarded : machine.Guarded guard s (before ++ after)) :
    machine.Guarded guard s before ∧
      ∀ s', machine.run s before = some s' → machine.Guarded guard s' after := by
  induction before generalizing s with
  | nil => exact ⟨trivial, fun s' ran => by cases ran; exact guarded⟩
  | cons l before inductionHypothesis =>
    refine ⟨⟨guarded.1, fun s' stepped => (inductionHypothesis (guarded.2 s' stepped)).1⟩, ?_⟩
    intro s' ran
    obtain ⟨next, stepped, rest⟩ := machine.run_cons_some ran
    exact (inductionHypothesis (guarded.2 next stepped)).2 s' rest

/-- The invariant rule for guarded schedules: induction on the schedule. -/
theorem Preserves.run {guard : State → Label → Prop} {inv : State → Prop}
    (preserves : machine.Preserves guard inv) {s s' : State} {ls : List Label}
    (start : inv s) (guarded : machine.Guarded guard s ls)
    (ran : machine.run s ls = some s') : inv s' := by
  induction ls generalizing s with
  | nil => cases ran; exact start
  | cons l ls inductionHypothesis =>
    obtain ⟨next, stepped, rest⟩ := machine.run_cons_some ran
    exact inductionHypothesis (preserves s l next start guarded.1 stepped)
      (guarded.2 next stepped) rest

theorem guarded_cons {guard : State → Label → Prop} {s s' : State} {l : Label} {ls : List Label}
    (meets : guard s l) (stepped : machine.step s l = some s')
    (rest : machine.Guarded guard s' ls) : machine.Guarded guard s (l :: ls) := by
  refine ⟨meets, fun next same => ?_⟩
  rw [stepped] at same
  cases same
  exact rest

/-- One guard gives another wherever an invariant holds that it keeps. -/
theorem guarded_imp {guard guard' : State → Label → Prop} (inv : State → Prop)
    (imp : ∀ s l, inv s → guard s l → guard' s l) (preserves : machine.Preserves guard inv)
    {s : State} (start : inv s) {ls : List Label} (guarded : machine.Guarded guard s ls) :
    machine.Guarded guard' s ls := by
  induction ls generalizing s with
  | nil => trivial
  | cons l ls inductionHypothesis =>
    refine ⟨imp s l start guarded.1, fun next stepped => ?_⟩
    exact inductionHypothesis (preserves s l next start guarded.1 stepped) (guarded.2 next stepped)

theorem guarded_iff {guard guard' : State → Label → Prop} (inv : State → Prop)
    (agree : ∀ s l, inv s → (guard s l ↔ guard' s l)) (preserves : machine.Preserves guard' inv)
    {s : State} (start : inv s) (ls : List Label) :
    machine.Guarded guard s ls ↔ machine.Guarded guard' s ls := by
  constructor
  · apply machine.guarded_imp inv (fun s l holds => (agree s l holds).mp) _ start
    exact fun s l s' holds meets => preserves s l s' holds ((agree s l holds).mp meets)
  · exact machine.guarded_imp inv (fun s l holds => (agree s l holds).mpr) preserves start

/-- A guard that says of every step that it keeps an invariant, says of a schedule that the
    invariant holds in every state reached. -/
theorem guarded_iff_reached {guard : State → Label → Prop} {inv : State → Prop}
    (exact_ : ∀ s l, inv s → (guard s l ↔ ∀ s', machine.step s l = some s' → inv s'))
    {s : State} (start : inv s) (ls : List Label) :
    machine.Guarded guard s ls ↔
      ∀ before s', before <+: ls → machine.run s before = some s' → inv s' := by
  induction ls generalizing s with
  | nil =>
    refine ⟨fun _ before s' shorter ran => ?_, fun _ => trivial⟩
    rw [List.prefix_nil.mp shorter] at ran
    cases ran
    exact start
  | cons l ls inductionHypothesis =>
    constructor
    · intro guarded before s' shorter ran
      cases before with
      | nil =>
        cases ran
        exact start
      | cons l' before =>
        obtain ⟨rfl, within⟩ := List.cons_prefix_cons.mp shorter
        obtain ⟨next, stepped, rest⟩ := machine.run_cons_some ran
        have holds := (exact_ s l' start).mp guarded.1 next stepped
        exact (inductionHypothesis holds).mp (guarded.2 next stepped) before s' within rest
    · intro reached
      have steps : ∀ next, machine.step s l = some next → inv next := by
        intro next stepped
        apply reached [l] next
        · exact ⟨ls, rfl⟩
        · rw [run_cons, stepped]
          rfl
      refine ⟨(exact_ s l start).mpr steps, fun next stepped => ?_⟩
      rw [inductionHypothesis (steps next stepped)]
      intro before s' shorter ran
      apply reached (l :: before) s'
      · exact List.cons_prefix_cons.mpr ⟨rfl, shorter⟩
      · rw [run_cons, stepped]
        exact ran

/-- A guard that says of every step that it is good, where good steps keep an invariant, says of a
    schedule that all its steps are good. -/
theorem guarded_iff_steps {guard : State → Label → Prop} {inv : State → Prop}
    {good : State → State → Prop}
    (keeps : ∀ s l s', inv s → machine.step s l = some s' → good s s' → inv s')
    (exact_ : ∀ s l, inv s → (guard s l ↔ ∀ s', machine.step s l = some s' → good s s'))
    {s : State} (start : inv s) (ls : List Label) :
    machine.Guarded guard s ls ↔
      ∀ before l s' s'', before ++ [l] <+: ls → machine.run s before = some s' →
        machine.step s' l = some s'' → good s' s'' := by
  induction ls generalizing s with
  | nil =>
    refine ⟨fun _ before l s' s'' shorter => ?_, fun _ => trivial⟩
    cases before <;> cases List.prefix_nil.mp shorter
  | cons head ls inductionHypothesis =>
    constructor
    · intro guarded before l s' s'' shorter ran stepped
      have first := (exact_ s head start).mp guarded.1
      cases before with
      | nil =>
        obtain ⟨rfl, -⟩ := List.cons_prefix_cons.mp shorter
        cases ran
        exact first s'' stepped
      | cons head' before =>
        obtain ⟨rfl, within⟩ := List.cons_prefix_cons.mp shorter
        obtain ⟨next, went, rest⟩ := machine.run_cons_some ran
        have holds := keeps s head' next start went (first next went)
        exact (inductionHypothesis holds).mp (guarded.2 next went) before l s' s'' within rest stepped
    · intro steps
      have first : ∀ next, machine.step s head = some next → good s next := by
        intro next went
        exact steps [] head s next (List.cons_prefix_cons.mpr ⟨rfl, List.nil_prefix⟩) rfl went
      refine ⟨(exact_ s head start).mpr first, fun next went => ?_⟩
      rw [inductionHypothesis (keeps s head next start went (first next went))]
      intro before l s' s'' shorter ran stepped
      refine steps (head :: before) l s' s'' (List.cons_prefix_cons.mpr ⟨rfl, shorter⟩) ?_ stepped
      rw [run_cons, went]
      exact ran

theorem guarded_of_forall {guard : Label → Prop} {ls : List Label} (each : ∀ l ∈ ls, guard l)
    (s : State) : machine.Guarded (fun _ l => guard l) s ls := by
  induction ls generalizing s with
  | nil => trivial
  | cons l ls inductionHypothesis =>
    refine ⟨each l List.mem_cons_self, fun s' _ => ?_⟩
    exact inductionHypothesis (fun l' member => each l' (List.mem_cons_of_mem l member)) s'

theorem guarded_trivial (s : State) (ls : List Label) :
    machine.Guarded (fun _ _ => True) s ls :=
  machine.guarded_of_forall (fun _ _ => trivial) s

theorem run_invariant {inv : State → Prop}
    (preserves : ∀ s l s', inv s → machine.step s l = some s' → inv s')
    {s s' : State} {ls : List Label} (start : inv s)
    (ran : machine.run s ls = some s') : inv s' := by
  have always : machine.Preserves (fun _ _ => True) inv :=
    fun s l s' holds _ stepped => preserves s l s' holds stepped
  exact always.run machine start (machine.guarded_trivial s ls) ran

end Machine

end BurnLens.Library
