import BurnLens.Library.Machine
import Mathlib.Logic.Function.Basic

/-! # Programs that await

A program is done, has raised, or awaits an operation and goes on with its answer.  A pool of
programs shares a world: a move performs the awaited operation of one of them, or makes it
raise.  A contract says of one program what it relies on of the others and what holds in
every state; `Always` is its proof obligation, a recursion over the program, and
`Pool.preserves` puts the obligations of all programs together.
-/

namespace BurnLens.Library

inductive Program (Op : Type) (Answer : Op → Type) (ε α : Type) where
  | done (result : α)
  | raised (error : ε)
  | await (op : Op) (next : Answer op → Program Op Answer ε α)

namespace Program

variable {Op Op' ε α β : Type} {Answer : Op → Type} {Answer' : Op' → Type}

protected def bind : Program Op Answer ε α → (α → Program Op Answer ε β) → Program Op Answer ε β
  | done result, f => f result
  | raised error, _ => raised error
  | await op next, f => await op fun answer => (next answer).bind f

instance : Monad (Program Op Answer ε) where
  pure := done
  bind := Program.bind

def perform (op : Op) : Program Op Answer ε (Answer op) := await op done

/-- The same program with other names for its operations. -/
def lift (rename : Op → Op') (answer : (op : Op) → Answer' (rename op) → Answer op) :
    Program Op Answer ε α → Program Op' Answer' ε α
  | done result => done result
  | raised error => raised error
  | await op next => await (rename op) fun a => (next (answer op a)).lift rename answer

def pending : Program Op Answer ε α → Option Op
  | await op _ => some op
  | _ => none

theorem await_of_pending {p : Program Op Answer ε α} {op : Op} (awaits : p.pending = some op) :
    ∃ next, p = await op next := by
  cases p with
  | done => cases awaits
  | raised => cases awaits
  | await op' next => cases awaits; exact ⟨next, rfl⟩

@[simp] theorem pure_eq (result : α) : (pure result : Program Op Answer ε α) = done result := rfl

@[simp] theorem done_bind (result : α) (f : α → Program Op Answer ε β) :
    done result >>= f = f result := rfl

@[simp] theorem raised_bind (error : ε) (f : α → Program Op Answer ε β) :
    raised error >>= f = raised error := rfl

@[simp] theorem await_bind (op : Op) (next : Answer op → Program Op Answer ε α)
    (f : α → Program Op Answer ε β) :
    await op next >>= f = await op fun answer => next answer >>= f := rfl

@[simp] theorem perform_bind (op : Op) (f : Answer op → Program Op Answer ε β) :
    perform op >>= f = await op f := rfl

theorem bind_assoc {γ : Type} (p : Program Op Answer ε α) (f : α → Program Op Answer ε β)
    (g : β → Program Op Answer ε γ) : p >>= f >>= g = p >>= fun a => f a >>= g := by
  induction p with
  | done => rfl
  | raised => rfl
  | await op next inductionHypothesis =>
    exact congrArg (await op) (funext inductionHypothesis)

end Program

open Program

/-- What an operation does to the world, and its answer. -/
abbrev Handler (World Op : Type) (Answer : Op → Type) (ε : Type) :=
  World → (op : Op) → Except ε (World × Answer op)

/-! ## A program alone -/

section Alone

variable {World Op ε α β : Type} {Answer : Op → Type} (handle : Handler World Op Answer ε)

/-- The world and the result of a program that nothing runs beside. -/
def Program.run : World → Program Op Answer ε α → Except ε (World × α)
  | w, done result => .ok (w, result)
  | _, raised error => .error error
  | w, await op next =>
    match handle w op with
    | .ok (w', answer) => Program.run w' (next answer)
    | .error error => .error error

/-- Partial correctness: what holds where the program returns. -/
def Program.Ensures (w : World) (p : Program Op Answer ε α) (post : World → α → Prop) : Prop :=
  ∀ w' result, p.run handle w = .ok (w', result) → post w' result

variable {handle} {w : World} {post : World → α → Prop}

theorem ensures_done {result : α} (holds : post w result) : (done result).Ensures handle w post := by
  intro w' result' ran
  cases ran
  exact holds

theorem ensures_raised {error : ε} : (raised error).Ensures handle w post := by
  intro w' result ran
  cases ran

theorem ensures_await {op : Op} {next : Answer op → Program Op Answer ε α}
    (each : ∀ w' answer, handle w op = .ok (w', answer) → (next answer).Ensures handle w' post) :
    (await op next).Ensures handle w post := by
  intro w' result ran
  cases handled : handle w op with
  | ok answered =>
    rw [Program.run, handled] at ran
    exact each answered.1 answered.2 handled w' result ran
  | error error =>
    rw [Program.run, handled] at ran
    cases ran

end Alone

structure Pool (World Caller Op : Type) (Answer : Op → Type) (ε α : Type) where
  world : World
  program : Caller → Program Op Answer ε α

inductive Move (Caller ε : Type) where
  | advance (caller : Caller)
  -- the awaited operation raises, and does nothing else
  | fail (caller : Caller) (error : ε)

section

variable {World Caller Op ε α : Type} {Answer : Op → Type}

def after (handle : Handler World Op Answer ε) (w : World) :
    Program Op Answer ε α → Option (World × Program Op Answer ε α)
  | done _ | raised _ => none
  | await op next =>
    match handle w op with
    | .ok (w', answer) => some (w', next answer)
    | .error error => some (w, raised error)

def failed : Program Op Answer ε α → ε → Option (Program Op Answer ε α)
  | await _ _, error => some (raised error)
  | _, _ => none

theorem after_cases {handle : Handler World Op Answer ε} {w w' : World}
    {p p' : Program Op Answer ε α} (stepped : after handle w p = some (w', p')) :
    ∃ op next, p = await op next ∧
      ((∃ answer, handle w op = .ok (w', answer) ∧ p' = next answer) ∨
        ∃ error, handle w op = .error error ∧ w' = w ∧ p' = raised error) := by
  cases p with
  | done => cases stepped
  | raised => cases stepped
  | await op next =>
    refine ⟨op, next, rfl, ?_⟩
    rw [after] at stepped
    cases answered : handle w op with
    | ok result =>
      rw [answered] at stepped
      cases stepped
      exact Or.inl ⟨_, rfl, rfl⟩
    | error error =>
      rw [answered] at stepped
      cases stepped
      exact Or.inr ⟨error, rfl, rfl, rfl⟩

variable [DecidableEq Caller]

def Pool.set (s : Pool World Caller Op Answer ε α) (i : Caller) (w : World)
    (p : Program Op Answer ε α) : Pool World Caller Op Answer ε α :=
  ⟨w, Function.update s.program i p⟩

def pool (handle : Handler World Op Answer ε) :
    Machine (Pool World Caller Op Answer ε α) (Move Caller ε) where
  step s
    | .advance i => (after handle s.world (s.program i)).map fun next => s.set i next.1 next.2
    | .fail i error => (failed (s.program i) error).map fun next => s.set i s.world next

end

/-! ## Contracts -/

/-- What a program relies on of the others, and what it keeps true: both may depend on how
    far it has come. -/
structure Contract (World Op : Type) (Answer : Op → Type) (ε α : Type) where
  rely : Program Op Answer ε α → World → World → Prop
  good : World → Program Op Answer ε α → Prop
  -- where the awaited operation may be performed, and where it may raise
  mayAdvance : World → Program Op Answer ε α → Prop
  mayFail : World → Program Op Answer ε α → Prop
  refl : ∀ p w, rely p w w
  trans : ∀ p w w' w'', rely p w w' → rely p w' w'' → rely p w w''

namespace Contract

variable {World Caller Op ε α : Type} {Answer : Op → Type}
  (contract : Contract World Op Answer ε α) (handle : Handler World Op Answer ε)

/-- The world stays good for a program that goes no further. -/
def Rests (p : Program Op Answer ε α) (w : World) : Prop :=
  ∀ w', contract.rely p w w' → contract.good w' p

def Always : Program Op Answer ε α → World → Prop
  | done result, w => contract.Rests (done result) w
  | raised error, w => contract.Rests (raised error) w
  | await op next, w => ∀ w', contract.rely (await op next) w w' →
      contract.good w' (await op next) ∧
      (contract.mayAdvance w' (await op next) →
        (∀ w'' answer, handle w' op = .ok (w'', answer) → Always (next answer) w'') ∧
          ∀ error, handle w' op = .error error → contract.Rests (raised error) w') ∧
      (contract.mayFail w' (await op next) → ∀ error, contract.Rests (raised error) w')

variable {contract handle} {p : Program Op Answer ε α} {op : Op}
  {next : Answer op → Program Op Answer ε α} {w w' : World}

/-- The rule for an awaited operation, under an assertion that the others leave true. -/
theorem Always.await (assertion : World → Prop) (holds : assertion w)
    (stable : ∀ w w', contract.rely (await op next) w w' → assertion w → assertion w')
    (good : ∀ w, assertion w → contract.good w (await op next))
    (step : ∀ w w' answer, assertion w → contract.mayAdvance w (await op next) →
      handle w op = .ok (w', answer) → contract.Always handle (next answer) w')
    (error : ∀ w error, assertion w → contract.mayAdvance w (await op next) →
      handle w op = .error error → contract.Rests (raised error) w)
    (fail : ∀ w error, assertion w → contract.mayFail w (await op next) →
      contract.Rests (raised error) w) :
    contract.Always handle (await op next) w := by
  intro w' interfered
  have holds' := stable w w' interfered holds
  exact ⟨good w' holds', fun may => ⟨fun w'' answer => step w' w'' answer holds' may,
    fun e => error w' e holds' may⟩, fun may e => fail w' e holds' may⟩

/-- The rule for a contract that asks nothing of a program that has raised. -/
theorem Always.await_of_rests (rests : ∀ w error, contract.Rests (.raised error) w)
    (assertion : World → Prop) (holds : assertion w)
    (stable : ∀ w w', contract.rely (.await op next) w w' → assertion w → assertion w')
    (good : ∀ w, assertion w → contract.good w (.await op next))
    (step : ∀ w w' answer, assertion w → handle w op = .ok (w', answer) →
      contract.Always handle (next answer) w') :
    contract.Always handle (.await op next) w := by
  apply Always.await assertion holds stable good
  · exact fun w w' answer holds _ => step w w' answer holds
  · exact fun w error _ _ _ => rests w error
  · exact fun w error _ _ => rests w error

theorem Always.good (always : contract.Always handle p w) : contract.good w p := by
  cases p with
  | done => exact always w (contract.refl _ w)
  | raised => exact always w (contract.refl _ w)
  | await => exact (always w (contract.refl _ w)).1

theorem Always.interfere (always : contract.Always handle p w) (rely : contract.rely p w w') :
    contract.Always handle p w' := by
  cases p with
  | done => exact fun w'' more => always w'' (contract.trans _ w w' w'' rely more)
  | raised => exact fun w'' more => always w'' (contract.trans _ w w' w'' rely more)
  | await => exact fun w'' more => always w'' (contract.trans _ w w' w'' rely more)

theorem Always.advance (always : contract.Always handle p w) (may : contract.mayAdvance w p)
    {p' : Program Op Answer ε α} (stepped : after handle w p = some (w', p')) : contract.Always handle p' w' := by
  obtain ⟨op, next, rfl, ⟨answer, handled, rfl⟩ | ⟨error, refused, rfl, rfl⟩⟩ := after_cases stepped
  · exact ((always w (contract.refl _ w)).2.1 may).1 w' answer handled
  · exact ((always w' (contract.refl _ w')).2.1 may).2 error refused

theorem Always.fail (always : contract.Always handle p w) (may : contract.mayFail w p) {error : ε}
    {p' : Program Op Answer ε α} (fell : failed p error = some p') :
    contract.Always handle p' w := by
  cases p with
  | done => cases fell
  | raised => cases fell
  | await op next =>
    cases fell
    exact (always w (contract.refl _ w)).2.2 may error

end Contract

open Contract

variable {World Caller Op ε α : Type} {Answer : Op → Type} [DecidableEq Caller]
  {handle : Handler World Op Answer ε}

/-- The rule for pools: the programs keep their contracts if the step of each is within
    what the others rely on. -/
theorem Pool.preserves (contract : Caller → Contract World Op Answer ε α)
    (guard : Pool World Caller Op Answer ε α → Move Caller ε → Prop)
    (interferes : ∀ s i w p,
      (∀ k, (contract k).Always handle (s.program k) s.world) → guard s (.advance i) →
      after handle s.world (s.program i) = some (w, p) →
      ∀ j, j ≠ i → (contract j).rely (s.program j) s.world w)
    (advances : ∀ s i,
      (∀ k, (contract k).Always handle (s.program k) s.world) → guard s (.advance i) →
      (contract i).mayAdvance s.world (s.program i))
    (fails : ∀ s i error,
      (∀ k, (contract k).Always handle (s.program k) s.world) → guard s (.fail i error) →
      (contract i).mayFail s.world (s.program i)) :
    (pool handle).Preserves guard fun s =>
      ∀ i, (contract i).Always handle (s.program i) s.world := by
  intro s move s' always meets stepped j
  cases move with
  | advance i =>
    obtain ⟨⟨w, p⟩, went, rfl⟩ := Option.map_eq_some_iff.mp stepped
    by_cases same : j = i
    · subst same
      simpa [Pool.set] using (always j).advance (advances s j always meets) went
    · simpa [Pool.set, same] using
        (always j).interfere (interferes s i w p always meets went j same)
  | fail i error =>
    obtain ⟨p, fell, rfl⟩ := Option.map_eq_some_iff.mp stepped
    by_cases same : j = i
    · subst same
      simpa [Pool.set] using (always j).fail (fails s j error always meets) fell
    · simpa [Pool.set, same] using always j

end BurnLens.Library
