import BurnLens.Execution.Models
import BurnLens.Library.Machine
import Mathlib.Data.Fintype.Basic

/-! # Concurrent executions

`AssistedExecutionService.execute` for calls that present one approval token.  Each step is
one awaited call of the storage or of the git adapter, with the code that runs before the
next one; every storage call is a transaction of its own.
-/

namespace BurnLens.Execution

open Library

structure Call where
  request : ExecutionRequest
  token : ApprovalToken
  now : Time

/-- Calls that present the token `tokenId`, possibly from different copies of it. -/
structure Presentation (Caller : Type*) where
  verifier : Verifier
  tokenId : Str
  call : Caller → Call
  presents : ∀ i, (call i).token.tokenId = tokenId

structure TokenRow where
  workspaceId : Str
  consumed : Bool
deriving DecidableEq

def TokenRow.consume (row : TokenRow) : TokenRow := { row with consumed := true }

structure ExecutionRecord where
  executionId : Str
  workspaceId : Str
  idempotencyKey : Str
deriving DecidableEq

inductive Status where
  | denied
  | completed
  | failed
deriving DecidableEq

inductive AdapterStep where
  | createBranch
  | commitScopedChanges
  | openPullRequest
  | recordCiStatus
deriving DecidableEq

inductive Phase where
  -- about to look the idempotency key up
  | started
  -- about to read the stored token
  | reading
  -- verified, and about to mark the token consumed
  | consuming
  | executing (step : AdapterStep)
  | saving (status : Status)
  | returned (status : Status)
  -- an earlier result is returned
  | replayed
  -- an exception, before or after the adapter was reached
  | raised (reached : Bool)
deriving DecidableEq

namespace Phase

def reachedAdapter : Phase → Bool
  | executing _ => true
  | saving status | returned status => status ≠ .denied
  | raised reached => reached
  | _ => false

def passed : Phase → Bool
  | consuming => true
  | phase => phase.reachedAdapter

end Phase

structure State (Caller : Type*) where
  -- what the database knows about the token
  row : Option TokenRow
  records : List ExecutionRecord
  phase : Caller → Phase

inductive Label (Caller : Type*) where
  | advance (caller : Caller)
  -- the awaited call raises
  | fail (caller : Caller)

/-- `INSERT OR REPLACE INTO execution_records`: both unique keys make room. -/
def saveExecution (records : List ExecutionRecord) (record : ExecutionRecord) :
    List ExecutionRecord :=
  (records.filter fun other => other.executionId ≠ record.executionId ∧
    ¬ (other.workspaceId = record.workspaceId ∧
      other.idempotencyKey = record.idempotencyKey)) ++ [record]

variable {Caller : Type*} [DecidableEq Caller]

def State.move (s : State Caller) (i : Caller) (next : Phase) : State Caller :=
  { s with phase := Function.update s.phase i next }

namespace Presentation

variable (p : Presentation Caller)

def getApprovalToken (s : State Caller) (i : Caller) : Option TokenRow :=
  s.row.filter fun row => row.workspaceId = (p.call i).request.workspaceId

/-- The token as the call sees it, once the stored status is synced. -/
def synced (s : State Caller) (i : Caller) : ApprovalToken :=
  match p.getApprovalToken s i with
  | some row =>
    { (p.call i).token with consumed := (p.call i).token.consumed || row.consumed }
  | none => (p.call i).token

def record (i : Caller) : ExecutionRecord :=
  ⟨(p.call i).request.executionId, (p.call i).request.workspaceId,
    (p.call i).request.idempotencyKey⟩

/-- The next awaited call of `execute`. -/
def advance (s : State Caller) (i : Caller) : Option (State Caller) :=
  match s.phase i with
  | .started =>
    if s.records.any fun record =>
        record.workspaceId = (p.call i).request.workspaceId ∧
          record.idempotencyKey = (p.call i).request.idempotencyKey then
      some (s.move i .replayed)
    else if (p.call i).token.workspaceId ≠ (p.call i).request.workspaceId then
      some (s.move i (.saving .denied))
    else some (s.move i .reading)
  | .reading =>
    match p.verifier.verify (p.call i).request (p.synced s i) (p.call i).now with
    | .ok () => some (s.move i .consuming)
    | .error _ => some (s.move i (.saving .denied))
  | .consuming =>
    some ({ s with row := s.row.map TokenRow.consume }.move i (.executing .createBranch))
  | .executing .createBranch => some (s.move i (.executing .commitScopedChanges))
  | .executing .commitScopedChanges => some (s.move i (.executing .openPullRequest))
  | .executing .openPullRequest => some (s.move i (.executing .recordCiStatus))
  | .executing .recordCiStatus => some (s.move i (.saving .completed))
  | .saving status =>
    some ({ s with records := saveExecution s.records (p.record i) }.move i (.returned status))
  | .returned _ | .replayed | .raised _ => none

/-- The awaited call raises: only the adapter's exceptions are caught. -/
def fail (s : State Caller) (i : Caller) : Option (State Caller) :=
  match s.phase i with
  | .executing _ => some (s.move i (.saving .failed))
  | .returned _ | .replayed | .raised _ => none
  | phase => some (s.move i (.raised phase.reachedAdapter))

def machine : Machine (State Caller) (Label Caller) where
  step s
    | .advance i => p.advance s i
    | .fail i => fail s i

def start (row : Option TokenRow) (records : List ExecutionRecord) : State Caller :=
  ⟨row, records, fun _ => .started⟩

/-! ## Single use -/

def SingleUse (s : State Caller) : Prop :=
  ∀ i j, (s.phase i).reachedAdapter = true → (s.phase j).reachedAdapter = true → i = j

/-- When a call is about to accept the stored token, no other call has accepted it without
    having consumed it; and if the database does not know the token in the workspace of
    the request, no other call has accepted it at all. -/
def Exclusive (s : State Caller) : Label Caller → Prop
  | .advance i => s.phase i = .reading →
      p.verifier.verify (p.call i).request (p.synced s i) (p.call i).now = .ok () →
      (∀ j, s.phase j ≠ .consuming) ∧
        (p.getApprovalToken s i = none → ∀ j, (s.phase j).passed = false)
  | .fail _ => True

instance [Fintype Caller] (s : State Caller) :
    (label : Label Caller) → Decidable (p.Exclusive s label)
  | .advance _ => inferInstanceAs (Decidable (_ → _ → _ ∧ (_ → _)))
  | .fail _ => isTrue trivial

structure Invariant (s : State Caller) : Prop where
  unique : ∀ i j, (s.phase i).passed = true → (s.phase j).passed = true → i = j
  consumed : ∀ i, (s.phase i).reachedAdapter = true → ∀ row, s.row = some row →
    row.consumed = true

omit [DecidableEq Caller] in
theorem passed_of_reachedAdapter {phase : Phase} (reached : phase.reachedAdapter = true) :
    phase.passed = true := by
  cases phase <;> first | rfl | exact reached

omit [DecidableEq Caller] in
theorem consuming_or_reached {phase : Phase} (passed : phase.passed = true) :
    phase = .consuming ∨ phase.reachedAdapter = true := by
  cases phase <;> first | exact Or.inl rfl | exact Or.inr passed

variable {s s' : State Caller} {i : Caller}

theorem Invariant.move (invariant : Invariant s) {next : Phase}
    (records : List ExecutionRecord) (passed : next.passed = true → (s.phase i).passed = true)
    (reached : next.reachedAdapter = true → (s.phase i).reachedAdapter = true) :
    Invariant ({ s with records }.move i next) := by
  have passedBefore : ∀ j, (({ s with records }.move i next).phase j).passed = true →
      (s.phase j).passed = true := by
    intro j after
    by_cases other : j = i
    · subst other
      exact passed (by simpa [State.move] using after)
    · simpa [State.move, other] using after
  have reachedBefore : ∀ j, (({ s with records }.move i next).phase j).reachedAdapter = true →
      (s.phase j).reachedAdapter = true := by
    intro j after
    by_cases other : j = i
    · subst other
      exact reached (by simpa [State.move] using after)
    · simpa [State.move, other] using after
  exact ⟨fun j k first second => invariant.unique j k (passedBefore j first) (passedBefore k second),
    fun j after => invariant.consumed j (reachedBefore j after)⟩

theorem Invariant.consume (invariant : Invariant s) (consuming : s.phase i = .consuming) :
    Invariant ({ s with row := s.row.map TokenRow.consume }.move i (.executing .createBranch)) := by
  have passedBefore : ∀ j, (({ s with row := s.row.map TokenRow.consume }.move i
      (.executing .createBranch)).phase j).passed = true → (s.phase j).passed = true := by
    intro j after
    by_cases other : j = i
    · subst other
      rw [consuming]; rfl
    · simpa [State.move, other] using after
  refine ⟨fun j k first second =>
    invariant.unique j k (passedBefore j first) (passedBefore k second), fun j _ row found => ?_⟩
  obtain ⟨before, -, rfl⟩ := Option.map_eq_some_iff.mp found
  rfl

theorem Invariant.accept (invariant : Invariant s) (exclusive : p.Exclusive s (.advance i))
    (reading : s.phase i = .reading)
    (verified : p.verifier.verify (p.call i).request (p.synced s i) (p.call i).now = .ok ()) :
    Invariant (s.move i .consuming) := by
  obtain ⟨noneConsuming, unknown⟩ := exclusive reading verified
  have nonePassed : ∀ j, (s.phase j).passed = false := by
    intro j
    by_contra passed
    rw [Bool.not_eq_false] at passed
    -- a call that passed before has marked the token, and a marked token is not accepted
    have reached := (consuming_or_reached passed).resolve_left (noneConsuming j)
    cases known : p.getApprovalToken s i with
    | none => rw [unknown known j] at passed; cases passed
    | some row =>
      have unconsumed := p.verifier.not_consumed_of_verify verified
      have found := (Option.filter_eq_some_iff.mp known).1
      rw [synced, known] at unconsumed
      simp [invariant.consumed j reached row found] at unconsumed
  have onlyThis : ∀ j, ((s.move i .consuming).phase j).passed = true → j = i := by
    intro j passed
    by_contra other
    simp only [State.move, Function.update_of_ne other, nonePassed j, Bool.false_eq_true] at passed
  refine ⟨fun j k first second => (onlyThis j first).trans (onlyThis k second).symm,
    fun j reached => ?_⟩
  obtain rfl := onlyThis j (passed_of_reachedAdapter reached)
  simp [State.move, Phase.reachedAdapter] at reached

theorem Invariant.advance (invariant : Invariant s) (exclusive : p.Exclusive s (.advance i))
    (stepped : p.advance s i = some s') : Invariant s' := by
  simp only [Presentation.advance] at stepped
  cases at_ : s.phase i with
  | started =>
    rw [at_] at stepped
    simp only at stepped
    -- a replay or a refusal by the policy ends the call before it reads the token
    split_ifs at stepped <;> cases stepped <;> exact invariant.move s.records nofun nofun
  | reading =>
    rw [at_] at stepped
    simp only at stepped
    split at stepped
    -- the one step at which a second call could pass
    · next verified => cases stepped; exact invariant.accept p exclusive at_ verified
    · cases stepped; exact invariant.move s.records nofun nofun
  | consuming =>
    rw [at_] at stepped
    cases stepped
    exact invariant.consume at_
  | executing step =>
    rw [at_] at stepped
    cases step <;> cases stepped <;>
      exact invariant.move s.records (fun _ => by rw [at_]; rfl) (fun _ => by rw [at_]; rfl)
  | saving status =>
    rw [at_] at stepped
    cases stepped
    exact invariant.move _ (fun passed => by rw [at_]; exact passed)
      (fun reached => by rw [at_]; exact reached)
  | _ => rw [at_] at stepped; cases stepped

omit p in
theorem Invariant.fail (invariant : Invariant s)
    (stepped : Presentation.fail s i = some s') : Invariant s' := by
  simp only [Presentation.fail] at stepped
  cases at_ : s.phase i with
  | executing step =>
    rw [at_] at stepped
    cases stepped
    exact invariant.move s.records (fun _ => by rw [at_]; rfl) (fun _ => by rw [at_]; rfl)
  | returned | replayed | raised => rw [at_] at stepped; cases stepped
  | _ =>
    rw [at_] at stepped
    cases stepped
    exact invariant.move s.records
      (fun passed => by rw [at_]; exact passed_of_reachedAdapter passed)
      (fun reached => by rw [at_]; exact reached)

theorem Invariant.step (invariant : Invariant s) {label : Label Caller}
    (exclusive : p.Exclusive s label) (stepped : p.machine.step s label = some s') :
    Invariant s' := by
  cases label with
  | advance => exact invariant.advance p exclusive stepped
  | fail => exact invariant.fail stepped

/-- Single use: in every state of a run whose reads of the token are exclusive. -/
theorem approval_single_use (p : Presentation Caller) (row : Option TokenRow)
    (records : List ExecutionRecord) (schedule : List (Label Caller)) (s : State Caller)
    (exclusive : p.machine.Guarded p.Exclusive (start row records) schedule)
    (ran : p.machine.run (start row records) schedule = some s) : SingleUse s := by
  have preserves : p.machine.Preserves p.Exclusive Invariant :=
    fun _ _ _ invariant exclusive stepped => invariant.step p exclusive stepped
  have invariant := preserves.run p.machine
    ⟨fun _ _ passed => (by cases passed), fun _ reached => (by cases reached)⟩ exclusive ran
  exact fun i j first second => invariant.unique i j (passed_of_reachedAdapter first)
    (passed_of_reachedAdapter second)

end Presentation

/-! ## Two calls with one token -/

section TwoCalls

def optimization : ExecutionRequest where
  executionId := "exec-1"
  workspaceId := "default"
  agentId := "agent-1"
  taskId := "task-1"
  recommendationId := "rec-1"
  repo := "acme/app"
  baseBranch := "main"
  targetBranch := "burnlens/opt"
  scopedFiles := ["src/*.py"]
  changes := [("src/app.py", "print(1)\n")]
  idempotencyKey := "first"

def optimizationHash : Str := "3d132f5c46c861d2d02e7dff4c1c238628203520502dace351fe97059e8eb6bd"

def optimizationSignature : Str :=
  "f059ac5420478d9e146d3bcf943d17594bea426ac7ac2433a1347a223076c329"

def approval : ApprovalToken where
  tokenId := "appr-1"
  bindingHash := optimizationHash
  workspaceId := "default"
  approver := "alice"
  expiresAt := 1710590400000000
  signature := optimizationSignature
  consumed := false
  nonce := "n-1"

/-- The same approved change under two idempotency keys. -/
def twoCalls : Presentation Bool where
  verifier := ⟨fun _ => optimizationSignature, fun _ => "2024-03-16T12:00:00+00:00",
    fun _ _ => optimizationHash, fun _ => .ok ()⟩
  tokenId := "appr-1"
  call second :=
    { request := if second then
        { optimization with executionId := "exec-2", idempotencyKey := "second" }
        else optimization
      token := approval
      now := 1710504000000000 }
  presents _ := rfl

def bothReadFirst : List (Label Bool) :=
  [.advance false, .advance true, .advance false, .advance true, .advance false, .advance true]

theorem both_calls_reach_adapter :
    ∃ s, twoCalls.machine.run (Presentation.start (some ⟨"default", false⟩) []) bothReadFirst =
      some s ∧ ¬ Presentation.SingleUse s := by
  refine ⟨_, rfl, fun single => ?_⟩
  exact absurd (single false true rfl rfl) (by decide)

def oneReadsLater : List (Label Bool) :=
  [.advance false, .advance false, .advance false, .advance true, .advance true, .advance true]

theorem single_use_in_turn :
    ∃ s, twoCalls.machine.run (Presentation.start (some ⟨"default", false⟩) []) oneReadsLater =
      some s ∧ Presentation.SingleUse s :=
  ⟨_, rfl, twoCalls.approval_single_use (some ⟨"default", false⟩) [] oneReadsLater _
    (by decide) rfl⟩

end TwoCalls

end BurnLens.Execution
