import BurnLens.Library.Machine
import BurnLens.Budget.Policy
import Mathlib.Algebra.BigOperators.Ring.Finset
import Mathlib.Data.Fintype.BigOperators
import Mathlib.Tactic.Linarith

/-! # Concurrent reservations

`BudgetEngine.check_and_reserve` as the steps that other requests can run between: one step
for every awaited database statement.  The engine's connection runs a `SELECT` outside any
transaction; the first `INSERT` or `UPDATE` opens one, and SQLite lets one connection write
at a time.  `self._lock` serialises the requests that share an engine object, and
`handle_request` builds an engine for every request.
-/

namespace BurnLens.Budget

open Library

/-- A request whose estimated cost is positive: the others return before the lock. -/
structure Call where
  model : Str
  context : RequestContext
  now : Time
  estimatedCost : Usd
  positive : 0 < estimatedCost

/-- The concurrent requests of one process, and the engine object that each of them uses. -/
structure Workload (Request Engine : Type*) where
  policies : List BudgetPolicy
  call : Request → Call
  engine : Request → Engine

structure Row where
  currentSpend : Usd
  -- what the row was created with; no statement reads it or changes it
  initialSpend : Usd
deriving DecidableEq

abbrev Counters := CounterKey → Option Row

def insertOrIgnore (counters : Counters) (key : CounterKey) (initial : Usd) : Counters :=
  match counters key with
  | some _ => counters
  | none => Function.update counters key (some ⟨initial, initial⟩)

def addSpend (counters : Counters) (key : CounterKey) (amount : Usd) : Counters :=
  Function.update counters key
    ((counters key).map fun row => { row with currentSpend := row.currentSpend + amount })

inductive CheckOutcome where
  | allowed
  | violated (policy : BudgetPolicy)
  | raised
deriving DecidableEq

/-- How far a request is in `check_and_reserve`.  `checked` holds the policies that passed,
    each with the spend that was compared with its limit. -/
inductive Progress where
  | waiting
  | checking (checked : List (PolicyPeriod × Usd)) (rest : List PolicyPeriod)
  | seeding (checked : List (PolicyPeriod × Usd)) (entry : PolicyPeriod)
      (rest : List PolicyPeriod)
  | inserting (checked : List (PolicyPeriod × Usd)) (entry : PolicyPeriod)
      (rest : List PolicyPeriod) (initial : Usd)
  | reserving (rest : List PolicyPeriod)
  | leaving (outcome : CheckOutcome)
  | finished (outcome : CheckOutcome)

namespace Progress

def admitted : Progress → Bool
  | leaving .allowed => true
  | finished .allowed => true
  | _ => false

def checked : Progress → List (PolicyPeriod × Usd)
  | checking checked _ => checked
  | seeding checked _ _ => checked
  | inserting checked _ _ _ => checked
  | _ => []

/-- The checks that the first `UPDATE` is about to rely on. -/
def reliesOn : Progress → List (PolicyPeriod × Usd)
  | checking checked [] => checked
  | _ => []

end Progress

/-- The open write transaction and the table as it sees it. -/
structure Transaction (Request : Type*) where
  owner : Request
  view : Counters

structure State (Request Engine : Type*) where
  committed : Counters
  txn : Option (Transaction Request)
  lock : Engine → Option Request
  -- what `_calculate_initial_spend` reads from the requests table
  recorded : BudgetPolicy → Time → Usd
  progress : Request → Progress

inductive Label (Request : Type*) where
  | advance (request : Request)
  -- the statement raises: the database is locked, or the task is cancelled
  | fail (request : Request)
  -- the query of the recorded spend fails, which is read as 0
  | unreadable (request : Request)
  -- the requests table changes
  | record (recorded : BudgetPolicy → Time → Usd)

variable {Request Engine : Type*} [DecidableEq Request] [DecidableEq Engine]

namespace State

variable (s : State Request Engine) (i : Request)

def view : Counters :=
  match s.txn with
  | some txn => if txn.owner = i then txn.view else s.committed
  | none => s.committed

def mayWrite : Bool :=
  match s.txn with
  | some txn => txn.owner = i
  | none => true

def move (next : Progress) : State Request Engine :=
  { s with progress := Function.update s.progress i next }

def write (view : Counters) : State Request Engine :=
  { s with txn := some ⟨i, view⟩ }

def commit : State Request Engine :=
  { s with committed := s.view i, txn := s.txn.filter fun txn => txn.owner ≠ i }

/-- Leaves `async with self._lock, aiosqlite.connect(..)`: what is not committed is rolled
    back, and the lock is released. -/
def close (engine : Engine) : State Request Engine :=
  { s with
    txn := s.txn.filter fun txn => txn.owner ≠ i
    lock := if s.lock engine = some i then Function.update s.lock engine none else s.lock }

def fail : Option (State Request Engine) :=
  match s.progress i with
  | .waiting => some (s.move i (.finished .raised))
  | .leaving _ => none
  | .finished _ => none
  | _ => some (s.move i (.leaving .raised))

end State

namespace Workload

variable (w : Workload Request Engine)

def estimatedCost (i : Request) : Usd := (w.call i).estimatedCost

def matching (i : Request) : List PolicyPeriod :=
  matchingPolicies w.policies (w.call i).model (w.call i).context (w.call i).now

/-- `if current_spend + estimated_cost > policy.limit_usd`. -/
def compare (i : Request) (checked : List (PolicyPeriod × Usd)) (entry : PolicyPeriod)
    (rest : List PolicyPeriod) (currentSpend : Usd) : Progress :=
  if currentSpend + w.estimatedCost i > entry.1.limitUsd then .leaving (.violated entry.1)
  else .checking (checked ++ [(entry, currentSpend)]) rest

def reserve (s : State Request Engine) (i : Request) (entry : PolicyPeriod)
    (rest : List PolicyPeriod) : Option (State Request Engine) :=
  if s.mayWrite i then
    some ((s.write i (addSpend (s.view i) (counterKey entry) (w.estimatedCost i))).move i
      (.reserving rest))
  else none

/-- The next awaited step of `check_and_reserve`; `none` when the request has to wait. -/
def advance (s : State Request Engine) (i : Request) : Option (State Request Engine) :=
  match s.progress i with
  | .waiting =>
    if w.matching i = [] then some (s.move i (.finished .allowed))
    else if s.lock (w.engine i) = none then
      some ({ s with lock := Function.update s.lock (w.engine i) (some i) }.move i
        (.checking [] (w.matching i)))
    else none
  | .checking checked (entry :: rest) =>
    match s.view i (counterKey entry) with
    | some row => some (s.move i (w.compare i checked entry rest row.currentSpend))
    | none => some (s.move i (.seeding checked entry rest))
  | .seeding checked entry rest =>
    some (s.move i (.inserting checked entry rest (s.recorded entry.1 entry.2)))
  | .inserting checked entry rest initial =>
    if s.mayWrite i then
      some ((s.write i (insertOrIgnore (s.view i) (counterKey entry) initial)).move i
        (w.compare i checked entry rest initial))
    else none
  | .checking _ [] =>
    match w.matching i with
    | entry :: rest => w.reserve s i entry rest
    | [] => none
  | .reserving (entry :: rest) => w.reserve s i entry rest
  | .reserving [] => some ((s.commit i).move i (.leaving .allowed))
  | .leaving outcome => some ((s.close i (w.engine i)).move i (.finished outcome))
  | .finished _ => none

def machine : Machine (State Request Engine) (Label Request) where
  step s
    | .advance i => w.advance s i
    | .fail i => s.fail i
    | .unreadable i =>
      match s.progress i with
      | .seeding checked entry rest => some (s.move i (.inserting checked entry rest 0))
      | _ => none
    | .record recorded => some { s with recorded }

def start (rows : CounterKey → Option Usd) (recorded : BudgetPolicy → Time → Usd) :
    State Request Engine where
  committed key := (rows key).map fun spend => ⟨spend, spend⟩
  txn := none
  lock _ := none
  recorded := recorded
  progress _ := .waiting

def share (i : Request) (progress : Progress) (entry : PolicyPeriod) : Usd :=
  if progress.admitted && decide (entry ∈ w.matching i) then w.estimatedCost i else 0

variable [Fintype Request]

def charged (s : State Request Engine) (entry : PolicyPeriod) : Usd :=
  ∑ i, w.share i (s.progress i) entry

/-- Every counter that started within a policy's limit has admitted no more than the limit
    leaves room for. -/
def ReservationSafe (s : State Request Engine) : Prop :=
  ∀ entry row, s.committed (counterKey entry) = some row →
    row.initialSpend ≤ entry.1.limitUsd →
    row.initialSpend + w.charged s entry ≤ entry.1.limitUsd

end Workload

end BurnLens.Budget
