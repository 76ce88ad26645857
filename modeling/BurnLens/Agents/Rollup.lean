import BurnLens.Agents.Economics
import BurnLens.Library.GroupBy
import Mathlib.Tactic.Linarith

/-! # Run rollups

A run with all the runs below it: the tree is what the parent links reach, cycles or not, with each run
once.  The rollup is the sum over the requests and the actions of the tree where no request is named for
two runs of it; such a request, whose column and tag differ, is summed for both.  The totals are rounded
one by one, so that they add up to within a few millionths.
-/

namespace BurnLens.Agents

open Library Relation

/-! ## The tree -/

section Tree

variable {runs : List AgentRun} {runId workspaceId id : Str} {row : TreeRow}

def ChildOf (runs : List AgentRun) (workspaceId parent child : Str) : Prop :=
  ∃ run ∈ runs, run.workspaceId = workspaceId ∧ run.runId = child ∧ run.parentRunId = some parent

/-- The runs that can be in a tree of the workspace. -/
def workspaceRows (runs : List AgentRun) (workspaceId : Str) : List TreeRow :=
  (runs.filter fun run => run.workspaceId = workspaceId).map AgentRun.treeRow

/-- `[r[0] for r in tree_rows]`. -/
def treeIds (runs : List AgentRun) (runId workspaceId : Str) : List Str :=
  (runTree runs runId workspaceId).map Prod.fst

theorem mem_workspaceRows : row ∈ workspaceRows runs workspaceId ↔
    ∃ run ∈ runs, run.workspaceId = workspaceId ∧ run.treeRow = row := by
  simp [workspaceRows, and_assoc]

theorem mem_runTree : row ∈ runTree runs runId workspaceId ↔
    ∃ root ∈ workspaceRows runs workspaceId, root.1 = runId ∧
      ReflTransGen (Leads (fun known row : TreeRow => row.2 = some known.1)
        (workspaceRows runs workspaceId)) root row := by
  refine mem_closure.trans (exists_congr fun root => ?_)
  simp only [List.mem_dedup, List.mem_filter, decide_eq_true_eq, and_assoc]
  rfl

theorem subset_workspaceRows : runTree runs runId workspaceId ⊆ workspaceRows runs workspaceId := by
  intro row member
  obtain ⟨root, stored, -, path⟩ := mem_runTree.mp member
  cases path with
  | refl => exact stored
  | tail _ leads => exact leads.1

/-- The tree of a run is all that descends from it. -/
theorem mem_treeIds {root : AgentRun} (stored : root ∈ runs) (its : root.runId = runId)
    (here : root.workspaceId = workspaceId) :
    id ∈ treeIds runs runId workspaceId ↔ ReflTransGen (ChildOf runs workspaceId) runId id := by
  constructor
  · intro member
    obtain ⟨row, inTree, rfl⟩ := List.mem_map.mp member
    obtain ⟨first, _, rfl, path⟩ := mem_runTree.mp inTree
    apply path.lift Prod.fst
    rintro parent child ⟨candidate, leads⟩
    obtain ⟨run, known, within, rfl⟩ := mem_workspaceRows.mp candidate
    exact ⟨run, known, within, rfl, of_decide_eq_true leads⟩
  · intro path
    induction path with
    | refl =>
      have first : root.treeRow ∈ runTree runs runId workspaceId :=
        mem_runTree.mpr ⟨_, mem_workspaceRows.mpr ⟨root, stored, here, rfl⟩, its, .refl⟩
      exact List.mem_map.mpr ⟨_, first, its⟩
    | tail _ child known =>
      obtain ⟨row, inTree, rfl⟩ := List.mem_map.mp known
      obtain ⟨first, among, named, path⟩ := mem_runTree.mp inTree
      obtain ⟨run, runStored, within, rfl, parent⟩ := child
      have next : run.treeRow ∈ runTree runs runId workspaceId :=
        mem_runTree.mpr ⟨first, among, named, path.tail
          ⟨mem_workspaceRows.mpr ⟨run, runStored, within, rfl⟩, decide_eq_true parent⟩⟩
      exact List.mem_map.mpr ⟨_, next, rfl⟩

/-- No run is in the tree twice: `run_id` is the primary key. -/
theorem nodup_treeIds (distinct : (runs.map AgentRun.runId).Nodup) :
    (treeIds runs runId workspaceId).Nodup := by
  have once : (runTree runs runId workspaceId).Nodup := nodup_closure (List.nodup_dedup _)
  apply once.map_on
  intro row member other member' same
  obtain ⟨run, stored, -, rfl⟩ := mem_workspaceRows.mp (subset_workspaceRows member)
  obtain ⟨run', stored', -, rfl⟩ := mem_workspaceRows.mp (subset_workspaceRows member')
  rw [List.inj_on_of_nodup_map distinct stored stored' same]

end Tree

/-! ## Its spend -/

section Spend

variable {ledger : Ledger} {ids : List Str} {runId workspaceId : Str}

/-- The requests that belong to a run of the tree. -/
def requestsOfTree (ledger : Ledger) (workspaceId : Str) (ids : List Str) : List LedgerRow :=
  ledger.requests.filter fun row =>
    (ids.any fun id => row.names LedgerRow.runId "run_id" id) && row.inWorkspace workspaceId

def actionsOfTree (ledger : Ledger) (workspaceId : Str) (ids : List Str) : List AgentAction :=
  ledger.actions.filter fun action =>
    (ids.any fun id => decide (action.runId = id)) && action.workspaceId = workspaceId

/-- The column and the tag of a request do not name two runs of the tree. -/
def NamedOnce (ledger : Ledger) (workspaceId : Str) (ids : List Str) : Prop :=
  ∀ row ∈ ledger.requests, row.inWorkspace workspaceId = true → ∀ a ∈ ids, ∀ b ∈ ids,
    row.names LedgerRow.runId "run_id" a = true → row.names LedgerRow.runId "run_id" b = true → a = b

instance : Decidable (NamedOnce ledger workspaceId ids) :=
  inferInstanceAs (Decidable (∀ row ∈ ledger.requests, _ → ∀ a ∈ ids, ∀ b ∈ ids, _ → _ → a = b))

theorem sum_requests (distinct : ids.Nodup) (once : NamedOnce ledger workspaceId ids) :
    (ids.map fun id => total LedgerRow.costUsd (requestsOfRun ledger workspaceId id)).sum =
      total LedgerRow.costUsd (requestsOfTree ledger workspaceId ids) := by
  refine (sum_map_sumWhere_of_apart distinct ?_ LedgerRow.costUsd).trans (sumWhere_congr ?_ _)
  · intro row stored a first b second names other
    obtain ⟨names, here⟩ := Bool.and_eq_true_iff.mp names
    exact once row stored here a first b second names (Bool.and_eq_true_iff.mp other).1
  · intro row _
    cases row.inWorkspace workspaceId <;> simp

theorem sum_actions (distinct : ids.Nodup) :
    (ids.map fun id => total AgentAction.costUsd (actionsOfRun ledger workspaceId id)).sum =
      total AgentAction.costUsd (actionsOfTree ledger workspaceId ids) := by
  refine (sum_map_sumWhere_of_apart distinct ?_ AgentAction.costUsd).trans (sumWhere_congr ?_ _)
  · intro action _ a _ b _ names other
    exact (of_decide_eq_true (Bool.and_eq_true_iff.mp names).1).symm.trans
      (of_decide_eq_true (Bool.and_eq_true_iff.mp other).1)
  · intro action _
    by_cases here : action.workspaceId = workspaceId <;> simp [here]

/-- The runs of the tree are the run that is asked for and the others. -/
theorem sum_tree (distinct : ids.Nodup) (member : runId ∈ ids) (amount : Str → ℚ) :
    amount runId + total amount (ids.filter fun child => child ≠ runId) = total amount ids := by
  have others : ids.erase runId = ids.filter fun child => child ≠ runId := by
    rw [distinct.erase_eq_filter]
    apply List.filter_congr
    intro child _
    rw [bne_eq, decide_not, beq_eq_decide]
  rw [← others]
  exact ((List.perm_cons_erase member).map amount).sum_eq.symm

theorem abs_rollup_sub_le (direct children : ℚ) :
    |roundTo 6 (direct + children) - (roundTo 6 direct + roundTo 6 children)| ≤ 3 / 2 / 10 ^ 6 := by
  have whole := abs_le.mp (abs_roundTo_sub_le 6 (direct + children))
  have part := abs_le.mp (abs_roundTo_sub_le 6 direct)
  have rest := abs_le.mp (abs_roundTo_sub_le 6 children)
  apply abs_le.mpr
  constructor <;> linarith

end Spend

/-! ## The rollup -/

/-- What is told of a run with the runs below it. -/
structure RollsUp (ledger : Ledger) (root : AgentRun) (e : RunEconomics) : Prop where
  once : (treeIds ledger.runs root.runId root.workspaceId).Nodup
  tree : ∀ id, id ∈ treeIds ledger.runs root.runId root.workspaceId ↔
    ReflTransGen (ChildOf ledger.runs root.workspaceId) root.runId id
  children : e.childrenBreakdown =
    ((treeIds ledger.runs root.runId root.workspaceId).filter fun id => id ≠ root.runId).map
      fun id => (id, runSpend ledger root.workspaceId id)
  close : |e.totalRollupSpendUsd - (e.directSpendUsd + e.childrenSpendUsd)| ≤ 3 / 2 / 10 ^ 6
  total : NamedOnce ledger root.workspaceId (treeIds ledger.runs root.runId root.workspaceId) →
    e.totalRollupSpendUsd = roundTo 6
      (total LedgerRow.costUsd (requestsOfTree ledger root.workspaceId
        (treeIds ledger.runs root.runId root.workspaceId)) +
      total AgentAction.costUsd (actionsOfTree ledger root.workspaceId
        (treeIds ledger.runs root.runId root.workspaceId)))

theorem runEconomics_rollsUp {ledger : Ledger} (distinct : (ledger.runs.map AgentRun.runId).Nodup)
    {root : AgentRun} (stored : root ∈ ledger.runs) :
    RollsUp ledger root (runEconomics ledger root.runId root.workspaceId) where
  once := nodup_treeIds distinct
  tree _ := mem_treeIds stored rfl rfl
  children := rfl
  close := abs_rollup_sub_le _ _
  total named := by
    have once : (treeIds ledger.runs root.runId root.workspaceId).Nodup := nodup_treeIds distinct
    have first : root.runId ∈ treeIds ledger.runs root.runId root.workspaceId :=
      (mem_treeIds stored rfl rfl).mpr .refl
    rw [← sum_requests once named, ← sum_actions once, ← List.sum_map_add]
    exact congrArg (roundTo 6) (sum_tree once first (runTotal ledger root.workspaceId))

/-- A rollup counts once every request and action of the tree that its parent links make, and a run
that is not stored has none. -/
theorem run_rolls_up (ledger : Ledger) (distinct : (ledger.runs.map AgentRun.runId).Nodup)
    (runId : Str) (workspaceId : Option Str) :
    (rootRun ledger.runs runId workspaceId = none ∧
      getRunEconomics ledger runId workspaceId = { runId }) ∨
    ∃ root, rootRun ledger.runs runId workspaceId = some root ∧ root.runId = runId ∧
      RollsUp ledger root (getRunEconomics ledger runId workspaceId) := by
  cases found : rootRun ledger.runs runId workspaceId with
  | none =>
    left
    rw [getRunEconomics, found]
    exact ⟨rfl, rfl⟩
  | some root =>
    have named := List.find?_some found
    simp only [Bool.and_eq_true, decide_eq_true_eq] at named
    refine Or.inr ⟨root, rfl, named.1, ?_⟩
    rw [getRunEconomics, found, ← named.1]
    exact runEconomics_rollsUp distinct (List.mem_of_find?_eq_some found)

def pairRuns : List AgentRun :=
  [{ runId := "a", agentId := "agent", parentRunId := some "b" },
   { runId := "b", agentId := "agent", parentRunId := some "a" }]

def spentBy (runId : Str) (costUsd : ℚ) (tags : List (Str × Str)) : LedgerRow where
  costUsd := costUsd
  runId := some runId
  workspaceId := some "default"
  tags := tags

def pairLedger : Ledger where
  runs := pairRuns
  requests := [spentBy "a" 3 [], spentBy "b" 7 [("run_id", "elsewhere")]]

theorem pair_rolls_up : (getRunEconomics pairLedger "a" none).totalRollupSpendUsd = 10 := by
  obtain ⟨missing, -⟩ | ⟨root, found, -, rolls⟩ := run_rolls_up pairLedger (by decide) "a" none
  · exact absurd missing (by decide +kernel)
  · obtain rfl : _ = root := Option.some.inj found
    rw [rolls.total (by decide +kernel)]
    decide +kernel

/-- Of a run with a child the request of the child names both, in the column and in the tag; of
another, each spent four tenths of a millionth. -/
def bothLedger : Ledger where
  runs := pairRuns
  requests := [spentBy "b" 5 [("run_id", "a")]]

def smallLedger : Ledger where
  runs := pairRuns
  requests := [spentBy "a" (4 / 10 ^ 7) [], spentBy "b" (4 / 10 ^ 7) []]

theorem rollup_off :
    (getRunEconomics bothLedger "a" none).totalRollupSpendUsd ≠
      roundTo 6 (total LedgerRow.costUsd (requestsOfTree bothLedger "default" ["a", "b"])) ∧
    (getRunEconomics smallLedger "a" none).totalRollupSpendUsd ≠
      (getRunEconomics smallLedger "a" none).directSpendUsd +
        (getRunEconomics smallLedger "a" none).childrenSpendUsd := by
  constructor <;> decide +kernel

end BurnLens.Agents
