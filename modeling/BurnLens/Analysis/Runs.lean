import BurnLens.Cost.Calculator
import Mathlib.Algebra.BigOperators.Group.List.Basic
import Mathlib.Data.Char
import Mathlib.Data.List.Dedup
import Mathlib.Data.List.Lex
import Mathlib.Data.List.Sort

/-! # Runs and their steps

`list_runs` and `get_run` group the requests by session, or else by trace.  The totals and the steps
come from queries of their own, which share the expressions of a row; the three parts of a prompt add
up in every row but one that reads more from the cache than its prompt holds.
-/

namespace BurnLens.Analysis

open Library Providers Cost

/-! ## The expressions of a row -/

def inclusivePromptTokenProviders : List Str :=
  ((allProviders.filter fun p => p.config.promptTokensIncludeCache).map Provider.name).insertionSort
    (· ≤ ·)

/-- The columns of a request that the queries read; its tags are those that the client sent. -/
structure RunRow where
  timestamp : Str
  provider : Str
  model : Str
  inputTokens : Nat
  outputTokens : Nat
  cacheReadTokens : Nat
  cacheWriteTokens : Nat
  costUsd : ℚ
  durationMs : Int := 0
  statusCode : Int := 200
  tags : List (Str × Str) := []
  source : Option Str := none
  repo : Option Str := none
  traceId : Option Str := none
  parentSpanId : Option Str := none

namespace RunRow

variable (row : RunRow)

/-- `json_extract(tags, '$.name')`. -/
def tag (name : Str) : Option Str := row.tags.lookup name

def sessionTag : Option Str := row.tag "session"

def runKey : Option Str := row.sessionTag.or row.traceId

/-- `provider IN (...)` of the registered providers whose prompt has the cached tokens in it. -/
def inclusive : Bool := inclusivePromptTokenProviders.contains row.provider

/-- `_prompt_tokens_sql`. -/
def promptTokens : Nat :=
  (if row.inclusive then row.inputTokens else row.inputTokens + row.cacheReadTokens) +
    row.cacheWriteTokens

/-- `cache_read_tokens + cache_write_tokens`. -/
def cachedTokens : Nat := row.cacheReadTokens + row.cacheWriteTokens

/-- `_uncached_input_sql`; the subtraction stops at 0. -/
def uncachedInput : Nat :=
  if row.inclusive then row.inputTokens - row.cacheReadTokens else row.inputTokens

end RunRow

/-! ## Queries -/

structure Run where
  runId : Str
  stepCount : Nat
  costUsd : ℚ
  promptTokens : Nat
  cachedTokens : Nat
  inputTokens : Nat
  outputTokens : Nat
  startedAt : Option Str
  endedAt : Option Str
  models : List Str
  source : Option Str
  repo : Option Str
  keyKind : Str
deriving DecidableEq

structure Step where
  timestamp : Str
  model : Str
  promptTokens : Nat
  cachedTokens : Nat
  inputTokens : Nat
  outputTokens : Nat
  costUsd : ℚ
  durationMs : Int
  statusCode : Int
  parentSpanId : Option Str
deriving DecidableEq

/-- `MAX` of a column of texts. -/
def latest (values : List Str) : Option Str :=
  values.foldr (fun value found => some (found.elim value fun other => if other < value then value else other)) none

/-- `MIN` of a column of texts. -/
def earliest (values : List Str) : Option Str :=
  values.foldr (fun value found => some (found.elim value fun other => if value < other then value else other)) none

/-- `WHERE timestamp >= ? AND run_key IS NOT NULL`. -/
def runRows (ledger : List RunRow) (since : Str) : List RunRow :=
  ledger.filter fun row => !decide (row.timestamp < since) && row.runKey.isSome

def rowsOfRun (ledger : List RunRow) (since runId : Str) : List RunRow :=
  (runRows ledger since).filter fun row => row.runKey = some runId

/-- `_run_select` of one group, through `_row_to_run`. -/
def runOf (runId : Str) (rows : List RunRow) : Run where
  runId := runId
  stepCount := rows.length
  costUsd := (rows.map RunRow.costUsd).sum
  promptTokens := (rows.map RunRow.promptTokens).sum
  cachedTokens := (rows.map RunRow.cachedTokens).sum
  inputTokens := (rows.map RunRow.uncachedInput).sum
  outputTokens := (rows.map RunRow.outputTokens).sum
  startedAt := earliest (rows.map RunRow.timestamp)
  endedAt := latest (rows.map RunRow.timestamp)
  -- `GROUP_CONCAT` joins the models with commas, and the names are read back
  models := ((((rows.map RunRow.model).dedup.flatMap fun model => model.splitOn ',').filter
    fun model => !model.isEmpty)).insertionSort (· ≤ ·)
  source := latest (rows.filterMap RunRow.source)
  repo := latest (rows.filterMap fun row => row.repo.or (row.tag "repo"))
  keyKind := if rows.any fun row => row.sessionTag.isSome then "session" else "trace"

def allRuns (ledger : List RunRow) (since : Str) : List Run :=
  ((runRows ledger since).filterMap RunRow.runKey).dedup.map fun runId =>
    runOf runId (rowsOfRun ledger since runId)

/-- `list_runs`; a negative limit is none. -/
def listRuns (ledger : List RunRow) (since : Str) (limit : Int) (order : Str) : List Run :=
  let sorted :=
    if order = "recent" then
      (allRuns ledger since).mergeSort fun a b => !decide (a.endedAt.getD [] < b.endedAt.getD [])
    else (allRuns ledger since).mergeSort fun a b => b.costUsd ≤ a.costUsd
  if limit < 0 then sorted else sorted.take limit.toNat

def RunRow.step (row : RunRow) : Step where
  timestamp := row.timestamp
  model := row.model
  promptTokens := row.promptTokens
  cachedTokens := row.cachedTokens
  inputTokens := row.uncachedInput
  outputTokens := row.outputTokens
  costUsd := row.costUsd
  durationMs := row.durationMs
  statusCode := row.statusCode
  parentSpanId := row.parentSpanId

/-- The rows of the second query of `get_run`, in the order of time. -/
def stepRows (ledger : List RunRow) (since runId : Str) : List RunRow :=
  (ledger.filter fun row => !decide (row.timestamp < since) && row.runKey = some runId).mergeSort
    fun a b => !decide (b.timestamp < a.timestamp)

def getRun (ledger : List RunRow) (runId since : Str) : Option (Run × List Step) :=
  let rows := rowsOfRun ledger since runId
  if rows = [] then none
  else some (runOf runId rows, (stepRows ledger since runId).map RunRow.step)

/-! ## Totals -/

structure Run.Totals (run : Run) (steps : List Step) : Prop where
  stepCount : run.stepCount = steps.length
  costUsd : run.costUsd = (steps.map Step.costUsd).sum
  promptTokens : run.promptTokens = (steps.map Step.promptTokens).sum
  cachedTokens : run.cachedTokens = (steps.map Step.cachedTokens).sum
  inputTokens : run.inputTokens = (steps.map Step.inputTokens).sum
  outputTokens : run.outputTokens = (steps.map Step.outputTokens).sum

/-- The runs of a window add up, the prompt to its parts, and every request that has a key is in one
of them. -/
structure RunsAddUp (ledger : List RunRow) (since : Str) : Prop where
  listed : ∀ limit order, ∀ run ∈ listRuns ledger since limit order,
    ∃ steps, getRun ledger run.runId since = some (run, steps)
  totals : ∀ runId run steps, getRun ledger runId since = some (run, steps) → run.Totals steps
  prompt : ∀ runId run steps, getRun ledger runId since = some (run, steps) →
    run.promptTokens = run.inputTokens + run.cachedTokens ∧
      ∀ step ∈ steps, step.promptTokens = step.inputTokens + step.cachedTokens
  one : ∀ row ∈ ledger, ¬ row.timestamp < since → row.runKey.isSome = true →
    ∃! runId, runId ∈ (allRuns ledger since).map Run.runId ∧ row ∈ stepRows ledger since runId
  distinct : ((allRuns ledger since).map Run.runId).Nodup

section Totals

variable {ledger : List RunRow} {since runId : Str} {run : Run} {steps : List Step}

theorem stepRows_perm : (stepRows ledger since runId).Perm (rowsOfRun ledger since runId) := by
  have same : (ledger.filter fun row => !decide (row.timestamp < since) && row.runKey = some runId) =
      rowsOfRun ledger since runId := by
    rw [rowsOfRun, runRows, List.filter_filter]
    apply List.filter_congr
    intro row _
    cases row.runKey <;> simp [Bool.and_comm]
  rw [stepRows, same]
  exact List.mergeSort_perm _ _

theorem totals_of_perm {rows steps : List RunRow} (perm : steps.Perm rows) :
    (runOf runId rows).Totals (steps.map RunRow.step) where
  stepCount := by rw [List.length_map, perm.length_eq]; rfl
  costUsd := by rw [List.map_map]; exact ((perm.map _).sum_eq).symm
  promptTokens := by rw [List.map_map]; exact ((perm.map _).sum_eq).symm
  cachedTokens := by rw [List.map_map]; exact ((perm.map _).sum_eq).symm
  inputTokens := by rw [List.map_map]; exact ((perm.map _).sum_eq).symm
  outputTokens := by rw [List.map_map]; exact ((perm.map _).sum_eq).symm

theorem getRun_cases (got : getRun ledger runId since = some (run, steps)) :
    run = runOf runId (rowsOfRun ledger since runId) ∧
      steps = (stepRows ledger since runId).map RunRow.step := by
  simp only [getRun] at got
  split at got
  · cases got
  · cases got
    exact ⟨rfl, rfl⟩

theorem mem_rowsOfRun {row : RunRow} : row ∈ rowsOfRun ledger since runId ↔
    row ∈ ledger ∧ ¬ row.timestamp < since ∧ row.runKey = some runId := by
  simp only [rowsOfRun, runRows, List.mem_filter, Bool.and_eq_true, Bool.not_eq_true',
    decide_eq_false_iff_not, decide_eq_true_eq]
  constructor
  · rintro ⟨⟨member, inside, _⟩, key⟩
    exact ⟨member, inside, key⟩
  · rintro ⟨member, inside, key⟩
    exact ⟨⟨member, inside, by rw [key]; rfl⟩, key⟩

theorem getRun_of_mem {row : RunRow} (member : row ∈ rowsOfRun ledger since runId) :
    getRun ledger runId since = some (runOf runId (rowsOfRun ledger since runId),
      (stepRows ledger since runId).map RunRow.step) := by
  rw [getRun]
  exact if_neg (List.ne_nil_of_mem member)

theorem mem_runIds : runId ∈ (allRuns ledger since).map Run.runId ↔
    ∃ row, row ∈ rowsOfRun ledger since runId := by
  have ids : (allRuns ledger since).map Run.runId = ((runRows ledger since).filterMap RunRow.runKey).dedup := by
    rw [allRuns, List.map_map]
    exact List.map_id _
  rw [ids, List.mem_dedup, List.mem_filterMap]
  apply exists_congr
  intro row
  rw [rowsOfRun, List.mem_filter, decide_eq_true_eq]

theorem nodup_runIds : ((allRuns ledger since).map Run.runId).Nodup := by
  rw [allRuns, List.map_map]
  exact (List.map_id _).symm ▸ List.nodup_dedup _

theorem mem_listRuns {limit : Int} {order : Str} (member : run ∈ listRuns ledger since limit order) :
    run ∈ allRuns ledger since := by
  have sorted : run ∈ (if order = "recent" then
      (allRuns ledger since).mergeSort fun a b => !decide (a.endedAt.getD [] < b.endedAt.getD [])
    else (allRuns ledger since).mergeSort fun a b => b.costUsd ≤ a.costUsd) := by
    simp only [listRuns] at member
    split at member
    · exact member
    · exact List.mem_of_mem_take member
  split at sorted
  · exact List.mem_mergeSort.mp sorted
  · exact List.mem_mergeSort.mp sorted

theorem listed {limit : Int} {order : Str} (member : run ∈ listRuns ledger since limit order) :
    ∃ steps, getRun ledger run.runId since = some (run, steps) := by
  have grouped := mem_listRuns member
  obtain ⟨runId, _, rfl⟩ := List.mem_map.mp grouped
  obtain ⟨row, its⟩ := mem_runIds.mp (List.mem_map_of_mem grouped)
  exact ⟨_, getRun_of_mem its⟩

theorem RunRow.prompt_eq_iff (row : RunRow) : row.promptTokens = row.uncachedInput + row.cachedTokens ↔
    (row.inclusive = true → row.cacheReadTokens ≤ row.inputTokens) := by
  rw [promptTokens, uncachedInput, cachedTokens]
  cases row.inclusive with
  | true =>
    simp only [if_true, true_implies]
    omega
  | false =>
    simp only [Bool.false_eq_true, if_false, false_implies, iff_true]
    omega

theorem prompt_sum {rows : List RunRow}
    (adds : ∀ row ∈ rows, row.promptTokens = row.uncachedInput + row.cachedTokens) :
    (runOf runId rows).promptTokens = (runOf runId rows).inputTokens + (runOf runId rows).cachedTokens := by
  show (rows.map RunRow.promptTokens).sum =
    (rows.map RunRow.uncachedInput).sum + (rows.map RunRow.cachedTokens).sum
  induction rows with
  | nil => rfl
  | cons row rows inductionHypothesis =>
    have here := adds row List.mem_cons_self
    have there := inductionHypothesis fun row member => adds row (List.mem_cons_of_mem _ member)
    simp only [List.map_cons, List.sum_cons]
    omega

theorem one_run {row : RunRow} (member : row ∈ ledger) (inside : ¬ row.timestamp < since)
    (keyed : row.runKey.isSome = true) :
    ∃! runId, runId ∈ (allRuns ledger since).map Run.runId ∧ row ∈ stepRows ledger since runId := by
  obtain ⟨runId, key⟩ := Option.isSome_iff_exists.mp keyed
  have its : row ∈ rowsOfRun ledger since runId := mem_rowsOfRun.mpr ⟨member, inside, key⟩
  refine ⟨runId, ⟨mem_runIds.mpr ⟨row, its⟩, stepRows_perm.mem_iff.mpr its⟩, ?_⟩
  rintro other ⟨-, step⟩
  obtain ⟨-, -, otherKey⟩ := mem_rowsOfRun.mp (stepRows_perm.mem_iff.mp step)
  exact Option.some.inj (otherKey.symm.trans key)

end Totals

/-- The runs add up exactly where no request of them reads more from the cache than its prompt
holds. -/
theorem runs_add_up_iff (ledger : List RunRow) (since : Str) : RunsAddUp ledger since ↔
    ∀ row ∈ runRows ledger since, row.inclusive = true → row.cacheReadTokens ≤ row.inputTokens := by
  constructor
  · intro adds row member
    obtain ⟨stored, selected⟩ := List.mem_filter.mp member
    obtain ⟨inside, keyed⟩ := Bool.and_eq_true_iff.mp selected
    obtain ⟨runId, key⟩ := Option.isSome_iff_exists.mp keyed
    have its : row ∈ rowsOfRun ledger since runId := List.mem_filter.mpr ⟨member, decide_eq_true key⟩
    have parts := (adds.prompt _ _ _ (getRun_of_mem its)).2 row.step
      (List.mem_map_of_mem (stepRows_perm.mem_iff.mpr its))
    exact row.prompt_eq_iff.mp parts
  · intro within
    have parts : ∀ runId, ∀ row ∈ rowsOfRun ledger since runId,
        row.promptTokens = row.uncachedInput + row.cachedTokens := fun runId row member =>
      row.prompt_eq_iff.mpr (within row (List.mem_of_mem_filter member))
    constructor
    · exact fun limit order run member => listed member
    · intro runId run steps got
      obtain ⟨rfl, rfl⟩ := getRun_cases got
      exact totals_of_perm stepRows_perm
    · intro runId run steps got
      obtain ⟨rfl, rfl⟩ := getRun_cases got
      refine ⟨prompt_sum (parts runId), ?_⟩
      intro step member
      obtain ⟨row, its, rfl⟩ := List.mem_map.mp member
      exact parts runId row (stepRows_perm.mem_iff.mp its)
    · exact fun row member inside keyed => one_run member inside keyed
    · exact nodup_runIds

def smallPrompt : RunRow where
  timestamp := "2026-03-01T00:30:00+00:00"
  provider := "openai"
  model := "gpt-4o"
  inputTokens := 5
  outputTokens := 1
  cacheReadTokens := 8
  cacheWriteTokens := 0
  costUsd := 1
  traceId := some ['t']

/-- A prompt of 5 tokens, of which 8 were cached. -/
theorem prompt_below_cached : ¬ ∀ (ledger : List RunRow) (since : Str), RunsAddUp ledger since := by
  intro always
  have its : smallPrompt ∈ rowsOfRun [smallPrompt] [] ['t'] :=
    mem_rowsOfRun.mpr ⟨List.mem_cons_self, by decide, by decide⟩
  have parts := ((always [smallPrompt] []).prompt _ _ _ (getRun_of_mem its)).1
  exact absurd parts (by decide +kernel)

end BurnLens.Analysis
