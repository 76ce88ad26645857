import BurnLens.Findings.Store
import BurnLens.Library.Numeral
import Mathlib.Data.List.Dedup
import Mathlib.Data.List.Perm.Basic
import Mathlib.Tactic.Ring

/-! # Waste of prompt caching

`SystemPromptWasteDetector` and `PromptCachingOpportunityDetector` read dictionaries: the local ones
of `get_requests_for_analysis`, the cloud's of `records_to_detector_dicts`.  Only the second detector
asks for `cache_read_tokens`, and only the cloud's dictionaries have them.
-/

namespace BurnLens.Analysis

open Library Findings

/-! ## The dictionaries -/

/-- A stored request; its tags are what the text in their column decodes to. -/
structure RequestFact (loads : Str → Option Json) where
  id : Nat
  timestamp : Str
  provider : Str
  model : Str
  inputTokens : Nat
  outputTokens : Nat
  costUsd : ℚ
  durationMs : Int := 0
  tagsText : Str
  tags : Fields
  decodes : loads tagsText = some (.obj tags)
  systemPromptHash : Option Str
  cacheReadTokens : Nat
  promptSystemTokens : Nat
  promptUserTokens : Nat := 0
  promptToolsTokens : Nat := 0
  promptRagTokens : Nat := 0
  promptHistoryTokens : Nat := 0

def textOrNull : Option Str → Json
  | none => .null
  | some text => .str text

section Rows

variable {loads : Str → Option Json}

/-- The columns that `get_requests_for_analysis` selects. -/
def RequestFact.localRow (r : RequestFact loads) : Fields :=
  [("id", .int r.id), ("timestamp", .str r.timestamp), ("provider", .str r.provider),
   ("model", .str r.model), ("input_tokens", .int r.inputTokens),
   ("output_tokens", .int r.outputTokens), ("cost_usd", .float (.fin r.costUsd)),
   ("duration_ms", .int r.durationMs), ("tags", .str r.tagsText),
   ("system_prompt_hash", textOrNull r.systemPromptHash),
   ("prompt_system_tokens", .int r.promptSystemTokens),
   ("prompt_user_tokens", .int r.promptUserTokens),
   ("prompt_tools_tokens", .int r.promptToolsTokens),
   ("prompt_rag_tokens", .int r.promptRagTokens),
   ("prompt_history_tokens", .int r.promptHistoryTokens)]

/-- The columns that `refresh_findings` selects; the tags arrive decoded where the pool has a codec
for them. -/
def RequestFact.cloudRow (codec : Bool) (r : RequestFact loads) : Fields :=
  [("cost_usd", .float (.fin r.costUsd)), ("input_tokens", .int r.inputTokens),
   ("output_tokens", .int r.outputTokens), ("model", .str r.model),
   ("system_prompt_hash", textOrNull r.systemPromptHash),
   ("cache_read_tokens", .int r.cacheReadTokens),
   ("tags", if codec then .obj r.tags else .str r.tagsText),
   ("prompt_system_tokens", .int r.promptSystemTokens),
   ("prompt_tools_tokens", .int r.promptToolsTokens),
   ("prompt_rag_tokens", .int r.promptRagTokens),
   ("prompt_history_tokens", .int r.promptHistoryTokens)]

/-- The rows of the query, the latest first. -/
def analysisWindow (ledger : List (RequestFact loads)) (since : Option Str) (limit : Option Nat) :
    List (RequestFact loads) :=
  let rows := match since with
    | none | some [] => ledger
    | some since => ledger.filter fun r => !decide (r.timestamp < since)
  let sorted := rows.mergeSort fun a b => !decide (a.timestamp < b.timestamp)
  match limit with
  | none => sorted
  | some limit => sorted.take limit

/-- `get_requests_for_analysis`: nothing where a text is not JSON. -/
def getRequestsForAnalysis (ledger : List (RequestFact loads)) (since : Option Str)
    (limit : Option Nat) : Option (List Fields) :=
  (analysisWindow ledger since limit).mapM fun r =>
    (loads r.tagsText).map fun tags => r.localRow.set "tags" tags

end Rows

/-- `records_to_detector_dicts`; a `Decimal` is the number that it holds. -/
def recordsToDetectorDicts (loads : Str → Option Json) (rows : List Fields) : List Fields :=
  rows.map fun d =>
    let tags := match d.getD "tags" .null with
      | .str text => (loads text).getD (.obj [])
      | tags => tags
    let tags := match tags with
      | .obj tags => tags
      | _ => []
    let d := d.set "tags" (.obj tags)
    match d.getD "cost_usd" .null with
    | .null => d.set "cost_usd" (.float (.fin 0))
    | _ => d

/-! ## The detectors -/

def detectorVersion : Nat := 1

/-- What the detectors call: the digest of a fingerprint, `json.loads` and `str`. -/
structure DetectorTools where
  digest : Str → Str
  loads : Str → Option Json
  str : Json → Str

abbrev Subject := Str × Str

def DetectorTools.subjectOf (tools : DetectorTools) (request : Fields) : Subject :=
  let tags := (request.getD "tags" .null).orElse (.obj [])
  let tags := match tags with
    | .str text => (tools.loads text).getD (.obj [])
    | tags => tags
  let workflow := match tags with
    | .obj tags => Fields.getD tags "workflow_id" .null
    | _ => .null
  if workflow.truthy then ("workflow", tools.str workflow)
  else
    let model := request.getD "model" .null
    ("model", if model.truthy then tools.str model else "unknown")

/-- `value or 0` of a numeric column. -/
def amountOf : Json → ℚ
  | .int n => n
  | .float (.fin x) => x
  | _ => 0

/-- `request.get("system_prompt_hash")`, unless it is empty. -/
def promptHash (request : Fields) : Option Str :=
  match request.getD "system_prompt_hash" .null with
  | .str (c :: hash) => some (c :: hash)
  | _ => none

def costOf (request : Fields) : ℚ := amountOf (request.getD "cost_usd" .null)

def systemTokensOf (request : Fields) : ℚ := amountOf (request.getD "prompt_system_tokens" .null)

/-- What a loop collects under one hash: `hash_counter`, `hash_cost` and `hash_tokens`. -/
structure PromptUse where
  count : Nat
  cost : ℚ
  tokens : ℚ
deriving DecidableEq

def PromptUse.of {Row : Type} (cost tokens : Row → ℚ) (rows : List Row) : PromptUse where
  count := rows.length
  cost := (rows.map cost).sum
  tokens := (rows.map tokens).foldr max 0

/-- The dictionaries of a loop over the rows that have a key. -/
def promptUses {Row : Type} (key : Row → Option Str) (cost tokens : Row → ℚ) (rows : List Row) :
    List (Str × PromptUse) :=
  (rows.filterMap key).dedup.map fun hash =>
    (hash, .of cost tokens (rows.filter fun r => key r = some hash))

/-- A detector of repeated prompts: the hash under which it counts a request, what it flags, and the
texts of its findings. -/
structure PromptDetector where
  detector : Str
  title : Str
  key : Fields → Option Str
  flags : PromptUse → Bool
  severity : Nat → Str
  description : Nat → Nat → Subject → Str
  evidence : List PromptUse → Fields

/-- `Enable prompt caching ...`: the counts and the subject before it. -/
def cacheHits (prompts affected : Nat) (large : Str) (subject : Subject) (advice : Str) : Str :=
  decimal prompts ++ large ++ subject.1 ++ " '" ++ subject.2 ++ "' sent " ++ decimal affected ++
    " times without observed cache hits. " ++ advice

def repeatedEvidence (prompts top : Nat) : Fields :=
  [("distinct_system_prompts", .int prompts), ("top_repeat_count", .int top)]

def systemPromptWasteDetector : PromptDetector where
  detector := "SystemPromptWasteDetector"
  title := "System Prompt Waste"
  key := promptHash
  flags use := 5 ≤ use.count
  severity _ := "medium"
  description prompts affected subject :=
    cacheHits prompts affected " system prompt(s) on " subject
      ("Enable prompt caching (Anthropic) or system fingerprinting (OpenAI) to avoid re-paying for " ++
        "repeated system prompts.")
  evidence uses := repeatedEvidence uses.length ((uses.map PromptUse.count).foldr max 0)

def minSystemTokens : ℚ := 1000

def minRepeats : Nat := 5

def cacheableEvidence (prompts : Nat) : Fields :=
  [("min_system_tokens", .int 1000), ("min_repeats", .int minRepeats),
   ("cacheable_prompts", .int prompts)]

/-- Only a request without cache reads is counted. -/
def promptCachingOpportunityDetector : PromptDetector where
  detector := "PromptCachingOpportunityDetector"
  title := "Prompt Caching Opportunity"
  key request :=
    if amountOf (request.getD "cache_read_tokens" .null) = 0 then promptHash request else none
  flags use := minRepeats ≤ use.count && minSystemTokens ≤ use.tokens
  severity affected := if 15 < affected then "high" else "medium"
  description prompts affected subject :=
    cacheHits prompts affected " large system prompt(s) (>1,000 tokens) on " subject
      "Enable prompt caching (Anthropic) or system fingerprinting (OpenAI) to save cost."
  evidence uses := cacheableEvidence uses.length

namespace PromptDetector

variable (d : PromptDetector)

def fingerprint (digest : Str → Str) (subject : Subject) : Str :=
  (digest (d.detector ++ "|" ++ subject.1 ++ "|" ++ subject.2 ++ "|" ++ decimal detectorVersion)).take 32

/-- The finding about the uses that are flagged. -/
def finding (digest : Str → Str) (subject : Subject) (flagged : List PromptUse) : WasteFinding :=
  let affected := (flagged.map PromptUse.count).sum
  { fingerprint := d.fingerprint digest subject
    detector := d.detector
    subjectType := subject.1
    subjectKey := subject.2
    severity := d.severity affected
    title := d.title
    description := d.description flagged.length affected subject
    estimatedWasteUsd := (flagged.map fun use => use.cost * (3 / 10)).sum
    affectedCount := affected
    evidence := d.evidence flagged }

def analyse (digest : Str → Str) (requests : List Fields) (subject : Subject) : Option WasteFinding :=
  let uses := promptUses d.key costOf systemTokensOf requests
  let flagged := (uses.map Prod.snd).filter d.flags
  if flagged = [] then none else some (d.finding digest subject flagged)

/-- `_Detector.run` over `_split_by_subject`: the subjects in the order of their first requests. -/
def run (tools : DetectorTools) (requests : List Fields) : List WasteFinding :=
  let subjects := (requests.map tools.subjectOf).reverse.dedup.reverse
  subjects.filterMap fun subject =>
    d.analyse tools.digest (requests.filter fun r => tools.subjectOf r = subject) subject

end PromptDetector

end BurnLens.Analysis
