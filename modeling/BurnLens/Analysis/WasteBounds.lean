import BurnLens.Analysis.Waste
import BurnLens.Library.GroupBy
import Mathlib.Algebra.Order.BigOperators.Group.List
import Mathlib.Data.List.Sort
import Mathlib.Data.Prod.Lex
import Mathlib.Tactic.Linarith
import Mathlib.Tactic.Positivity

/-! # What the detectors estimate

Eight detectors look at the requests of one subject at a time.  Their dollars are shares of what
those requests cost, so that no finding, and no detector, reports more waste than there is spend.
-/

namespace BurnLens.Analysis

open Library Findings

/-! ## Detectors of single requests -/

/-- `value or 0`, of a column of integers. -/
def intOf : Json → Int
  | .int n => n
  | _ => 0

def tokensOf (column : Str) (request : Fields) : Int := intOf (request.getD column .null)

def median (values : List Int) : Int :=
  let ordered := values.mergeSort
  ordered.getD (ordered.length / 2) 0

/-- What a detector flags, the share of its cost that it takes for waste, and the texts of its
findings. -/
structure RequestDetector where
  detector : Str
  title : Str
  flags : Fields → Bool
  share : ℚ
  -- more findings than this are severe
  many : Nat
  description : Nat → Subject → Str
  evidence : List Fields → Fields

/-- `{n} request(s) on {type} '{key}' ...`. -/
def requestsOn (n : Nat) (subject : Subject) (advice : Str) : Str :=
  decimal n ++ " request(s) on " ++ subject.1 ++ " '" ++ subject.2 ++ "' " ++ advice

/-- `value or 1` of `input_tokens`. -/
def inputTotal (request : Fields) : Int :=
  let total := tokensOf "input_tokens" request
  if total = 0 then 1 else total

def contextBloatDetector : RequestDetector where
  detector := "ContextBloatDetector"
  title := "Context Bloat"
  flags request :=
    let output := tokensOf "output_tokens" request
    8000 ≤ tokensOf "input_tokens" request &&
      ((if output = 0 then 1 else output : Int) : ℚ) / (max (inputTotal request) 1 : Int) < 5 / 100
  share := 1 / 2
  many := 10
  description n subject := requestsOn n subject <|
    "sent extremely large contexts (>8,000 input tokens) with very few output tokens. " ++
      "Consider trimming conversation history or compressing system prompts."
  evidence flagged :=
    [("threshold_input_tokens", .int 8000), ("output_ratio_threshold", .float (.fin (5 / 100))),
     ("median_input_tokens", .int (median (flagged.map (tokensOf "input_tokens"))))]

def modelTiers : List (Str × Str) :=
  [("gpt-5.6-sol", "expensive"), ("gpt-5.2-pro", "expensive"), ("o1", "expensive"), ("o3", "expensive"),
   ("opus", "expensive"), ("gpt-4-turbo", "expensive"), ("gpt-4 ", "expensive"),
   ("gpt-4o-mini", "cheap"), ("gpt-5-mini", "cheap"), ("gpt-5-nano", "cheap"), ("gpt-5.6-luna", "cheap"),
   ("gpt-3.5", "cheap"), ("haiku", "cheap"), ("flash", "cheap"), ("gemini-1.5-flash", "cheap"),
   ("gemini-2.0-flash", "cheap"), ("gemini-3.1-flash-lite", "cheap"),
   ("gpt-4o", "mid"), ("gpt-5", "mid"), ("sonnet", "mid"), ("gemini-1.5-pro", "mid"),
   ("gemini-2.0-pro", "mid"), ("gemini-3.1-pro", "mid")]

/-- `_model_tier`: the first substring that occurs, and `mid` for an unknown model. -/
def modelTier (model : Str) : Str :=
  match modelTiers.find? fun tier => contains tier.1 (lower model) with
  | some tier => tier.2
  | none => "mid"

def modelOf (request : Fields) : Str :=
  match request.getD "model" .null with
  | .str model => model
  | _ => []

def modelOverkillDetector : RequestDetector where
  detector := "ModelOverkillDetector"
  title := "Model Overkill"
  flags request :=
    modelTier (modelOf request) = "expensive" && tokensOf "output_tokens" request < 200 &&
      1 / 1000 ≤ costOf request
  share := 7 / 10
  many := 15
  description n subject := requestsOn n subject <|
    "used an expensive model but produced fewer than 200 output tokens. Short classification, " ++
      "extraction, or routing tasks can use cheaper models."
  evidence flagged :=
    [("short_output_threshold", .int 200),
     ("median_input_tokens", .int (median (flagged.map (tokensOf "input_tokens")))),
     ("models", .arr ((((flagged.map modelOf).dedup).mergeSort fun a b => !decide (b < a)).map .str))]

/-- A part of the prompt that is large by itself and against all of the input. -/
def partIs (column : Str) (least : Int) (ratio : ℚ) (request : Fields) : Bool :=
  least ≤ tokensOf column request && ratio ≤ (tokensOf column request : ℚ) / inputTotal request

def oversizedToolSchemaDetector : RequestDetector where
  detector := "OversizedToolSchemaDetector"
  title := "Oversized Tool Schemas"
  flags := partIs "prompt_tools_tokens" 1000 (3 / 10)
  share := 1 / 2
  many := 10
  description n subject := requestsOn n subject <|
    "sent large tool/function definitions (>1,000 tokens) representing >30% of input. " ++
      "Prune unused schemas, shorten descriptions, or dynamically select tools."
  evidence flagged :=
    [("min_tools_tokens", .int 1000), ("ratio_threshold", .float (.fin (3 / 10))),
     ("median_tools_tokens", .int (median (flagged.map (tokensOf "prompt_tools_tokens"))))]

def lowRAGEfficiencyDetector : RequestDetector where
  detector := "LowRAGEfficiencyDetector"
  title := "Low RAG Efficiency"
  flags request :=
    8000 ≤ tokensOf "prompt_rag_tokens" request && tokensOf "output_tokens" request < 100
  share := 1 / 2
  many := 10
  description n subject := requestsOn n subject <|
    "sent large RAG contexts (>8,000 tokens) but generated very short responses (<100 tokens). " ++
      "Consider smaller chunks, re-ranking (e.g. Cohere), or pre-summarizing context."
  evidence flagged :=
    [("min_rag_tokens", .int 8000), ("max_output_tokens", .int 100),
     ("median_rag_tokens", .int (median (flagged.map (tokensOf "prompt_rag_tokens"))))]

def historyBloatDetector : RequestDetector where
  detector := "HistoryBloatDetector"
  title := "Chat History Bloat"
  flags := partIs "prompt_history_tokens" 5000 (1 / 2)
  share := 4 / 10
  many := 10
  description n subject := requestsOn n subject <|
    "sent bloated conversation histories (>5,000 tokens) representing >50% of input. " ++
      "Implement a sliding message window, summarize past turns, or trim older context."
  evidence flagged :=
    [("min_history_tokens", .int 5000), ("ratio_threshold", .float (.fin (1 / 2))),
     ("median_history_tokens", .int (median (flagged.map (tokensOf "prompt_history_tokens"))))]

/-- `fingerprint`. -/
def fingerprintOf (digest : Str → Str) (detector : Str) (subject : Subject) : Str :=
  (digest (detector ++ "|" ++ subject.1 ++ "|" ++ subject.2 ++ "|" ++ decimal detectorVersion)).take 32

abbrev Analyse := List Fields → Subject → Option WasteFinding

def RequestDetector.analyse (d : RequestDetector) (digest : Str → Str) : Analyse :=
  fun requests subject =>
    let flagged := requests.filter d.flags
    if flagged = [] then none
    else some {
      fingerprint := fingerprintOf digest d.detector subject
      detector := d.detector
      subjectType := subject.1
      subjectKey := subject.2
      severity := if d.many < flagged.length then "high" else "medium"
      title := d.title
      description := d.description flagged.length subject
      estimatedWasteUsd := (flagged.map fun r => costOf r * d.share).sum
      affectedCount := flagged.length
      evidence := d.evidence flagged }

/-- The system prompt and the model; a request without a prompt is not counted. -/
def duplicateKey (request : Fields) : Option (Str × Option Str) :=
  match request.getD "system_prompt_hash" .null with
  | .str hash => some (hash, match request.getD "model" (.str []) with
    | .str model => some model
    | _ => none)
  | _ => none

/-- `DuplicateRequestDetector`: one of the calls under a key is legitimate. -/
def duplicateRequests (digest : Str → Str) : Analyse :=
  fun requests subject =>
    let keys := (requests.filterMap duplicateKey).dedup
    -- `key_counts` and `key_cost`
    let uses := keys.map fun key =>
      PromptUse.of costOf systemTokensOf (requests.filter fun r => duplicateKey r = some key)
    let duplicates := uses.filter fun use => 3 ≤ use.count
    let affected : Nat := (duplicates.map fun use => use.count - 1).sum
    if duplicates = [] then none
    else some {
      fingerprint := fingerprintOf digest "DuplicateRequestDetector" subject
      detector := "DuplicateRequestDetector"
      subjectType := subject.1
      subjectKey := subject.2
      severity := if 20 < affected then "high" else "medium"
      title := "Duplicate Requests"
      description :=
        decimal duplicates.length ++ " unique (model, system-prompt) combination(s) on " ++ subject.1 ++
          " '" ++ subject.2 ++ "' repeated 3+ times. ~" ++ decimal affected ++
          " redundant calls detected. Consider caching responses or using prompt caching features."
      estimatedWasteUsd := (duplicates.map fun use => use.cost * ((use.count : ℚ) - 1) / use.count).sum
      affectedCount := affected
      evidence := [("min_occurrences", .int 3), ("duplicate_groups", .int duplicates.length),
        ("top_repeat_count", .int ((duplicates.map PromptUse.count).foldr max 0))] }

/-- `_Detector`, as the name and `_analyse` of a subclass. -/
structure Detector where
  detector : Str
  analyse : Analyse

def RequestDetector.toDetector (digest : Str → Str) (d : RequestDetector) : Detector :=
  ⟨d.detector, d.analyse digest⟩

def PromptDetector.toDetector (digest : Str → Str) (d : PromptDetector) : Detector :=
  ⟨d.detector, d.analyse digest⟩

def detectors (digest : Str → Str) : List Detector :=
  [contextBloatDetector.toDetector digest,
   ⟨"DuplicateRequestDetector", duplicateRequests digest⟩,
   modelOverkillDetector.toDetector digest,
   systemPromptWasteDetector.toDetector digest,
   promptCachingOpportunityDetector.toDetector digest,
   oversizedToolSchemaDetector.toDetector digest,
   lowRAGEfficiencyDetector.toDetector digest,
   historyBloatDetector.toDetector digest]

/-- The requests of a subject: its bucket in `_split_by_subject`. -/
def bucket (tools : DetectorTools) (requests : List Fields) (subject : Subject) : List Fields :=
  requests.filter fun r => tools.subjectOf r = subject

/-- `run`: the subjects in the order of their first requests. -/
def Detector.run (tools : DetectorTools) (requests : List Fields) (d : Detector) : List WasteFinding :=
  let subjects := (requests.map tools.subjectOf).reverse.dedup.reverse
  subjects.filterMap fun subject => d.analyse (bucket tools requests subject) subject

def severityOrder (finding : WasteFinding) : Nat :=
  if finding.severity = "high" then 0
  else if finding.severity = "medium" then 1
  else if finding.severity = "low" then 2 else 3

def comesFirst (a b : WasteFinding) : Bool :=
  severityOrder a < severityOrder b ||
    (severityOrder a = severityOrder b && b.estimatedWasteUsd ≤ a.estimatedWasteUsd)

def runAllDetectors (tools : DetectorTools) (requests : List Fields) : List WasteFinding :=
  ((detectors tools.digest).flatMap (Detector.run tools requests)).mergeSort comesFirst

section

variable {Row Amount Item Key : Type} [AddCommMonoid Amount] [PartialOrder Amount]
  [IsOrderedAddMonoid Amount] [DecidableEq Key] {amount : Row → Amount} {rows : List Row}

theorem sumWhere_le (nonneg : ∀ row ∈ rows, 0 ≤ amount row) (condition : Row → Bool) :
    sumWhere condition amount rows ≤ (rows.map amount).sum := by
  induction rows with
  | nil => exact le_rfl
  | cons row rows inductionHypothesis =>
    obtain ⟨first, others⟩ := List.forall_mem_cons.mp nonneg
    rw [sumWhere_cons, List.map_cons, List.sum_cons]
    refine add_le_add ?_ (inductionHypothesis others)
    split
    · exact le_rfl
    · exact first

theorem sum_map_nonneg (nonneg : ∀ row ∈ rows, 0 ≤ amount row) : 0 ≤ (rows.map amount).sum :=
  List.sum_nonneg (List.forall_mem_map.mpr nonneg)

/-- Items with keys of their own, each with a part of what the rows under its key sum to. -/
theorem parts_le (key : Row → Option Key) (keyOf : Item → Key) {part : Item → Amount}
    {items : List Item} (distinct : (items.map keyOf).Nodup) (nonneg : ∀ row ∈ rows, 0 ≤ amount row)
    (parts : ∀ item ∈ items,
      part item ≤ sumWhere (fun row => decide (key row = some (keyOf item))) amount rows) :
    (items.map part).sum ≤ (rows.map amount).sum := by
  have sums := @sum_map_sumWhere _ _ _ _ _ key _ (distinct.map (Option.some_injective Key)) amount rows
  rw [List.map_map, List.map_map] at sums
  calc (items.map part).sum
      ≤ (items.map fun item => sumWhere (fun row => decide (key row = some (keyOf item))) amount rows).sum :=
        List.sum_le_sum parts
    _ ≤ (rows.map amount).sum := sums.trans_le (sumWhere_le nonneg _)

end

/-! ## One subject -/

def subjectOf (finding : WasteFinding) : Subject := (finding.subjectType, finding.subjectKey)

/-- A finding that claims no more than there is in the requests that it is about. -/
structure Within (requests : List Fields) (finding : WasteFinding) : Prop where
  nonneg : 0 ≤ finding.estimatedWasteUsd
  spend : finding.estimatedWasteUsd ≤ (requests.map costOf).sum
  affected : 0 < finding.affectedCount
  count : finding.affectedCount ≤ requests.length

/-- The findings of a detector bear its name and the subject, and are within its requests. -/
def Detector.Sound (d : Detector) : Prop :=
  ∀ requests subject finding, (∀ r ∈ requests, 0 ≤ costOf r) → d.analyse requests subject = some finding →
    finding.detector = d.detector ∧ subjectOf finding = subject ∧ Within requests finding

theorem RequestDetector.sound (digest : Str → Str) {d : RequestDetector}
    (share : 0 ≤ d.share ∧ d.share ≤ 1) : (d.toDetector digest).Sound := by
  intro requests subject finding paid found
  simp only [RequestDetector.toDetector, RequestDetector.analyse] at found
  split at found
  · cases found
  · next some_ =>
    cases found
    have flagged : ∀ r ∈ requests.filter d.flags, 0 ≤ costOf r :=
      fun r member => paid r (List.mem_of_mem_filter member)
    refine ⟨rfl, rfl, ?_, ?_, ?_, ?_⟩
    · exact sum_map_nonneg fun r member => mul_nonneg (flagged r member) share.1
    · calc ((requests.filter d.flags).map fun r => costOf r * d.share).sum
          ≤ ((requests.filter d.flags).map costOf).sum :=
            List.sum_le_sum fun r member => mul_le_of_le_one_right (flagged r member) share.2
        _ ≤ (requests.map costOf).sum := sumWhere_le paid d.flags
    · exact Int.natCast_pos.mpr (List.length_pos_iff.mpr some_)
    · exact Int.ofNat_le.mpr (List.length_filter_le d.flags requests)

section

variable {Key : Type} [DecidableEq Key] {key : Fields → Option Key} {requests : List Fields}

/-- What is collected under the keys of some requests. -/
def usesUnder (key : Fields → Option Key) (requests : List Fields) : List PromptUse :=
  (requests.filterMap key).dedup.map fun k =>
    .of costOf systemTokensOf (requests.filter fun r => key r = some k)

theorem uses_paid (paid : ∀ r ∈ requests, 0 ≤ costOf r) : ∀ use ∈ usesUnder key requests, 0 ≤ use.cost := by
  intro use member
  obtain ⟨k, -, rfl⟩ := List.mem_map.mp member
  exact sum_map_nonneg fun r under => paid r (List.mem_of_mem_filter under)

/-- Of the uses under some keys, those that are flagged cost no more than all requests, and are no
more of them. -/
theorem flagged_le (key : Fields → Option Key) (flags : PromptUse → Bool) (paid : ∀ r ∈ requests, 0 ≤ costOf r) :
    (((usesUnder key requests).filter flags).map PromptUse.cost).sum ≤ (requests.map costOf).sum ∧
      (((usesUnder key requests).filter flags).map PromptUse.count).sum ≤ requests.length := by
  have distinct : (((requests.filterMap key).dedup.filter fun k =>
      flags (.of costOf systemTokensOf (requests.filter fun r => key r = some k))).map id).Nodup := by
    rw [List.map_id]
    exact (List.nodup_dedup _).filter _
  rw [usesUnder, List.filter_map, List.map_map, List.map_map]
  constructor
  · exact parts_le key id distinct paid fun k _ => le_rfl
  · calc _ ≤ (requests.map fun _ => 1).sum :=
          parts_le key id distinct (fun _ _ => Nat.zero_le 1) fun k _ => (sumWhere_one ..).ge
      _ = requests.length := by simp

end

theorem PromptDetector.sound (digest : Str → Str) {d : PromptDetector}
    (repeated : ∀ use, d.flags use = true → 0 < use.count) : (d.toDetector digest).Sound := by
  intro requests subject finding paid found
  have uses : (promptUses d.key costOf systemTokensOf requests).map Prod.snd = usesUnder d.key requests := by
    rw [promptUses, List.map_map]
    rfl
  simp only [PromptDetector.toDetector, PromptDetector.analyse, uses] at found
  split at found
  · cases found
  · next some_ =>
    cases found
    obtain ⟨cost, count⟩ := flagged_le d.key d.flags paid
    have flagged : ∀ use ∈ (usesUnder d.key requests).filter d.flags, 0 ≤ use.cost :=
      fun use member => uses_paid paid use (List.mem_of_mem_filter member)
    refine ⟨rfl, rfl, ?_, ?_, ?_, ?_⟩
    · exact sum_map_nonneg fun use member => mul_nonneg (flagged use member) (by norm_num)
    · refine le_trans (List.sum_le_sum fun use member => ?_) cost
      exact mul_le_of_le_one_right (flagged use member) (by norm_num)
    · have counted : 0 < (((usesUnder d.key requests).filter d.flags).map PromptUse.count).sum := by
        apply List.sum_pos
        · exact List.forall_mem_map.mpr fun use member => repeated use (List.mem_filter.mp member).2
        · exact fun empty => some_ (List.map_eq_nil_iff.mp empty)
      exact Int.natCast_pos.mpr counted
    · exact Int.ofNat_le.mpr count

theorem duplicateRequests_sound (digest : Str → Str) :
    (Detector.mk "DuplicateRequestDetector" (duplicateRequests digest)).Sound := by
  intro requests subject finding paid found
  simp only [duplicateRequests] at found
  split at found
  · cases found
  · next some_ =>
    cases found
    have flagged : ∀ use ∈ (usesUnder duplicateKey requests).filter fun use => 3 ≤ use.count,
        0 ≤ use.cost ∧ 3 ≤ use.count := fun use member =>
      ⟨uses_paid paid use (List.mem_of_mem_filter member), of_decide_eq_true (List.mem_filter.mp member).2⟩
    obtain ⟨cost, count⟩ := flagged_le duplicateKey (fun use => 3 ≤ use.count) paid
    refine ⟨rfl, rfl, ?_, ?_, ?_, ?_⟩
    · refine sum_map_nonneg fun use member => ?_
      obtain ⟨paid, often⟩ := flagged use member
      have least : (3 : ℚ) ≤ use.count := by exact_mod_cast often
      have redundant : (0 : ℚ) ≤ use.count - 1 := by linarith
      positivity
    · refine le_trans (List.sum_le_sum fun use member => ?_) cost
      obtain ⟨paid, often⟩ := flagged use member
      have least : (3 : ℚ) ≤ use.count := by exact_mod_cast often
      rw [div_le_iff₀ (by linarith)]
      exact mul_le_mul_of_nonneg_left (by linarith) paid
    · have counted : 0 < (((usesUnder duplicateKey requests).filter fun use => 3 ≤ use.count).map
          fun use => use.count - 1).sum := by
        apply List.sum_pos
        · refine List.forall_mem_map.mpr fun use member => ?_
          have often := (flagged use member).2
          omega
        · exact fun empty => some_ (List.map_eq_nil_iff.mp empty)
      exact Int.natCast_pos.mpr counted
    · have fewer : (((usesUnder duplicateKey requests).filter fun use => 3 ≤ use.count).map
          fun use => use.count - 1).sum ≤ requests.length :=
        le_trans (List.sum_le_sum fun use _ => Nat.sub_le use.count 1) count
      exact Int.ofNat_le.mpr fewer

theorem detectors_sound (digest : Str → Str) : ∀ d ∈ detectors digest, d.Sound := by
  have half : (0 : ℚ) ≤ 1 / 2 ∧ (1 / 2 : ℚ) ≤ 1 := by norm_num
  have most : (0 : ℚ) ≤ 7 / 10 ∧ (7 / 10 : ℚ) ≤ 1 := by norm_num
  have less : (0 : ℚ) ≤ 4 / 10 ∧ (4 / 10 : ℚ) ≤ 1 := by norm_num
  rw [detectors]
  iterate 8 rw [List.forall_mem_cons]
  refine ⟨?_, ?_, ?_, ?_, ?_, ?_, ?_, ?_, List.forall_mem_nil _⟩
  · exact RequestDetector.sound digest half
  · exact duplicateRequests_sound digest
  · exact RequestDetector.sound digest most
  · refine PromptDetector.sound digest fun use flagged => ?_
    have often : 5 ≤ use.count := of_decide_eq_true flagged
    omega
  · refine PromptDetector.sound digest fun use flagged => ?_
    have often : 5 ≤ use.count := of_decide_eq_true (Bool.and_eq_true_iff.mp flagged).1
    omega
  · exact RequestDetector.sound digest half
  · exact RequestDetector.sound digest half
  · exact RequestDetector.sound digest less

theorem detectors_distinct (digest : Str → Str) : ((detectors digest).map Detector.detector).Nodup := by
  have names : ["ContextBloatDetector", "DuplicateRequestDetector", "ModelOverkillDetector",
      "SystemPromptWasteDetector", "PromptCachingOpportunityDetector", "OversizedToolSchemaDetector",
      "LowRAGEfficiencyDetector", "HistoryBloatDetector"].Nodup := by simp
  have same : (detectors digest).map Detector.detector = ["ContextBloatDetector",
      "DuplicateRequestDetector", "ModelOverkillDetector", "SystemPromptWasteDetector",
      "PromptCachingOpportunityDetector", "OversizedToolSchemaDetector", "LowRAGEfficiencyDetector",
      "HistoryBloatDetector"].map String.toList := rfl
  rw [same]
  exact names.map fun _ _ => String.toList_injective

/-! ## All findings -/

section

variable {tools : DetectorTools} {requests : List Fields} {finding : WasteFinding}

theorem mem_run {d : Detector} (sound : d.Sound) (paid : ∀ r ∈ requests, 0 ≤ costOf r)
    (member : finding ∈ d.run tools requests) :
    finding.detector = d.detector ∧ Within (bucket tools requests (subjectOf finding)) finding := by
  obtain ⟨subject, -, found⟩ := List.mem_filterMap.mp member
  obtain ⟨detector, rfl, within⟩ :=
    sound _ subject finding (fun r under => paid r (List.mem_of_mem_filter under)) found
  exact ⟨detector, within⟩

theorem run_subjects {d : Detector} (sound : d.Sound) (paid : ∀ r ∈ requests, 0 ≤ costOf r) :
    ((d.run tools requests).map subjectOf).Nodup := by
  have named : ∀ subject finding, d.analyse (bucket tools requests subject) subject = some finding →
      subjectOf finding = subject := fun subject finding found =>
    (sound _ subject finding (fun r under => paid r (List.mem_of_mem_filter under)) found).2.1
  have subjects : ((requests.map tools.subjectOf).reverse.dedup.reverse).Nodup :=
    List.nodup_reverse.mpr (List.nodup_dedup _)
  rw [Detector.run]
  generalize (requests.map tools.subjectOf).reverse.dedup.reverse = all at subjects
  induction all with
  | nil => exact List.nodup_nil
  | cons subject all inductionHypothesis =>
    obtain ⟨fresh, subjects⟩ := List.nodup_cons.mp subjects
    rw [List.filterMap_cons]
    split
    · exact inductionHypothesis subjects
    · next finding found =>
      rw [List.map_cons, List.nodup_cons, named subject finding found]
      refine ⟨fun again => fresh ?_, inductionHypothesis subjects⟩
      obtain ⟨other, member, same⟩ := List.mem_map.mp again
      obtain ⟨its, present, analysed⟩ := List.mem_filterMap.mp member
      rwa [← same, named its other analysed]

theorem comesFirst_iff (a b : WasteFinding) : comesFirst a b = true ↔
    toLex (severityOrder a, -a.estimatedWasteUsd) ≤ toLex (severityOrder b, -b.estimatedWasteUsd) := by
  simp [comesFirst, Prod.Lex.toLex_le_toLex]

theorem runAllDetectors_sorted :
    (runAllDetectors tools requests).Pairwise fun a b => comesFirst a b = true := by
  apply List.pairwise_mergeSort
  · intro a b c first second
    rw [comesFirst_iff] at *
    exact first.trans second
  · intro a b
    rw [Bool.or_eq_true, comesFirst_iff, comesFirst_iff]
    exact le_total _ _

theorem runAllDetectors_distinct (tools : DetectorTools) (paid : ∀ r ∈ requests, 0 ≤ costOf r) :
    ((runAllDetectors tools requests).map fun finding => (finding.detector, subjectOf finding)).Nodup := by
  rw [runAllDetectors, ((List.mergeSort_perm _ comesFirst).map _).nodup_iff, List.map_flatMap,
    List.nodup_flatMap]
  constructor
  · intro d member
    apply List.Nodup.of_map Prod.snd
    rw [List.map_map]
    exact run_subjects (detectors_sound _ d member) paid
  · refine (List.pairwise_map.mp (detectors_distinct tools.digest)).imp_of_mem ?_
    intro a b here there apart
    rw [Function.onFun, List.disjoint_left]
    intro entry first second
    obtain ⟨finding, found, rfl⟩ := List.mem_map.mp first
    obtain ⟨other, also, same⟩ := List.mem_map.mp second
    apply apart
    rw [← (mem_run (detectors_sound _ a here) paid found).1,
      ← (mem_run (detectors_sound _ b there) paid also).1]
    exact (congrArg Prod.fst same).symm

theorem runAllDetectors_within (paid : ∀ r ∈ requests, 0 ≤ costOf r)
    (member : finding ∈ runAllDetectors tools requests) :
    Within (bucket tools requests (subjectOf finding)) finding := by
  rw [runAllDetectors, List.mem_mergeSort] at member
  obtain ⟨d, here, found⟩ := List.mem_flatMap.mp member
  exact (mem_run (detectors_sound _ d here) paid found).2

end

/-- Where no request costs less than nothing, the findings come in order, one for a detector and a
subject; each claims some of the requests of its subject and no more dollars than they cost, and
what one detector claims of all subjects is no more than all requests cost. -/
theorem waste_within_spend (tools : DetectorTools) (requests : List Fields)
    (paid : ∀ r ∈ requests, 0 ≤ costOf r) :
    ((runAllDetectors tools requests).Pairwise fun a b => comesFirst a b = true) ∧
      ((runAllDetectors tools requests).map fun finding => (finding.detector, subjectOf finding)).Nodup ∧
      (∀ finding ∈ runAllDetectors tools requests,
        Within (bucket tools requests (subjectOf finding)) finding) ∧
      ∀ detector, (((runAllDetectors tools requests).filter fun finding => finding.detector = detector).map
        WasteFinding.estimatedWasteUsd).sum ≤ (requests.map costOf).sum := by
  refine ⟨runAllDetectors_sorted, runAllDetectors_distinct tools paid,
    fun finding => runAllDetectors_within paid, fun detector => ?_⟩
  refine parts_le (fun r => some (tools.subjectOf r)) subjectOf ?_ paid ?_
  · have distinct := runAllDetectors_distinct tools paid
    rw [List.nodup_iff_pairwise_ne, List.pairwise_map] at distinct ⊢
    refine (distinct.sublist List.filter_sublist).imp_of_mem ?_
    intro a b here there apart same
    have first : a.detector = detector := of_decide_eq_true (List.mem_filter.mp here).2
    have second : b.detector = detector := of_decide_eq_true (List.mem_filter.mp there).2
    exact apart (by rw [first, second, same])
  · intro finding member
    have within := runAllDetectors_within paid (List.mem_of_mem_filter member)
    refine within.spend.trans_eq (sumWhere_congr (fun r _ => ?_) costOf)
    simp

def largeContext (model : Str) (cost : ℚ) : Fields :=
  [("model", .str model), ("input_tokens", .int 9000), ("output_tokens", .int 10),
   ("cost_usd", .float (.fin cost))]

def largeContexts : List Fields :=
  [largeContext "gpt-4o" 1, largeContext "gpt-4o" 2, largeContext "gpt-4" (1 / 2)]

def largeContextTools : DetectorTools where
  digest _ := "fd7a6352b13d0f67a3ab202468c2c071efdc679a3547a00885264eb236672d3c"
  loads _ := none
  str
    | .str text => text
    | _ => []

theorem largeContexts_paid : ∀ r ∈ largeContexts, 0 ≤ costOf r := by
  have cost : ∀ model cost, costOf (largeContext model cost) = cost := fun _ _ => rfl
  simp only [largeContexts, List.forall_mem_cons, cost]
  norm_num

/-- A finding for each of the two models. -/
theorem largeContexts_within_spend :
    (runAllDetectors largeContextTools largeContexts).length = 2 ∧
    ((runAllDetectors largeContextTools largeContexts).Pairwise fun a b => comesFirst a b = true) ∧
    ((runAllDetectors largeContextTools largeContexts).map fun finding =>
      (finding.detector, subjectOf finding)).Nodup ∧
    (∀ finding ∈ runAllDetectors largeContextTools largeContexts,
      Within (bucket largeContextTools largeContexts (subjectOf finding)) finding) ∧
    ∀ detector, (((runAllDetectors largeContextTools largeContexts).filter fun finding =>
      finding.detector = detector).map WasteFinding.estimatedWasteUsd).sum ≤ 7 / 2 := by
  obtain ⟨sorted, distinct, within, bounded⟩ :=
    waste_within_spend largeContextTools largeContexts largeContexts_paid
  have spend : (largeContexts.map costOf).sum = 7 / 2 := by decide +kernel
  rw [spend] at bounded
  have findings : (runAllDetectors largeContextTools largeContexts).length = 2 := by
    rw [runAllDetectors, List.length_mergeSort]
    decide +kernel
  exact ⟨findings, sorted, distinct, within, bounded⟩

end BurnLens.Analysis
