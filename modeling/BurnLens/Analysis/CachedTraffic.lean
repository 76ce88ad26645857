import BurnLens.Analysis.Waste

/-! # Waste of cached traffic

The requests that a detector counts are those whose prompt is repeated within their subject.  No
cached request is among them exactly where no cached request has such a prompt; then the local
database and the cloud report the same findings.
-/

namespace BurnLens.Analysis

open Library Findings

/-! ## What is flagged -/

section Uses

variable {Row : Type} {key key' : Row → Option Str} {cost tokens : Row → ℚ} {rows rows' : List Row}

def usesOf (key : Row → Option Str) (rows : List Row) (hash : Str) : List Row :=
  rows.filter fun r => key r = some hash

theorem PromptUse.of_perm (perm : rows.Perm rows') :
    PromptUse.of cost tokens rows = .of cost tokens rows' := by
  have largest : (rows.map tokens).foldr max 0 = (rows'.map tokens).foldr max 0 :=
    (perm.map tokens).foldr_eq 0
  simp only [PromptUse.of, perm.length_eq, (perm.map cost).sum_eq, largest]

theorem mem_promptUses {hash : Str} {use : PromptUse} :
    (hash, use) ∈ promptUses key cost tokens rows ↔
      (∃ r ∈ rows, key r = some hash) ∧ use = .of cost tokens (usesOf key rows hash) := by
  simp only [promptUses, List.mem_map, List.mem_dedup, List.mem_filterMap, Prod.mk.injEq, usesOf]
  constructor
  · rintro ⟨other, there, rfl, rfl⟩
    exact ⟨there, rfl⟩
  · rintro ⟨there, rfl⟩
    exact ⟨hash, there, rfl, rfl⟩

theorem nodup_promptUses : (promptUses key cost tokens rows).Nodup := by
  apply (List.nodup_dedup _).map
  intro a b same
  exact (Prod.mk.inj same).1

theorem promptUses_map {Source : Type} (f : Source → Row) (sources : List Source) :
    promptUses key cost tokens (sources.map f) =
      promptUses (fun s => key (f s)) (fun s => cost (f s)) (fun s => tokens (f s)) sources := by
  simp only [promptUses, PromptUse.of, List.filterMap_map, List.filter_map, List.map_map,
    List.length_map, Function.comp_def]

/-- Two loops flag the same uses where they agree on each hash that is repeated in one of them. -/
theorem flagged_perm (cost tokens : Row → ℚ) {flags : PromptUse → Bool}
    (repeated : ∀ use, flags use = true → 5 ≤ use.count)
    (same : ∀ hash, 5 ≤ (usesOf key rows hash).length ∨ 5 ≤ (usesOf key' rows' hash).length →
      (usesOf key rows hash).Perm (usesOf key' rows' hash)) :
    (((promptUses key cost tokens rows).map Prod.snd).filter flags).Perm
      (((promptUses key' cost tokens rows').map Prod.snd).filter flags) := by
  rw [List.filter_map, List.filter_map]
  apply List.Perm.map
  apply (List.perm_ext_iff_of_nodup (nodup_promptUses.filter _) (nodup_promptUses.filter _)).mpr
  have there : ∀ {key : Row → Option Str} {rows : List Row} {hash : Str},
      0 < (usesOf key rows hash).length → ∃ r ∈ rows, key r = some hash := by
    intro key rows hash some
    obtain ⟨r, member⟩ := List.exists_mem_of_length_pos some
    obtain ⟨its, hashed⟩ := List.mem_filter.mp member
    exact ⟨r, its, of_decide_eq_true hashed⟩
  rintro ⟨hash, use⟩
  simp only [List.mem_filter, mem_promptUses, Function.comp_apply]
  constructor
  · rintro ⟨⟨-, rfl⟩, flagged⟩
    have many := repeated _ flagged
    have perm := same hash (Or.inl many)
    rw [PromptUse.of_perm perm] at flagged ⊢
    exact ⟨⟨there (by rw [← perm.length_eq]; exact Nat.lt_of_lt_of_le (by decide) many), rfl⟩, flagged⟩
  · rintro ⟨⟨-, rfl⟩, flagged⟩
    have many := repeated _ flagged
    have perm := same hash (Or.inr many)
    rw [← PromptUse.of_perm perm] at flagged ⊢
    exact ⟨⟨there (by rw [perm.length_eq]; exact Nat.lt_of_lt_of_le (by decide) many), rfl⟩, flagged⟩

end Uses

/-! ## Findings -/

def promptDetectors : List PromptDetector :=
  [systemPromptWasteDetector, promptCachingOpportunityDetector]

namespace PromptDetector

variable {d : PromptDetector} {tools : DetectorTools} {digest : Str → Str} {subject : Subject}

theorem flags_repeated (member : d ∈ promptDetectors) (use : PromptUse)
    (flagged : d.flags use = true) : 5 ≤ use.count := by
  simp only [promptDetectors, List.mem_cons, List.not_mem_nil, or_false] at member
  obtain rfl | rfl := member
  · exact of_decide_eq_true flagged
  · exact of_decide_eq_true (Bool.and_eq_true_iff.mp flagged).1

theorem evidence_perm (member : d ∈ promptDetectors) {uses uses' : List PromptUse}
    (perm : uses.Perm uses') : d.evidence uses = d.evidence uses' := by
  have top : (uses.map PromptUse.count).foldr max 0 = (uses'.map PromptUse.count).foldr max 0 :=
    (perm.map PromptUse.count).foldr_eq 0
  simp only [promptDetectors, List.mem_cons, List.not_mem_nil, or_false] at member
  obtain rfl | rfl := member
  · exact congrArg₂ repeatedEvidence perm.length_eq top
  · exact congrArg cacheableEvidence perm.length_eq

theorem finding_perm (member : d ∈ promptDetectors) {flagged flagged' : List PromptUse}
    (perm : flagged.Perm flagged') : d.finding digest subject flagged = d.finding digest subject flagged' := by
  simp only [finding, perm.length_eq, (perm.map PromptUse.count).sum_eq,
    (perm.map fun use => use.cost * (3 / 10)).sum_eq, evidence_perm member perm]

/-- `_analyse`, of rows that are not dictionaries. -/
def analyseOf {Row : Type} (d : PromptDetector) (digest : Str → Str) (key : Row → Option Str)
    (cost tokens : Row → ℚ) (rows : List Row) (subject : Subject) : Option WasteFinding :=
  let flagged := ((promptUses key cost tokens rows).map Prod.snd).filter d.flags
  if flagged = [] then none else some (d.finding digest subject flagged)

theorem analyse_map {Row : Type} (dict : Row → Fields) (rows : List Row) (subject : Subject) :
    d.analyse digest (rows.map dict) subject =
      d.analyseOf digest (fun r => d.key (dict r)) (fun r => costOf (dict r))
        (fun r => systemTokensOf (dict r)) rows subject := by
  simp only [analyse, analyseOf, promptUses_map]

theorem analyseOf_congr {Row : Type} {key key' : Row → Option Str} {cost tokens : Row → ℚ}
    {rows rows' : List Row} (member : d ∈ promptDetectors)
    (same : ∀ hash, 5 ≤ (usesOf key rows hash).length ∨ 5 ≤ (usesOf key' rows' hash).length →
      (usesOf key rows hash).Perm (usesOf key' rows' hash)) :
    d.analyseOf digest key cost tokens rows subject = d.analyseOf digest key' cost tokens rows' subject := by
  have perm := flagged_perm cost tokens (flags_repeated member) same
  simp only [analyseOf, finding_perm member perm, ← List.length_eq_zero_iff, perm.length_eq]

theorem analyseOf_subject {Row : Type} (key : Row → Option Str) (cost tokens : Row → ℚ)
    {rows : List Row} {found : WasteFinding}
    (analysed : d.analyseOf digest key cost tokens rows subject = some found) :
    (found.subjectType, found.subjectKey) = subject := by
  simp only [analyseOf] at analysed
  split at analysed
  · cases analysed
  · cases analysed
    rfl

section Run

variable {requests requests' : List Fields}

theorem analyse_nil : d.analyse digest [] subject = none := rfl

theorem mem_run {found : WasteFinding} : found ∈ d.run tools requests ↔
    ∃ subject, d.analyse tools.digest (requests.filter fun r => tools.subjectOf r = subject) subject =
      some found := by
  simp only [run, List.mem_filterMap, List.mem_reverse, List.mem_dedup, List.mem_map]
  constructor
  · rintro ⟨subject, -, analysed⟩
    exact ⟨subject, analysed⟩
  · rintro ⟨subject, analysed⟩
    refine ⟨subject, ?_, analysed⟩
    by_contra absent
    have nobody : (requests.filter fun r => tools.subjectOf r = subject) = [] := by
      apply List.filter_eq_nil_iff.mpr
      intro r member its
      exact absent ⟨r, member, of_decide_eq_true its⟩
    rw [nobody, analyse_nil] at analysed
    cases analysed

theorem nodup_run : (d.run tools requests).Nodup := by
  apply List.Nodup.filterMap
  · intro a b found first second
    have one := analyseOf_subject d.key costOf systemTokensOf first
    have other := analyseOf_subject d.key costOf systemTokensOf second
    exact one.symm.trans other
  · exact List.nodup_reverse.mpr (List.nodup_dedup _)

theorem run_perm (same : ∀ subject,
    d.analyse tools.digest (requests.filter fun r => tools.subjectOf r = subject) subject =
      d.analyse tools.digest (requests'.filter fun r => tools.subjectOf r = subject) subject) :
    (d.run tools requests).Perm (d.run tools requests') := by
  apply (List.perm_ext_iff_of_nodup nodup_run nodup_run).mpr
  intro found
  simp only [mem_run, same]

end Run

end PromptDetector

/-! ## Facts -/

section Facts

variable {tools : DetectorTools} {d : PromptDetector}

/-- What `get_requests_for_analysis` makes of a row. -/
def RequestFact.localDict (r : RequestFact tools.loads) : Fields :=
  r.localRow.set "tags" (.obj r.tags)

theorem getRequestsForAnalysis_eq (ledger : List (RequestFact tools.loads)) (since : Option Str)
    (limit : Option Nat) : getRequestsForAnalysis ledger since limit =
      some ((analysisWindow ledger since limit).map RequestFact.localDict) := by
  rw [getRequestsForAnalysis]
  induction analysisWindow ledger since limit with
  | nil => rfl
  | cons r rows inductionHypothesis =>
    rw [List.mapM_cons, inductionHypothesis, r.decodes]
    rfl

/-- What `records_to_detector_dicts` makes of a row. -/
def RequestFact.cloudDict (codec : Bool) (r : RequestFact tools.loads) : Fields :=
  (r.cloudRow codec).set "tags" (.obj r.tags)

theorem recordsToDetectorDicts_eq (codec : Bool) (rows : List (RequestFact tools.loads)) :
    recordsToDetectorDicts tools.loads (rows.map (RequestFact.cloudRow codec)) =
      rows.map (RequestFact.cloudDict codec) := by
  rw [recordsToDetectorDicts, List.map_map]
  apply List.map_congr_left
  intro r _
  have decodes := r.decodes
  cases codec with
  | true => rfl
  | false =>
    have tags : Fields.getD (r.cloudRow false) "tags" .null = .str r.tagsText := rfl
    simp only [Function.comp_apply, tags, decodes, Option.getD_some]
    rfl

def DetectorTools.subjectFrom (tools : DetectorTools) (tags : Fields) (model : Str) : Subject :=
  let workflow := tags.getD "workflow_id" .null
  if workflow.truthy then ("workflow", tools.str workflow)
  else ("model", if model = [] then "unknown" else tools.str (.str model))

def RequestFact.subject (r : RequestFact tools.loads) : Subject := tools.subjectFrom r.tags r.model

def RequestFact.promptHash (r : RequestFact tools.loads) : Option Str :=
  r.systemPromptHash.filter fun hash => hash ≠ []

theorem subjectOf_of_tags {request : Fields} {tags : Fields} {model : Str}
    (tagged : request.getD "tags" .null = .obj tags) (named : request.getD "model" .null = .str model) :
    tools.subjectOf request = tools.subjectFrom tags model := by
  have object : (Json.obj tags).orElse (.obj []) = .obj tags := by
    cases tags <;> rfl
  simp only [DetectorTools.subjectOf, tagged, named, object]
  cases model <;> rfl

variable (r : RequestFact tools.loads)

theorem subjectOf_localDict : tools.subjectOf r.localDict = r.subject :=
  subjectOf_of_tags rfl rfl

theorem subjectOf_cloudDict (codec : Bool) : tools.subjectOf (r.cloudDict codec) = r.subject :=
  subjectOf_of_tags rfl rfl

theorem promptHash_of_column {request : Fields} {hash : Option Str}
    (column : request.getD "system_prompt_hash" .null = textOrNull hash) :
    promptHash request = hash.filter fun hash => hash ≠ [] := by
  rw [promptHash, column]
  cases hash with
  | none => rfl
  | some hash => cases hash <;> rfl

theorem promptHash_localDict : promptHash r.localDict = r.promptHash := promptHash_of_column rfl

theorem promptHash_cloudDict (codec : Bool) : promptHash (r.cloudDict codec) = r.promptHash :=
  promptHash_of_column rfl

theorem key_systemPromptWaste : systemPromptWasteDetector.key = Analysis.promptHash := rfl

theorem key_promptCachingOpportunity (request : Fields) : promptCachingOpportunityDetector.key request =
    if amountOf (request.getD "cache_read_tokens" .null) = 0 then Analysis.promptHash request else none := rfl

/-- The local dictionaries have no cache reads, so every request counts as uncached. -/
theorem key_localDict (member : d ∈ promptDetectors) : d.key r.localDict = r.promptHash := by
  simp only [promptDetectors, List.mem_cons, List.not_mem_nil, or_false] at member
  obtain rfl | rfl := member
  · rw [key_systemPromptWaste, promptHash_localDict]
  · have unread : amountOf (Fields.getD r.localDict "cache_read_tokens" .null) = 0 := rfl
    rw [key_promptCachingOpportunity, if_pos unread, promptHash_localDict]

theorem key_cloudDict (codec : Bool) (member : d ∈ promptDetectors) :
    d.key (r.cloudDict codec) = r.promptHash ∨
      0 < r.cacheReadTokens ∧ d.key (r.cloudDict codec) = none := by
  simp only [promptDetectors, List.mem_cons, List.not_mem_nil, or_false] at member
  obtain rfl | rfl := member
  · rw [key_systemPromptWaste, promptHash_cloudDict]
    exact Or.inl rfl
  · have read : amountOf (Fields.getD (r.cloudDict codec) "cache_read_tokens" .null) =
        r.cacheReadTokens := rfl
    rw [key_promptCachingOpportunity, read, promptHash_cloudDict]
    by_cases cached : 0 < r.cacheReadTokens
    · rw [if_neg (by exact_mod_cast cached.ne')]
      exact Or.inr ⟨cached, rfl⟩
    · rw [if_pos (by exact_mod_cast Nat.eq_zero_of_not_pos cached)]
      exact Or.inl rfl

end Facts

/-! ## What is affected -/

section Affected

variable {Row : Type} {key : Row → Option Str} {cost tokens : Row → ℚ} {rows : List Row}
  {digest : Str → Str} {subject : Subject}

/-- Is the request under a hash that is repeated? -/
def repeatedHash (key : Row → Option Str) (rows : List Row) (r : Row) : Bool :=
  (key r).any fun hash => 5 ≤ (usesOf key rows hash).length

theorem flagged_counts (key : Row → Option Str) (cost tokens : Row → ℚ) (rows : List Row) :
    ((((promptUses key cost tokens rows).map Prod.snd).filter
    systemPromptWasteDetector.flags).map PromptUse.count).sum = rows.countP (repeatedHash key rows) := by
  have counts : (((promptUses key cost tokens rows).map Prod.snd).filter
      systemPromptWasteDetector.flags).map PromptUse.count =
      ((rows.filterMap key).dedup.filter fun hash => 5 ≤ (usesOf key rows hash).length).map
        fun hash => (usesOf key rows hash).length := by
    rw [promptUses, List.map_map, List.filter_map, List.map_map]
    rfl
  have lengths : ∀ hash, (usesOf key rows hash).length =
      sumWhere (fun r => decide (key r = some hash)) (fun _ => 1) rows := by
    intro hash
    rw [sumWhere_one]
    rfl
  rw [counts, List.map_congr_left fun hash _ => lengths hash]
  generalize chosen : (rows.filterMap key).dedup.filter
    (fun hash => decide (5 ≤ (usesOf key rows hash).length)) = hashes
  have distinct : (hashes.map some).Nodup := by
    rw [← chosen]
    exact ((List.nodup_dedup _).filter _).map (Option.some_injective _)
  have grouped : ((hashes.map some).map fun hash =>
      sumWhere (fun row => decide (key row = hash)) (fun _ => 1) rows).sum = _ :=
    sum_map_sumWhere distinct (fun _ => 1) rows
  rw [List.map_map] at grouped
  rw [List.countP_eq_length_filter, ← sumWhere_one]
  refine grouped.trans (sumWhere_congr ?_ _)
  intro r member
  cases hashed : key r with
  | none => simp [repeatedHash, hashed]
  | some hash =>
    have there : hash ∈ rows.filterMap key := List.mem_filterMap.mpr ⟨r, member, hashed⟩
    simp only [repeatedHash, hashed, Option.any_some, ← chosen, List.mem_map, Option.some.injEq,
      exists_eq_right, List.mem_filter, List.mem_dedup, there, true_and]
    simp

theorem affectedCount_eq {found : WasteFinding}
    (analysed : systemPromptWasteDetector.analyseOf digest key cost tokens rows subject = some found) :
    found.affectedCount = rows.countP (repeatedHash key rows) := by
  rw [← flagged_counts key cost tokens rows]
  simp only [PromptDetector.analyseOf] at analysed
  split at analysed
  · cases analysed
  · cases analysed
    rfl

theorem found_of_repeated (digest : Str → Str) (subject : Subject) (cost tokens : Row → ℚ)
    {hash : Str} (many : 5 ≤ (usesOf key rows hash).length) :
    ∃ found, systemPromptWasteDetector.analyseOf digest key cost tokens rows subject = some found := by
  simp only [PromptDetector.analyseOf]
  split
  · next nothing =>
    have counted := flagged_counts key cost tokens rows
    rw [nothing] at counted
    obtain ⟨r, member⟩ := List.exists_mem_of_length_pos (Nat.lt_of_lt_of_le (by decide : 0 < 5) many)
    obtain ⟨its, hashed⟩ := List.mem_filter.mp member
    have none := List.countP_eq_zero.mp counted.symm r its
    rw [repeatedHash, of_decide_eq_true hashed, Option.any_some] at none
    exact absurd (decide_eq_true many) none
  · exact ⟨_, rfl⟩

theorem affected_perm {rows' : List Row} (perm : rows.Perm rows') :
    rows.countP (repeatedHash key rows) = rows'.countP (repeatedHash key rows') := by
  have same : repeatedHash key rows = repeatedHash key rows' := by
    have lengths : ∀ hash, (usesOf key rows hash).length = (usesOf key rows' hash).length :=
      fun hash => (perm.filter _).length_eq
    funext r
    rw [repeatedHash, repeatedHash]
    congr 1
    funext hash
    rw [lengths hash]
  rw [same, perm.countP_eq]

/-- One request fewer under a repeated hash is one affected request fewer. -/
theorem affected_less (key : Row → Option Str) (before after : List Row) (r : Row)
    (repeats : repeatedHash key (before ++ r :: after) r = true) :
    (before ++ after).countP (repeatedHash key (before ++ after)) <
      (before ++ r :: after).countP (repeatedHash key (before ++ r :: after)) := by
  have less : (before ++ after).countP (repeatedHash key (before ++ after)) ≤
      (before ++ after).countP (repeatedHash key (before ++ r :: after)) := by
    apply List.countP_mono_left
    intro other _ repeated
    obtain ⟨hash, hashed, many⟩ := (Option.any_eq_true _ _).mp repeated
    refine (Option.any_eq_true _ _).mpr ⟨hash, hashed, ?_⟩
    have shorter : (usesOf key (before ++ after) hash).length ≤
        (usesOf key (before ++ r :: after) hash).length :=
      ((List.sublist_cons_self r after).append_left before).filter _ |>.length_le
    exact decide_eq_true ((of_decide_eq_true many).trans shorter)
  have split : (before ++ r :: after).countP (repeatedHash key (before ++ r :: after)) =
      (before ++ after).countP (repeatedHash key (before ++ r :: after)) + 1 := by
    rw [List.countP_append, List.countP_cons_of_pos repeats, List.countP_append, Nat.add_assoc]
  omega

end Affected

/-! ## Cached requests -/

section CachedTraffic

variable {tools : DetectorTools} {d : PromptDetector}

def bucketOf (rows : List (RequestFact tools.loads)) (subject : Subject) : List (RequestFact tools.loads) :=
  rows.filter fun r => r.subject = subject

/-- The requests of a subject under one hash. -/
def repeatsOf (rows : List (RequestFact tools.loads)) (subject : Subject) (hash : Str) :
    List (RequestFact tools.loads) := usesOf RequestFact.promptHash (bucketOf rows subject) hash

/-- No cached request has a prompt that five requests of its subject have. -/
def CachedUnrepeated (window : List (RequestFact tools.loads)) : Prop :=
  ∀ r ∈ window, 0 < r.cacheReadTokens → ∀ hash, r.promptHash = some hash →
    (repeatsOf window r.subject hash).length < 5

/-- What the two numbers of a finding are, and whose. -/
def amounts (finding : WasteFinding) : Str × Str × Int × ℚ :=
  (finding.subjectType, finding.subjectKey, finding.affectedCount, finding.estimatedWasteUsd)

/-- A cached request changes no number of the local findings, and the cloud finds the same. -/
structure UncachedOnly (ledger : List (RequestFact tools.loads)) (since : Option Str) : Prop where
  uncounted : ∀ before r after, ledger = before ++ r :: after → 0 < r.cacheReadTokens →
    ∀ d ∈ promptDetectors, ∀ requests others, getRequestsForAnalysis ledger since none = some requests →
    getRequestsForAnalysis (before ++ after) since none = some others →
    ((d.run tools requests).map amounts).Perm ((d.run tools others).map amounts)
  inCloud : ∀ d ∈ promptDetectors, ∀ requests, getRequestsForAnalysis ledger since none = some requests →
    ∀ (codec : Bool) (rows : List (RequestFact tools.loads)), rows.Perm (analysisWindow ledger since none) →
    (d.run tools requests).Perm
      (d.run tools (recordsToDetectorDicts tools.loads (rows.map (RequestFact.cloudRow codec))))

theorem analyse_bucket {dict : RequestFact tools.loads → Fields}
    (subjects : ∀ r, tools.subjectOf (dict r) = r.subject)
    (costs : ∀ r, costOf (dict r) = r.costUsd)
    (systemTokens : ∀ r, systemTokensOf (dict r) = r.promptSystemTokens)
    (rows : List (RequestFact tools.loads)) (subject : Subject) :
    d.analyse tools.digest ((rows.map dict).filter fun r => tools.subjectOf r = subject) subject =
      d.analyseOf tools.digest (fun r => d.key (dict r)) RequestFact.costUsd
        (fun r => r.promptSystemTokens) (bucketOf rows subject) subject := by
  have bucket : ((rows.map dict).filter fun r => tools.subjectOf r = subject) =
      (bucketOf rows subject).map dict := by
    rw [List.filter_map, bucketOf]
    simp only [Function.comp_def, subjects]
  rw [bucket, PromptDetector.analyse_map]
  simp only [costs, systemTokens]

theorem analyse_local (member : d ∈ promptDetectors) (rows : List (RequestFact tools.loads))
    (subject : Subject) : d.analyse tools.digest
        ((rows.map RequestFact.localDict).filter fun r => tools.subjectOf r = subject) subject =
      d.analyseOf tools.digest RequestFact.promptHash RequestFact.costUsd
        (fun r => r.promptSystemTokens) (bucketOf rows subject) subject := by
  rw [analyse_bucket subjectOf_localDict (fun _ => rfl) (fun _ => rfl)]
  simp only [key_localDict _ member]

theorem analyse_cloud (codec : Bool) (rows : List (RequestFact tools.loads)) (subject : Subject) :
    d.analyse tools.digest
        ((rows.map (RequestFact.cloudDict codec)).filter fun r => tools.subjectOf r = subject) subject =
      d.analyseOf tools.digest (fun r => d.key (r.cloudDict codec)) RequestFact.costUsd
        (fun r => r.promptSystemTokens) (bucketOf rows subject) subject := by
  apply analyse_bucket (fun r => subjectOf_cloudDict r codec)
  · intro r
    cases codec <;> rfl
  · intro r
    cases codec <;> rfl

theorem run_local_perm {rows rows' : List (RequestFact tools.loads)} (member : d ∈ promptDetectors)
    (same : ∀ subject hash, 5 ≤ (repeatsOf rows subject hash).length ∨
        5 ≤ (repeatsOf rows' subject hash).length →
      (repeatsOf rows subject hash).Perm (repeatsOf rows' subject hash)) :
    (d.run tools (rows.map RequestFact.localDict)).Perm (d.run tools (rows'.map RequestFact.localDict)) := by
  apply PromptDetector.run_perm
  intro subject
  rw [analyse_local member, analyse_local member]
  exact PromptDetector.analyseOf_congr member (same subject)

theorem repeatsOf_perm {rows rows' : List (RequestFact tools.loads)} (perm : rows.Perm rows')
    (subject : Subject) (hash : Str) : (repeatsOf rows subject hash).Perm (repeatsOf rows' subject hash) :=
  (perm.filter _).filter _

theorem analysisWindow_perm (tools : DetectorTools) (since : Option Str) :
    ∃ selected : RequestFact tools.loads → Bool, ∀ ledger : List (RequestFact tools.loads),
      (analysisWindow ledger since none).Perm (ledger.filter selected) := by
  cases since with
  | none =>
    refine ⟨fun _ => true, fun ledger => ?_⟩
    rw [List.filter_true]
    exact List.mergeSort_perm _ _
  | some since =>
    cases since with
    | nil =>
      refine ⟨fun _ => true, fun ledger => ?_⟩
      rw [List.filter_true]
      exact List.mergeSort_perm _ _
    | cons c since => exact ⟨_, fun ledger => List.mergeSort_perm _ _⟩

theorem mem_analysisWindow {ledger : List (RequestFact tools.loads)} {since : Option Str}
    {r : RequestFact tools.loads} (member : r ∈ analysisWindow ledger since none) : r ∈ ledger := by
  obtain ⟨selected, perm⟩ := analysisWindow_perm tools since
  exact List.mem_of_mem_filter ((perm ledger).mem_iff.mp member)

section

variable {ledger : List (RequestFact tools.loads)} {since : Option Str}

/-- The same requests, where no repeated hash of the subject is the one of the request left out. -/
theorem repeatsOf_without {rows before after : List (RequestFact tools.loads)}
    {r : RequestFact tools.loads} (perm : rows.Perm (before ++ r :: after))
    (rare : ∀ hash, r.promptHash = some hash → (repeatsOf rows r.subject hash).length < 5)
    (subject : Subject) (hash : Str)
    (many : 5 ≤ (repeatsOf rows subject hash).length ∨
      5 ≤ (repeatsOf (before ++ after) subject hash).length) :
    (repeatsOf rows subject hash).Perm (repeatsOf (before ++ after) subject hash) := by
  have split := repeatsOf_perm perm subject hash
  have shorter : (repeatsOf (before ++ after) subject hash).length ≤ (repeatsOf rows subject hash).length := by
    rw [split.length_eq]
    exact ((((List.sublist_cons_self r after).append_left before).filter _).filter _).length_le
  have enough : 5 ≤ (repeatsOf rows subject hash).length := many.elim id fun fewer => fewer.trans shorter
  have other : ¬ (r.subject = subject ∧ r.promptHash = some hash) := by
    rintro ⟨rfl, hashed⟩
    exact absurd enough (Nat.not_le.mpr (rare hash hashed))
  have apart : ¬ (decide (r.promptHash = some hash) && decide (r.subject = subject)) = true := by
    simpa only [Bool.and_eq_true, decide_eq_true_eq, and_comm] using other
  refine split.trans (List.Perm.of_eq ?_)
  simp only [repeatsOf, usesOf, bucketOf, List.filter_filter]
  rw [List.filter_append, List.filter_cons, if_neg apart, List.filter_append]

theorem uncounted_of_unrepeated (rare : CachedUnrepeated (analysisWindow ledger since none))
    {before after : List (RequestFact tools.loads)} {r : RequestFact tools.loads}
    (split : ledger = before ++ r :: after) (cached : 0 < r.cacheReadTokens)
    (member : d ∈ promptDetectors) :
    (d.run tools ((analysisWindow ledger since none).map RequestFact.localDict)).Perm
      (d.run tools ((analysisWindow (before ++ after) since none).map RequestFact.localDict)) := by
  obtain ⟨selected, window⟩ := analysisWindow_perm tools since
  have rest := window (before ++ after)
  have whole := window ledger
  rw [List.filter_append] at rest
  rw [split, List.filter_append, List.filter_cons] at whole
  apply run_local_perm member
  intro subject hash many
  rw [← split] at whole
  by_cases inside : selected r = true
  · rw [if_pos inside] at whole
    have there : r ∈ analysisWindow ledger since none :=
      whole.mem_iff.mpr (List.mem_append_right _ List.mem_cons_self)
    have without := repeatsOf_without whole (rare r there cached) subject hash
    have same := repeatsOf_perm rest subject hash
    rw [same.length_eq] at many
    exact (without many).trans same.symm
  · rw [if_neg inside] at whole
    exact repeatsOf_perm (whole.trans rest.symm) subject hash

theorem inCloud_of_unrepeated (rare : CachedUnrepeated (analysisWindow ledger since none))
    (member : d ∈ promptDetectors) (codec : Bool) {rows : List (RequestFact tools.loads)}
    (perm : rows.Perm (analysisWindow ledger since none)) :
    (d.run tools ((analysisWindow ledger since none).map RequestFact.localDict)).Perm
      (d.run tools (rows.map (RequestFact.cloudDict codec))) := by
  apply PromptDetector.run_perm
  intro subject
  rw [analyse_local member, analyse_cloud]
  apply PromptDetector.analyseOf_congr member
  intro hash many
  have same := repeatsOf_perm perm subject hash
  -- the cloud counts some of the requests that the local database counts
  have fewer : (usesOf (fun r => d.key (r.cloudDict codec)) (bucketOf rows subject) hash).length ≤
      (repeatsOf rows subject hash).length := by
    rw [repeatsOf, usesOf, usesOf, ← List.countP_eq_length_filter, ← List.countP_eq_length_filter]
    apply List.countP_mono_left
    intro r _ counted
    obtain key | ⟨_, none⟩ := key_cloudDict r codec member
    · rwa [key] at counted
    · simp [none] at counted
  have enough : 5 ≤ (repeatsOf (analysisWindow ledger since none) subject hash).length := by
    rw [← same.length_eq]
    obtain here | there := many
    · rw [same.length_eq]
      exact here
    · exact there.trans fewer
  refine same.symm.trans (List.Perm.of_eq (List.filter_congr ?_))
  intro r inBucket
  obtain ⟨its, about⟩ := List.mem_filter.mp inBucket
  obtain key | ⟨cached, none⟩ := key_cloudDict r codec member
  · simp only [key]
  · have unhashed : r.promptHash ≠ some hash := by
      intro hashed
      have bound := rare r (perm.mem_iff.mp its) cached hash hashed
      rw [of_decide_eq_true about] at bound
      omega
    simp [none, unhashed]

theorem unrepeated_of_uncounted (uncounted : UncachedOnly ledger since) :
    CachedUnrepeated (analysisWindow ledger since none) := by
  intro r inWindow cached hash hashed
  by_contra rare
  have many := Nat.not_lt.mp rare
  obtain ⟨before, after, split⟩ := List.append_of_mem (mem_analysisWindow inWindow)
  obtain ⟨selected, window⟩ := analysisWindow_perm tools since
  have rest := window (before ++ after)
  have whole := window ledger
  have inside : selected r = true := (List.mem_filter.mp (whole.mem_iff.mp inWindow)).2
  rw [List.filter_append] at rest
  rw [split, List.filter_append, List.filter_cons, if_pos inside, ← split] at whole
  have same := uncounted.uncounted before r after split cached systemPromptWasteDetector
    List.mem_cons_self _ _ (getRequestsForAnalysis_eq _ _ _) (getRequestsForAnalysis_eq _ _ _)
  have isDetector : systemPromptWasteDetector ∈ promptDetectors := List.mem_cons_self
  -- the finding about the subject of the request
  obtain ⟨found, analysed⟩ := found_of_repeated tools.digest r.subject RequestFact.costUsd
    (fun r => (r.promptSystemTokens : ℚ)) many
  have there := PromptDetector.mem_run.mpr
    ⟨r.subject, (analyse_local isDetector _ _).trans analysed⟩
  obtain ⟨other, inOthers, equal⟩ :=
    List.mem_map.mp (same.mem_iff.mp (List.mem_map_of_mem there))
  obtain ⟨subject, analysed'⟩ := PromptDetector.mem_run.mp inOthers
  rw [analyse_local isDetector] at analysed'
  have about := PromptDetector.analyseOf_subject _ _ _ analysed
  have about' := PromptDetector.analyseOf_subject _ _ _ analysed'
  have counts := affectedCount_eq analysed
  have counts' := affectedCount_eq analysed'
  simp only [amounts, Prod.mk.injEq] at equal
  have subjects : subject = r.subject := by
    rw [← about, ← about', equal.1, equal.2.1]
  subst subjects
  have its : bucketOf (before.filter selected ++ r :: after.filter selected) r.subject =
      bucketOf (before.filter selected) r.subject ++ r :: bucketOf (after.filter selected) r.subject := by
    rw [bucketOf, List.filter_append, List.filter_cons, if_pos (decide_eq_true rfl)]
    rfl
  have without : bucketOf (before.filter selected ++ after.filter selected) r.subject =
      bucketOf (before.filter selected) r.subject ++ bucketOf (after.filter selected) r.subject :=
    List.filter_append ..
  have fewer := affected_less RequestFact.promptHash (bucketOf (before.filter selected) r.subject)
    (bucketOf (after.filter selected) r.subject) r (by
      rw [repeatedHash, hashed, Option.any_some, ← its]
      exact decide_eq_true ((repeatsOf_perm whole r.subject hash).length_eq ▸ many))
  rw [← its, ← without] at fewer
  have bucket : (bucketOf (analysisWindow ledger since none) r.subject).Perm
      (bucketOf (before.filter selected ++ r :: after.filter selected) r.subject) := whole.filter _
  have bucket' : (bucketOf (analysisWindow (before ++ after) since none) r.subject).Perm
      (bucketOf (before.filter selected ++ after.filter selected) r.subject) := rest.filter _
  rw [affected_perm bucket] at counts
  rw [affected_perm bucket'] at counts'
  have equalCounts := equal.2.2.1
  rw [counts, counts'] at equalCounts
  exact absurd (by exact_mod_cast equalCounts) (Nat.ne_of_lt fewer)

/-- No detector of repeated prompts claims cached traffic, and the cloud reports what the local
database does, exactly where no cached request has a prompt that is repeated. -/
theorem uncached_only_iff (tools : DetectorTools) (ledger : List (RequestFact tools.loads))
    (since : Option Str) :
    UncachedOnly ledger since ↔ CachedUnrepeated (analysisWindow ledger since none) := by
  constructor
  · exact unrepeated_of_uncounted
  · intro rare
    constructor
    · intro before r after split cached d member requests others read readOthers
      rw [getRequestsForAnalysis_eq] at read readOthers
      cases read
      cases readOthers
      exact (uncounted_of_unrepeated rare split cached member).map amounts
    · intro d member requests read codec rows perm
      rw [getRequestsForAnalysis_eq] at read
      cases read
      rw [recordsToDetectorDicts_eq]
      exact inCloud_of_unrepeated rare member codec perm

end

end CachedTraffic

def plainTools : DetectorTools where
  digest text := text
  loads text := if text = "{}" then some (.obj []) else none
  str
    | .str text => text
    | _ => []

theorem plainTools_loads : plainTools.loads "{}" = some (.obj []) := by
  simp only [plainTools, if_true]

def cachedFact (id : Nat) : RequestFact plainTools.loads where
  id := id
  timestamp := "2026-03-01T00:30:00+00:00"
  provider := "anthropic"
  model := "claude"
  inputTokens := 10
  outputTokens := 10
  costUsd := 1
  tagsText := "{}"
  tags := []
  decodes := plainTools_loads
  systemPromptHash := some ['h']
  cacheReadTokens := 2000
  promptSystemTokens := 2000

def cachedLedger : List (RequestFact plainTools.loads) := (List.range 5).map cachedFact

/-- Requests that read the cache are waste of a prompt that is not cached. -/
theorem cached_traffic_counted :
    ¬ ∀ (tools : DetectorTools) (ledger : List (RequestFact tools.loads)) (since : Option Str),
      UncachedOnly ledger since := by
  intro always
  have rare := unrepeated_of_uncounted (always plainTools cachedLedger none)
  have perm : (analysisWindow cachedLedger none none).Perm cachedLedger := List.mergeSort_perm _ _
  have first : cachedFact 0 ∈ analysisWindow cachedLedger none none :=
    perm.mem_iff.mpr (List.mem_map_of_mem (List.mem_range.mpr (by decide)))
  have few := rare (cachedFact 0) first (by decide) ['h'] rfl
  rw [(repeatsOf_perm perm _ _).length_eq] at few
  have five : (repeatsOf cachedLedger (cachedFact 0).subject ['h']).length = 5 := by decide +kernel
  omega

end BurnLens.Analysis
