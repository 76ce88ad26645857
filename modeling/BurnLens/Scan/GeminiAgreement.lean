import BurnLens.Cost.Counts
import BurnLens.Proxy.Accounting
import BurnLens.Proxy.UsageAgreement
import BurnLens.Scan.Importer
import Mathlib.Algebra.Order.Field.Rat
import Mathlib.Tactic.Ring

/-! # Gemini through the proxy and in the session log

The proxy reads the prompt and the candidates of an answer; the session log has the cached tokens
and the thoughts as well.  The two costs are the same where these come to the same amount.
-/

namespace BurnLens.Scan

open Library Cost

/-- What a turn used. -/
structure GeminiTurn where
  prompt : Nat
  cached : Nat
  candidates : Nat
  thoughts : Nat
  within : cached ≤ prompt
  counted : 0 < candidates + thoughts + prompt

namespace GeminiTurn

variable (turn : GeminiTurn)

/-- The counts in the `usageMetadata` of an answer. -/
structure Reported (metadata : Fields) : Prop where
  prompt : metadata.get? "promptTokenCount" = some (.int turn.prompt)
  cached : metadata.get? "cachedContentTokenCount" = some (.int turn.cached)
  candidates : metadata.get? "candidatesTokenCount" = some (.int turn.candidates)
  thoughts : metadata.get? "thoughtsTokenCount" = some (.int turn.thoughts)

/-- A stream of the answer: its lines show integers, and it ends with the counts of the turn. -/
structure Streamed {loads : Str → Option Json} (report : Proxy.GenerateReport loads) : Prop where
  reported : turn.Reported report.u
  integers : ∀ metadata ∈ report.chunks.flatten.flatMap Proxy.GooglePart.shown,
    ∀ name ∈ Proxy.googleNames, ∃ n : Nat, metadata.getD name (.int 0) = .int n

/-- The counts in a message of the session log. -/
structure Logged (model : Str) (msg : Fields) : Prop where
  tokens : ∃ tokens : Fields, msg.get? "tokens" = some (.obj tokens) ∧
    tokens.get? "input" = some (.int turn.prompt) ∧
    tokens.get? "cached" = some (.int turn.cached) ∧
    tokens.get? "output" = some (.int turn.candidates) ∧
    tokens.get? "thoughts" = some (.int turn.thoughts)
  model : msg.get? "model" = some (.str model)
  timestamp : checkTimestamp (get msg "timestamp") = .ok ()

def proxied : TokenCounts := { input := turn.prompt, output := turn.candidates }

def scanned : TokenCounts :=
  { input := turn.prompt, output := turn.candidates, reasoning := turn.thoughts
    cacheRead := turn.cached }

/-- The thoughts cost what the cached tokens save, and the counts can be billed on both sides or on
    neither. -/
def CostsAlike (pricing : PricingRow) : Prop :=
  let rates := pricing.ratesAt turn.prompt
  (turn.proxied.Fits true ↔ turn.scanned.Fits true) ∧
    (turn.proxied.Fits true → turn.thoughts * rates.of .reasoning =
      turn.cached * (rates.of .textInput - rates.of .cacheRead))

/-- What the lines of a stream show costs as much as what it ends with. -/
def ShownAlike (pricing : PricingRow) (shown : TokenCounts) : Prop :=
  (turn.proxied.Fits true ↔ shown.Fits true) ∧
    (turn.proxied.Fits true → shown.cost true (pricing.ratesAt shown.input) =
      turn.proxied.cost true (pricing.ratesAt turn.prompt))

end GeminiTurn

def countOf : Json → Nat
  | .int n => n.toNat
  | _ => 0

/-- The counts that the lines of a stream show. -/
def shownCounts {loads : Str → Option Json} (report : Proxy.GenerateReport loads) : TokenCounts where
  input := countOf (report.shownCount "promptTokenCount")
  output := countOf (report.shownCount "candidatesTokenCount")

/-- The cost of a message that is scanned alone. -/
def Importer.messageCost (w : Importer) (today : Date) (sessionId : Str) (turnOrdinal : Nat)
    (msg : Fields) : Except PyError (Option Flt) := do
  match ← geminiMessage w.python sessionId turnOrdinal msg with
  | none => return none
  | some b => return some (← w.price today .gemini [] b).1

/-! ## The two costs -/

section

variable {w : Importer} {today : Date} {model sessionId : Str} {turnOrdinal : Nat} {msg : Fields}
  {turn : GeminiTurn} {pricing : PricingRow}

theorem count_int {py : Python} {fields : Fields} {name : Str} {n : Nat}
    (found : fields.get? name = some (.int n)) : py.count fields name = .ok n := by
  rw [Python.count, Fields.getD, found]
  cases n <;> rfl

theorem geminiMessage_logged (w : Importer) (sessionId : Str) (turnOrdinal : Nat) (named : model ≠ [])
    (logged : turn.Logged model msg) :
    ∃ b : Billable, geminiMessage w.python sessionId turnOrdinal msg = .ok (some b) ∧
      b.model = .str model ∧ b.usage = turn.scanned.usage := by
  obtain ⟨tokens, its, input, cached, output, thoughts⟩ := logged.tokens
  have object : get msg "tokens" = .obj tokens := by rw [get, Fields.getD, its]; rfl
  have text : get msg "model" = .str model := by rw [get, Fields.getD, logged.model]; rfl
  have truthy : (Json.str model).truthy = true := by
    cases model with
    | nil => exact absurd rfl named
    | cons c model => rfl
  have some_ : ¬ (turn.prompt : Int) + turn.candidates + turn.thoughts = 0 := by
    have counted := turn.counted
    omega
  rw [geminiMessage, object]
  simp only [text, truthy, Bool.not_true, Bool.false_eq_true, if_false, count_int input, count_int cached,
    count_int output, count_int thoughts, bind, Except.bind, if_neg some_, logged.timestamp]
  exact ⟨_, rfl, rfl, rfl⟩

theorem messageCost_logged (named : model ≠ []) (logged : turn.Logged model msg) :
    w.messageCost today sessionId turnOrdinal msg =
      (calculateCost w.tables today "google" (.str model) turn.scanned.usage).map some := by
  obtain ⟨b, read, its, usage⟩ := geminiMessage_logged w sessionId turnOrdinal named logged
  have provider : Tool.gemini.provider = "google" := rfl
  simp only [Importer.messageCost, read, Importer.price, its, Importer.calculate, usage, provider,
    bind, Except.bind, List.not_mem_nil, if_false]
  cases calculateCost w.tables today "google" (.str model) turn.scanned.usage <;> rfl

theorem extractUsage_reported {response u : Fields} (reported : turn.Reported u)
    (body : response.get? "usageMetadata" = some (.obj u)) :
    extractUsage .google (.obj response) = .ok turn.proxied.usage := by
  have object : response.getD "usageMetadata" .null = .obj u := by rw [Fields.getD, body]; rfl
  have prompt : u.getD "promptTokenCount" (.int 0) = .int turn.prompt := by
    rw [Fields.getD, reported.prompt]
    rfl
  have candidates : u.getD "candidatesTokenCount" (.int 0) = .int turn.candidates := by
    rw [Fields.getD, reported.candidates]
    rfl
  have dict : dictOrEmpty (.obj u) = .ok u := by cases u <;> rfl
  simp only [extractUsage, extractUsageGoogle, Json.dict, object, dict, bind, Except.bind, prompt,
    candidates]
  rfl

/-- The cost of the scan is that of the proxy where the two amounts are the same. -/
theorem costs_alike_iff
    (resolved : resolvePricing w.tables today "google" (.str model) = .ok (some pricing)) :
    calculateCost w.tables today "google" (.str model) turn.proxied.usage =
        calculateCost w.tables today "google" (.str model) turn.scanned.usage ↔
      turn.CostsAlike pricing := by
  have inclusive : includesCache "google" = true := rfl
  rw [calculateCost_usage resolved, calculateCost_usage resolved, inclusive, GeminiTurn.CostsAlike]
  have cost : turn.scanned.cost true (pricing.ratesAt turn.prompt) =
      turn.proxied.cost true (pricing.ratesAt turn.prompt) +
        (turn.thoughts * (pricing.ratesAt turn.prompt).of .reasoning -
          turn.cached * ((pricing.ratesAt turn.prompt).of .textInput -
            (pricing.ratesAt turn.prompt).of .cacheRead)) / 1000000 := by
    have uncached : ((turn.prompt - turn.cached : Nat) : ℚ) = turn.prompt - turn.cached :=
      Nat.cast_sub turn.within
    simp only [TokenCounts.cost, TokenClass.all, GeminiTurn.scanned, GeminiTurn.proxied,
      TokenCounts.charged, TokenCounts.cachedInPrompt, if_true, Nat.sub_zero, uncached,
      List.map_cons, List.map_nil, List.sum_cons, List.sum_nil, Nat.cast_zero]
    ring
  have same : (turn.scanned.cost true (pricing.ratesAt turn.prompt) =
      turn.proxied.cost true (pricing.ratesAt turn.prompt)) ↔
      turn.thoughts * (pricing.ratesAt turn.prompt).of .reasoning =
        turn.cached * ((pricing.ratesAt turn.prompt).of .textInput -
          (pricing.ratesAt turn.prompt).of .cacheRead) := by
    rw [cost, add_eq_left, div_eq_zero_iff, sub_eq_zero]
    norm_num
  have input : turn.scanned.input = turn.proxied.input := rfl
  rw [input]
  by_cases proxied : turn.proxied.Fits true
  · by_cases scanned : turn.scanned.Fits true
    · rw [if_pos proxied, if_pos scanned, Except.ok.injEq, Flt.fin.injEq, eq_comm]
      exact same.trans
        ⟨fun alike => ⟨iff_of_true proxied scanned, fun _ => alike⟩, fun alike => alike.2 proxied⟩
    · simp [proxied, scanned]
  · by_cases scanned : turn.scanned.Fits true <;> simp [proxied, scanned]

theorem shown_alike_iff {shown : TokenCounts}
    (resolved : resolvePricing w.tables today "google" (.str model) = .ok (some pricing)) :
    calculateCost w.tables today "google" (.str model) shown.usage =
        calculateCost w.tables today "google" (.str model) turn.proxied.usage ↔
      turn.ShownAlike pricing shown := by
  have inclusive : includesCache "google" = true := rfl
  have input : turn.proxied.input = turn.prompt := rfl
  rw [calculateCost_usage resolved, calculateCost_usage resolved, inclusive, GeminiTurn.ShownAlike,
    input]
  by_cases proxied : turn.proxied.Fits true
  · by_cases fits : shown.Fits true <;> simp [proxied, fits]
  · by_cases fits : shown.Fits true <;> simp [proxied, fits]

/-- The counts that a stream shows are what is extracted from it. -/
theorem extracted_shown {loads : Str → Option Json} {report : Proxy.GenerateReport loads}
    (streamed : turn.Streamed report) :
    Proxy.extractUsageFromStream loads .google report.usageChunks = (shownCounts report).usage := by
  have count : ∀ name ∈ Proxy.googleNames,
      report.shownCount name = .int (countOf (report.shownCount name)) := by
    intro name listed
    rw [Proxy.GenerateReport.shownCount]
    cases last : ((report.chunks.flatten.flatMap Proxy.GooglePart.shown).filter
        Proxy.isCounted).getLast? with
    | none => rfl
    | some metadata =>
      have shown := List.mem_of_mem_filter (List.mem_of_getLast? last)
      obtain ⟨n, its⟩ := streamed.integers metadata shown name listed
      rw [Option.elim_some, its]
      rfl
  rw [report.streamed, count _ (.head _), count _ (.tail _ (.head _))]
  rfl

end

/-- What `_handle_non_streaming` records as the cost of an answer. -/
def answeredCost (w : Importer) (today : Date) (model : Str) (eventId : Str)
    (response : Proxy.UpstreamResponse) : Except PyError Flt := do
  return (← Proxy.handleNonStreaming w.tables today .google model eventId response).2.costUsd

/-- The cost of the usage that is extracted from the chunks of a stream. -/
def streamedCost (w : Importer) (today : Date) (model : Str) (usageChunks : List Str) :
    Except PyError Flt :=
  calculateCost w.tables today "google" (.str model)
    (Proxy.extractUsageFromStream w.python.loads .google usageChunks)

/-- The same cost in the proxy, streamed and not, and in the scan. -/
structure SameCost (w : Importer) (today : Date) (model : Str)
    (report : Proxy.GenerateReport w.python.loads) (msg : Fields) : Prop where
  answered : ∀ eventId (response : Proxy.UpstreamResponse) sessionId turnOrdinal,
    response.json = some (.obj report.response) →
      (answeredCost w today model eventId response).map some =
        w.messageCost today sessionId turnOrdinal msg
  streamed : ∀ sessionId turnOrdinal,
    (streamedCost w today model report.usageChunks).map some =
      w.messageCost today sessionId turnOrdinal msg

def thoughtful : GeminiTurn where
  prompt := 100
  cached := 0
  candidates := 10
  thoughts := 50
  within := by decide
  counted := by decide

def flashRow : PricingRow where
  rates := { inputPerMillion := some (3 / 10), outputPerMillion := some (5 / 2) }

def flashMetadata : Fields :=
  [("promptTokenCount", .int 100), ("cachedContentTokenCount", .int 0),
    ("candidatesTokenCount", .int 10), ("thoughtsTokenCount", .int 50)]

@[irreducible] def flashText : Str :=
  "\x7b\"usageMetadata\":\x7b" ++ "\"promptTokenCount\":100," ++
    "\"cachedContentTokenCount\":0," ++ "\"candidatesTokenCount\":10," ++
    "\"thoughtsTokenCount\":50\x7d\x7d"

theorem flashText_plain : (∀ c ∈ flashText, isLineBreak c = false) ∧ strip flashText = flashText ∧
    flashText ≠ [] ∧ flashText ≠ "[DONE]" := by
  have unbroken : (flashText.all fun c => !isLineBreak c) = true := by decide +kernel
  refine ⟨fun c member => ?_, by decide +kernel, by decide +kernel, by decide +kernel⟩
  exact (Bool.not_eq_true' _).mp (List.all_eq_true.mp unbroken c member)

def flashLoads (text : Str) : Option Json :=
  if text = flashText then some (.obj [("usageMetadata", .obj flashMetadata)]) else none

theorem flashLoads_text :
    flashLoads flashText = some (.obj [("usageMetadata", .obj flashMetadata)]) :=
  if_pos rfl

def flashImporter : Importer where
  python :=
    { loads := flashLoads
      str := fun _ => []
      parseInt := fun _ => none
      empty := ⟨if_neg (Ne.symm flashText_plain.2.2.1), rfl⟩ }
  tables key := if key = "google" then [("gemini-2.5-flash", flashRow)] else []
  uuid7 i := List.replicate i '0'
  fresh := zeros_injective

def flashMessage : Fields :=
  [("type", .str "gemini"), ("model", .str "gemini-2.5-flash"),
    ("tokens", .obj [("input", .int 100), ("output", .int 10), ("cached", .int 0),
      ("thoughts", .int 50)])]

theorem flash_decoded : flashImporter.python.loads flashText =
    some (.obj [("usageMetadata", .obj flashMetadata)]) := flashLoads_text

def flashLine : Proxy.JsonLine flashImporter.python.loads where
  label := "data: "
  text := flashText
  trail := ['\r']
  data := .obj [("usageMetadata", .obj flashMetadata)]
  labelled := .inl rfl
  decoded := flash_decoded
  unbroken := flashText_plain.1
  trimmed := flashText_plain.2.1
  filled := flashText_plain.2.2.1
  notDone := flashText_plain.2.2.2
  blank := fun c member => by
    rw [List.mem_singleton.mp member]
    decide

/-- The answer, and the one event of its stream. -/
def flashReport : Proxy.GenerateReport flashImporter.python.loads where
  chunks := [[.line flashLine (some flashMetadata) (.usage _ _ rfl)]]
  u := flashMetadata
  last := rfl
  response := [("usageMetadata", .obj flashMetadata)]
  body := rfl

theorem thoughtful_streamed : thoughtful.Streamed flashReport where
  reported := ⟨rfl, rfl, rfl, rfl⟩
  integers metadata member name listed := by
    obtain rfl : metadata = flashMetadata := List.mem_singleton.mp member
    obtain rfl | other := List.mem_cons.mp listed
    · exact ⟨100, rfl⟩
    · rw [List.mem_singleton.mp other]
      exact ⟨10, rfl⟩

theorem thoughtful_logged : thoughtful.Logged "gemini-2.5-flash" flashMessage :=
  ⟨⟨_, rfl, rfl, rfl, rfl, rfl⟩, rfl, rfl⟩

theorem flash_resolved : resolvePricing flashImporter.tables 0 "google" (.str "gemini-2.5-flash") =
    .ok (some flashRow) := rfl

end BurnLens.Scan
