import BurnLens.Budget.Reservation
import BurnLens.Cost.Calculator

/-! # Estimates and the policy check of one request

`estimate_request_tokens` walks a request body of any shape and raises on some of them.
`check_and_reserve` is the check of a request that no other one interleaves with; the steps
between which others run are those of the reservation machine.
-/

namespace BurnLens.Budget

open Library Providers Cost

/-! ## The estimator -/

def sumChars (measure : Json → Except PyError Nat) : List Json → Except PyError Nat
  | [] => .ok 0
  | item :: items => do return (← measure item) + (← sumChars measure items)

/-- `if isinstance(part, dict) and "text" in part: len(part["text"])`. -/
def partChars : Json → Except PyError Nat
  | .obj part =>
    match Fields.get? part "text" with
    | some text => text.len
    | none => .ok 0
  | _ => .ok 0

def listChars (measure : Json → Except PyError Nat) : Json → Except PyError Nat
  | .arr items => sumChars measure items
  | _ => .ok 0

def partsChars : Json → Except PyError Nat := listChars partChars

def contentChars : Json → Except PyError Nat
  | .str text => .ok text.length
  | content => partsChars content

def messageChars : Json → Except PyError Nat
  | .obj message => contentChars (Fields.getD message "content" .null)
  | _ => .ok 0

def itemChars : Json → Except PyError Nat
  | .obj item => partsChars (Fields.getD item "parts" .null)
  | _ => .ok 0

/-- `strLength` is `len(str(x))`. -/
def promptChars (strLength : Json → Nat) : Json → Nat
  | .str prompt => prompt.length
  | .arr items => (items.map strLength).sum
  | _ => 0

def inputChars (strLength : Json → Nat) (data : Fields) : Except PyError Nat := do
  let messages ← listChars messageChars (data.getD "messages" .null)
  let system ← contentChars (data.getD "system" .null)
  let contents ← listChars itemChars (data.getD "contents" .null)
  return messages + system + contents + promptChars strLength (data.getD "prompt" .null)

def inputEstimate (chars : Nat) : Nat := if 0 < chars then max 10 (chars / 4) else 100

/-- The output limit of the request, where it is a truthy integer; `True` is one. -/
def outputEstimate (data : Fields) : Json :=
  match (data.getD "max_tokens" .null).orElse (data.getD "max_completion_tokens" .null) with
  | .int n => if n = 0 then .int 1000 else .int n
  | .bool true => .bool true
  | _ => .int 1000

/-- `estimate_request_tokens`; `body` is what `json.loads` makes of the bytes, and nothing where
    it raises. -/
def estimateRequestTokens (strLength : Json → Nat) (body : Option Json) :
    Except PyError (Nat × Json) :=
  match body with
  | none => .ok (100, .int 1000)
  | some data => do
    let data ← data.dict
    let chars ← inputChars strLength data
    return (inputEstimate chars, outputEstimate data)

/-! ## The check -/

structure EngineReads where
  tables : PricingTables
  today : Date
  strLength : Json → Nat
  blockUnpricedModels : Bool
  now : Time
  counters : Counters
  -- `_calculate_initial_spend`
  recorded : BudgetPolicy → Time → Usd

inductive CheckResult where
  | allowed (estimatedCost : Flt) (policies : List PolicyPeriod)
  | unpriced
  | violated (policy : BudgetPolicy) (estimatedCost : Flt)

namespace EngineReads

variable (reads : EngineReads)

def estimateCost (provider : Str) (model : Json) (body : Option Json) : Except PyError Flt := do
  let tokens ← estimateRequestTokens reads.strLength body
  calculateCost reads.tables reads.today provider model
    { inputTokens := .int tokens.1, outputTokens := tokens.2 }

/-- The policies that apply.  A model that is no string is compared with `"*"` only. -/
def matching (policies : List BudgetPolicy) (model : Json) (context : RequestContext) :
    List PolicyPeriod :=
  match model with
  | .str model => matchingPolicies policies model context reads.now
  | model =>
    (policies.filter fun policy : BudgetPolicy =>
      if policy.scope = ("model" : Str) then model.truthy && policy.target == ("*" : Str)
      else matchesPolicy policy [] context).map
      fun policy => (policy, getPeriodStart policy.period reads.now)

/-- The first policy whose counter and the estimate exceed its limit.  A missing counter is
    created with the recorded spend, and read by later policies of the same name. -/
def firstViolated (estimatedCost : Flt) (counters : Counters) : List PolicyPeriod → Option BudgetPolicy
  | [] => none
  | entry :: rest =>
    match counters (counterKey entry) with
    | some row =>
      if ((Flt.fin row.currentSpend).add estimatedCost).exceeds entry.1.limitUsd then some entry.1
      else firstViolated estimatedCost counters rest
    | none =>
      let initial := reads.recorded entry.1 entry.2
      if ((Flt.fin initial).add estimatedCost).exceeds entry.1.limitUsd then some entry.1
      else firstViolated estimatedCost (insertOrIgnore counters (counterKey entry) initial) rest

def checkAndReserve (policies : List BudgetPolicy) (provider : Str) (model : Json)
    (body : Option Json) (context : RequestContext) : Except PyError CheckResult := do
  let estimatedCost ← reads.estimateCost provider model body
  match reads.matching policies model context with
  | [] => return .allowed estimatedCost []
  | entry :: rest =>
    if estimatedCost.atMost 0 then
      -- costed at zero: unenforceable where that is for want of a price
      if reads.blockUnpricedModels then
        if ← isModelPriced reads.tables reads.today provider model then return .allowed (.fin 0) []
        else return .unpriced
      else return .allowed (.fin 0) []
    else
      match reads.firstViolated estimatedCost reads.counters (entry :: rest) with
      | some policy => return .violated policy estimatedCost
      | none => return .allowed estimatedCost (entry :: rest)

end EngineReads

/-! ## Bodies that can be estimated -/

def measurablePart : Json → Bool
  | .obj part =>
    match Fields.get? part "text" with
    | some text => text.len.isOk
    | none => true
  | _ => true

def measurableList (measurable : Json → Bool) : Json → Bool
  | .arr items => items.all measurable
  | _ => true

def measurableMessage : Json → Bool
  | .obj message => measurableList measurablePart (Fields.getD message "content" .null)
  | _ => true

def measurableItem : Json → Bool
  | .obj item => measurableList measurablePart (Fields.getD item "parts" .null)
  | _ => true

def measurableTexts (data : Fields) : Bool :=
  measurableList measurableMessage (data.getD "messages" .null) &&
    measurableList measurablePart (data.getD "system" .null) &&
    measurableList measurableItem (data.getD "contents" .null)

/-- The body is no JSON; or it is a JSON object whose text can be measured, and neither its
    text nor its output limit is too large for a float. -/
def Estimable (strLength : Json → Nat) : Option Json → Prop
  | none => True
  | some (.obj data) =>
    measurableTexts data = true ∧
      (∀ chars, inputChars strLength data = .ok chars → inputEstimate chars < floatLimit) ∧
      ∀ n : Int, outputEstimate data = .int n → n < floatLimit
  | some _ => False

theorem sumChars_ok {measure : Json → Except PyError Nat} {items : List Json} :
    (sumChars measure items).isOk = items.all fun item => (measure item).isOk := by
  induction items with
  | nil => rfl
  | cons item items inductionHypothesis =>
    rw [List.all_cons, ← inductionHypothesis, sumChars]
    cases measure item with
    | error error => rfl
    | ok chars => cases sumChars measure items <;> rfl

theorem partChars_isOk (part : Json) : (partChars part).isOk = measurablePart part := by
  cases part with
  | obj part =>
    simp only [partChars, measurablePart]
    cases Fields.get? part "text" <;> rfl
  | _ => rfl

theorem listChars_isOk {measure : Json → Except PyError Nat} {measurable : Json → Bool}
    (same : ∀ item, (measure item).isOk = measurable item) (value : Json) :
    (listChars measure value).isOk = measurableList measurable value := by
  cases value with
  | arr items => simp only [listChars, measurableList, sumChars_ok, same]
  | _ => rfl

theorem partsChars_isOk (value : Json) :
    (partsChars value).isOk = measurableList measurablePart value :=
  listChars_isOk partChars_isOk value

theorem contentChars_isOk (content : Json) :
    (contentChars content).isOk = measurableList measurablePart content := by
  cases content with
  | str text => rfl
  | _ => exact partsChars_isOk _

theorem messageChars_isOk (message : Json) :
    (messageChars message).isOk = measurableMessage message := by
  cases message with
  | obj message => exact contentChars_isOk _
  | _ => rfl

theorem itemChars_isOk (item : Json) : (itemChars item).isOk = measurableItem item := by
  cases item with
  | obj item => exact partsChars_isOk _
  | _ => rfl

theorem inputChars_isOk (strLength : Json → Nat) (data : Fields) :
    (inputChars strLength data).isOk = measurableTexts data := by
  rw [measurableTexts, ← listChars_isOk messageChars_isOk, ← contentChars_isOk,
    ← listChars_isOk itemChars_isOk, inputChars]
  cases listChars messageChars (Fields.getD data "messages" .null) with
  | error error => rfl
  | ok messages =>
    cases contentChars (Fields.getD data "system" .null) with
    | error error => rfl
    | ok system => cases listChars itemChars (Fields.getD data "contents" .null) <;> rfl

theorem estimable_set_model (strLength : Json → Nat) (data : Fields) (model : Json) :
    Estimable strLength (some (.obj (data.set "model" model))) ↔
      Estimable strLength (some (.obj data)) := by
  have kept : ∀ key default, key ≠ ("model" : Str) →
      (data.set "model" model).getD key default = data.getD key default := by
    intro key default distinct
    rw [Fields.getD, Fields.getD, Fields.get?_set_of_ne data model distinct]
  have texts : measurableTexts (data.set "model" model) = measurableTexts data := by
    simp only [measurableTexts]
    rw [kept "messages" _ (by decide), kept "system" _ (by decide), kept "contents" _ (by decide)]
  have chars : inputChars strLength (data.set "model" model) = inputChars strLength data := by
    simp only [inputChars]
    rw [kept "messages" _ (by decide), kept "system" _ (by decide), kept "contents" _ (by decide),
      kept "prompt" _ (by decide)]
  have output : outputEstimate (data.set "model" model) = outputEstimate data := by
    simp only [outputEstimate]
    rw [kept "max_tokens" _ (by decide), kept "max_completion_tokens" _ (by decide)]
  simp only [Estimable, texts, chars, output]

/-! ## The estimate of a priced model -/

theorem outputEstimate_kind (data : Fields) :
    outputEstimate data = .bool true ∨ ∃ n, outputEstimate data = .int n := by
  simp only [outputEstimate]
  split
  · split <;> exact .inr ⟨_, rfl⟩
  · exact .inl rfl
  · exact .inr ⟨_, rfl⟩

def billedOutput : Json → Int
  | .int n => max 0 n
  | _ => 1

def estimatedUsage (input : Nat) (output : Json) : TokenUsage :=
  { inputTokens := .int input, outputTokens := output }

theorem billableInput_estimate (provider : Str) (input : Nat) (output : Json) :
    billableInput provider (estimatedUsage input output) = .ok (.int input) := by
  have same : max 0 ((input : Int) - 0 - 0) = input := by omega
  cases cached : includesCache provider <;>
  · simp only [billableInput, estimatedUsage, cached, Json.number, Number.sub, bind, Except.bind,
      pure, Except.pure, if_true, Bool.false_eq_true, if_false, Number.max0_int]
    rw [same]

theorem billableOutput_estimate (input : Nat) {output : Json}
    (kind : output = .bool true ∨ ∃ n, output = .int n) :
    billableOutput (estimatedUsage input output) = .ok (.int (billedOutput output)) := by
  obtain rfl | ⟨n, rfl⟩ := kind
  · rfl
  · simp only [billableOutput, estimatedUsage, Json.number, Number.sub, bind, Except.bind,
      pure, Except.pure, Number.max0_int, sub_zero, billedOutput]

theorem billable_estimate {provider : Str} {input : Nat} {output : Json}
    (kind : output = .bool true ∨ ∃ n, output = .int n) :
    Billable provider (estimatedUsage input output) ↔
      input < floatLimit ∧ ∀ n : Int, output = .int n → n < floatLimit := by
  have positive := lt_floatLimit (show 1 < 2 ^ 64 by omega)
  have zero : countable (Json.number (.int 0)) = true := by
    simp only [Json.number, countable, Number.fits_int]; omega
  -- `max(0, n)` takes a negative limit away, so only a large one overflows
  have outputFits : countable (billableOutput (estimatedUsage input output)) = true ↔
      ∀ n : Int, output = .int n → n < floatLimit := by
    rw [billableOutput_estimate input kind, countable, Number.fits_int]
    obtain rfl | ⟨n, rfl⟩ := kind
    · simp only [billedOutput]
      constructor
      · intro _ n impossible
        cases impossible
      · intro _
        omega
    · simp only [billedOutput, Json.int.injEq, forall_eq']
      omega
  constructor
  · intro billable
    refine ⟨?_, outputFits.mp billable.output⟩
    have fits := billable.input
    rw [billableInput_estimate, countable, Number.fits_int] at fits
    omega
  · rintro ⟨inputSmall, outputSmall⟩
    refine ⟨?_, outputFits.mpr outputSmall, zero, zero, zero, zero, zero, by simp [estimatedUsage]⟩
    rw [billableInput_estimate, countable, Number.fits_int]
    omega

theorem perMillion_int {n : Int} {rate : Option ℚ} (small : n.natAbs < floatLimit) :
    perMillion (.ok (.int n)) rate = .ok (.fin (n * rate.getD 0 * (1 / 1000000))) := by
  simp only [perMillion, Number.times, Number.toFloat_int small, bind, Except.bind, pure, Except.pure,
    Flt.scale]

theorem perMillion_zero (rate : Option ℚ) : perMillion (Json.number (.int 0)) rate = .ok (.fin 0) := by
  have positive := lt_floatLimit (show 0 < 2 ^ 64 by omega)
  rw [Json.number, perMillion_int (by simpa using positive)]
  simp

theorem costAt_estimate_pos {provider : Str} {rates : Rates} {input : Nat} {output : Json}
    {inputRate outputRate : ℚ} (kind : output = .bool true ∨ ∃ n, output = .int n)
    (nonempty : 0 < input) (inputPriced : rates.inputPerMillion = some inputRate)
    (inputPositive : 0 < inputRate) (outputPriced : rates.outputPerMillion = some outputRate)
    (outputPositive : 0 < outputRate) {cost : Flt}
    (summed : costAt provider rates (estimatedUsage input output) = .ok cost) :
    ∃ x, cost = .fin x ∧ 0 < x := by
  have billable := costAt_ok.mp ⟨cost, summed⟩
  have inputFits := billable.input
  have outputFits := billable.output
  rw [billableInput_estimate, countable, Number.fits_int] at inputFits
  rw [billableOutput_estimate input kind, countable, Number.fits_int] at outputFits
  have billed : 0 ≤ billedOutput output := by
    obtain rfl | ⟨n, rfl⟩ := kind
    · decide
    · exact le_max_left 0 n
  rw [costAt, billableInput_estimate, billableOutput_estimate input kind, perMillion_int inputFits,
    perMillion_int outputFits] at summed
  simp only [estimatedUsage, perMillion_zero, unitsCost, bind, Except.bind, pure, Except.pure,
    Flt.add, Except.ok.injEq, inputPriced, outputPriced, Option.getD_some] at summed
  refine ⟨_, summed.symm, ?_⟩
  -- the input alone costs something, and the output costs no less than nothing
  have inputCost : 0 < ((input : Int) : ℚ) * inputRate * (1 / 1000000) := by positivity
  have outputCost : 0 ≤ (billedOutput output : ℚ) * outputRate * (1 / 1000000) := by positivity
  linarith

namespace EngineReads

variable {reads : EngineReads}

theorem estimateRequestTokens_kind {strLength : Json → Nat} {body : Option Json} {input : Nat}
    {output : Json} (estimated : estimateRequestTokens strLength body = .ok (input, output)) :
    0 < input ∧ (output = .bool true ∨ ∃ n, output = .int n) := by
  cases body with
  | none => cases estimated; exact ⟨by decide, .inr ⟨1000, rfl⟩⟩
  | some data =>
    simp only [estimateRequestTokens, bind_eq_ok] at estimated
    obtain ⟨data, -, chars, -, same⟩ := estimated
    cases same
    refine ⟨?_, outputEstimate_kind data⟩
    simp only [inputEstimate]
    split <;> omega

theorem estimateCost_ok {provider model : Str} {pricing : PricingRow}
    (priced : resolvePricing reads.tables reads.today provider (.str model) = .ok (some pricing))
    (body : Option Json) :
    (∃ cost, reads.estimateCost provider (.str model) body = .ok cost) ↔
      Estimable reads.strLength body := by
  -- whatever the estimate is, computing its cost only fails where a count overflows
  have billed : ∀ input output, (output = .bool true ∨ ∃ n, output = .int n) →
      ((∃ cost, calculateCost reads.tables reads.today provider (.str model)
        (estimatedUsage input output) = .ok cost) ↔
        input < floatLimit ∧ ∀ n : Int, output = .int n → n < floatLimit) := by
    intro input output kind
    rw [calculateCost_ok, priced]
    simp only [Except.ok.injEq, Option.some.injEq, forall_eq']
    exact billable_estimate kind
  cases body with
  | none =>
    have small := lt_floatLimit (show 1000 < 2 ^ 64 by omega)
    refine ⟨fun _ => trivial, fun _ => (billed 100 (.int 1000) (.inr ⟨1000, rfl⟩)).mpr ⟨?_, ?_⟩⟩
    · omega
    · rintro n same; cases same; omega
  | some data =>
    cases data with
    | obj data =>
      rw [Estimable, ← inputChars_isOk reads.strLength]
      simp only [estimateCost, estimateRequestTokens, Json.dict, bind, Except.bind]
      cases inputChars reads.strLength data with
      | error error => simp [Except.isOk, Except.toBool]
      | ok chars =>
        simp only [Except.ok.injEq, forall_eq']
        exact (billed _ _ (outputEstimate_kind data)).trans (by simp [Except.isOk, Except.toBool])
    | _ =>
      -- a JSON body that is no object has no `get`
      constructor
      · rintro ⟨cost, estimated⟩; cases estimated
      · rintro ⟨⟩

theorem estimateCost_pos {provider model : Str} {pricing : PricingRow} {body : Option Json}
    {cost : Flt}
    (priced : resolvePricing reads.tables reads.today provider (.str model) = .ok (some pricing))
    (positive : pricing.Positive)
    (estimated : reads.estimateCost provider (.str model) body = .ok cost) :
    ∃ x, cost = .fin x ∧ 0 < x := by
  simp only [estimateCost, bind_eq_ok] at estimated
  obtain ⟨⟨input, output⟩, tokens, calculated⟩ := estimated
  obtain ⟨nonempty, kind⟩ := estimateRequestTokens_kind tokens
  simp only [calculateCost, priced, bind_eq_ok, Except.ok.injEq, exists_eq_left'] at calculated
  obtain ⟨rates, applied, summed⟩ := calculated
  obtain ⟨⟨inputRate, inputPriced, inputPositive⟩, outputRate, outputPriced, outputPositive⟩ :=
    positive.effective applied
  exact costAt_estimate_pos kind nonempty inputPriced inputPositive outputPriced outputPositive summed

theorem firstViolated_of_exhausted {x : ℚ} (positive : 0 < x) {counters : Counters} {row : Row}
    {entry : PolicyPeriod} (counted : counters (counterKey entry) = some row)
    (exhausted : entry.1.limitUsd < row.currentSpend) {entries : List PolicyPeriod}
    (member : entry ∈ entries) :
    ∃ policy, reads.firstViolated (.fin x) counters entries = some policy := by
  induction entries generalizing counters with
  | nil => cases member
  | cons first rest inductionHypothesis =>
    simp only [firstViolated]
    cases List.mem_cons.mp member with
    | inl same =>
      have exceeded : ((Flt.fin row.currentSpend).add (.fin x)).exceeds entry.1.limitUsd = true := by
        simp only [Flt.add, Flt.exceeds, decide_eq_true_eq]; linarith
      subst same
      exact ⟨entry.1, by rw [counted]; exact if_pos exceeded⟩
    | inr member =>
      split
      · split
        · exact ⟨_, rfl⟩
        · exact inductionHypothesis counted member
      · next absent =>
        split
        · exact ⟨_, rfl⟩
        · -- the row that is created here is another one
          refine inductionHypothesis ?_ member
          simp only [insertOrIgnore, absent]
          rw [Function.update_of_ne _]
          · exact counted
          · intro same
            rw [← same, counted] at absent
            cases absent

/-- Against an exhausted counter of a policy that applies, a priced request is refused exactly
    where its body can be estimated; elsewhere the check raises. -/
theorem checkAndReserve_exhausted {provider model : Str} {pricing : PricingRow}
    {policies : List BudgetPolicy} {context : RequestContext} {entry : PolicyPeriod} {row : Row}
    (body : Option Json)
    (priced : resolvePricing reads.tables reads.today provider (.str model) = .ok (some pricing))
    (positive : pricing.Positive)
    (applies : entry ∈ reads.matching policies (.str model) context)
    (counted : reads.counters (counterKey entry) = some row)
    (exhausted : entry.1.limitUsd < row.currentSpend) :
    (Estimable reads.strLength body →
      ∃ policy cost, reads.checkAndReserve policies provider (.str model) body context =
        .ok (.violated policy cost)) ∧
    (¬ Estimable reads.strLength body →
      ∃ error, reads.checkAndReserve policies provider (.str model) body context = .error error) := by
  rw [← estimateCost_ok priced]
  constructor
  · rintro ⟨cost, estimated⟩
    obtain ⟨x, rfl, costs⟩ := estimateCost_pos priced positive estimated
    obtain ⟨policy, violated⟩ := reads.firstViolated_of_exhausted costs counted exhausted applies
    refine ⟨policy, .fin x, ?_⟩
    -- a positive cost skips the branch for free requests
    have notFree : (Flt.fin x).atMost 0 = false := by simpa [Flt.atMost] using costs
    simp only [checkAndReserve, estimated, bind, Except.bind, notFree]
    cases entries : reads.matching policies (.str model) context with
    | nil => rw [entries] at applies; cases applies
    | cons first rest =>
      rw [entries] at violated
      simp only [violated]
      rfl
  · intro raises
    cases estimated : reads.estimateCost provider (.str model) body with
    | ok cost => exact absurd ⟨cost, estimated⟩ raises
    | error error => exact ⟨error, by simp only [checkAndReserve, estimated]; rfl⟩

end EngineReads

end BurnLens.Budget
