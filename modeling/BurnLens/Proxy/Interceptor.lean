import BurnLens.Budget.Engine
import BurnLens.Proxy.Headers
import BurnLens.Proxy.Router

/-! # Request interception

`handle_request` up to the call that forwards the request: what it reads of its environment, the
checks in their order, each of which can refuse the request, and the URL, headers, body and
model that go on.  A stage takes what the earlier ones resolved.
-/

namespace BurnLens.Proxy

open Library Providers Cost Budget

/-! ## Requests, and what is read while one is handled -/

/-- A body and what `json.loads` makes of it, nothing where it raises. -/
structure Body where
  bytes : List UInt8
  json : Option Json

/-- `_safe_json`. -/
def Body.fields (body : Body) : Fields :=
  match body.json with
  | some (.obj fields) => fields
  | _ => []

structure Request where
  path : Str
  query : Str
  method : Str
  headers : Headers
  body : Body

/-- A resolved, non-revoked virtual key; no allowed models means all of them. -/
structure VirtualKey where
  label : Str
  team : Str
  provider : Str
  upstreamKeyEnv : Str
  allowedModels : List Str
  monthlyBudgetUsd : Option Usd

structure Env where
  config : Option BurnLensConfig
  customerBudgets : Option CustomerBudgetsConfig
  apiKeyBudgets : Option ApiKeyBudgetsConfig
  environ : Environ
  sha256 : Str → Str
  dumps : Json → List UInt8
  tables : PricingTables
  today : Date
  now : Time
  nextMidnight : Time
  -- `virtual_keys.resolve`
  virtualKey : Str → Except PyError (Option VirtualKey)
  -- `keys.get_label_by_hash`
  keyLabel : Str → Except PyError (Option Str)
  teamSpend : Except PyError (Str → Usd)
  -- today's spend of a label, which the 30-second cache may answer
  keySpendToday : Str → Except PyError Usd
  -- the month's spend of a customer, which the 60-second cache may answer
  customerSpend : Str → Except PyError Usd
  routerSpend : SpendReads
  strLength : Json → Nat
  counters : Counters
  recorded : BudgetPolicy → Time → Usd
  -- does the semantic cache hold an answer
  cacheHit : Bool

namespace Env

variable (env : Env)

/-- `config is None or config.block_unpriced_models`. -/
def blocksUnpriced : Bool :=
  match env.config with
  | some config => config.blockUnpricedModels
  | none => true

def engineReads (config : BurnLensConfig) : EngineReads where
  tables := env.tables
  today := env.today
  strLength := env.strLength
  blockUnpricedModels := config.blockUnpricedModels
  now := env.now
  counters := env.counters
  recorded := env.recorded

end Env

/-! ## Refusals -/

inductive UnenforceableBudget where
  | virtualKeyMonthly
  | dailyCap (label : Str)
  | customer (customer : Str)
  | policy

inductive Rejection where
  | gatewayError
  | invalidVirtualKey
  | providerMismatch (expected : Str)
  | modelNotAllowed (model : Json) (allowedModels : List Str)
  | unpricedModelBlocked (provider : Str) (model : Json) (budget : UnenforceableBudget)
  | teamBudgetExceeded (team : Str) (spent limit : Usd)
  | gatewayMisconfigured
  | dailyBudgetExceeded (key : Str) (spentToday dailyLimit : Usd) (resetsAt : Time)
  | budgetExceeded (customer : Str) (spent limit : Usd)
  | budgetPolicyExceeded (violated : BudgetPolicy) (estimatedCostUsd : Flt)

namespace Rejection

def status : Rejection → Nat
  | gatewayError | gatewayMisconfigured => 503
  | invalidVirtualKey => 401
  | providerMismatch _ | modelNotAllowed _ _ | unpricedModelBlocked _ _ _ => 403
  | teamBudgetExceeded _ _ _ | dailyBudgetExceeded _ _ _ _ | budgetExceeded _ _ _ |
    budgetPolicyExceeded _ _ => 429

def error : Rejection → Str
  | gatewayError => "gateway_error"
  | invalidVirtualKey => "invalid_virtual_key"
  | providerMismatch _ => "provider_mismatch"
  | modelNotAllowed _ _ => "model_not_allowed"
  | unpricedModelBlocked _ _ _ => "unpriced_model_blocked"
  | teamBudgetExceeded _ _ _ => "team_budget_exceeded"
  | gatewayMisconfigured => "gateway_misconfigured"
  | dailyBudgetExceeded _ _ _ _ => "daily_budget_exceeded"
  | budgetExceeded _ _ _ => "budget_exceeded"
  | budgetPolicyExceeded _ _ => "budget_policy_exceeded"

end Rejection

inductive Stop where
  | rejected (rejection : Rejection)
  | answeredFromCache
  | raised (error : PyError)

/-- A call that is not guarded: its exception ends the request. -/
def unguarded {α : Type} : Except PyError α → Except Stop α
  | .ok value => .ok value
  | .error error => .error (.raised error)

def reject {α : Type} (rejection : Rejection) : Except Stop α := .error (.rejected rejection)

def stripProxyPrefix (path : Str) (provider : Provider) : Except PyError Str :=
  let rest := path.drop provider.config.proxyPath.length
  if rest = [] ∨ startsWith "/" rest then .ok rest else .error .valueError

structure Identified where
  upstreamPath : Str
  model : Json
  unpriced : Bool

def upstreamPath (provider : Provider) (request : Request) : Except PyError Str := do
  let rest ← stripProxyPrefix request.path provider
  return if request.query = [] then rest else rest ++ '?' :: request.query

def unpricedVerdict (env : Env) (provider : Provider) (model : Json) : Except Stop Bool := do
  if env.blocksUnpriced then
    let priced ← unguarded (isModelPriced env.tables env.today provider.name model)
    return !priced
  else return false

def identify (env : Env) (provider : Provider) (request : Request) : Except Stop Identified := do
  let path ← unguarded (upstreamPath provider request)
  let extracted ← unguarded (provider.extractModel env.environ request.body.fields path)
  let model := extracted.orElse (.str "unknown")
  let unpriced ← unpricedVerdict env provider model
  return ⟨path, model, unpriced⟩

/-! ## Virtual keys and key labels -/

def looksLikeVirtualKey (token : Str) : Bool := startsWith "bl-sk-" token

/-- `model in vk.allowed_models`. -/
def modelAllowed (model : Json) (allowedModels : List Str) : Bool :=
  match model with
  | .str model => model ∈ allowedModels
  | _ => false

structure Gated where
  -- the header to swap and the operator's real key
  swap : Option (Str × Str)
  tags : Tags

/-- The team's monthly budget; a failed lookup of its spend counts as no spend. -/
def checkTeamBudget (env : Env) (provider : Provider) (identified : Identified)
    (key : VirtualKey) : Except Stop Unit :=
  match key.monthlyBudgetUsd with
  | some limit =>
    if identified.unpriced then
      reject (.unpricedModelBlocked provider.name identified.model .virtualKeyMonthly)
    else
      let spent := match env.teamSpend with
        | .ok spend => spend key.team
        | .error _ => 0
      if limit ≤ spent then reject (.teamBudgetExceeded key.team spent limit) else pure ()
  | none => pure ()

def upstreamKey (env : Env) (key : VirtualKey) : Except Stop Str :=
  match env.environ key.upstreamKeyEnv with
  | none | some [] => reject .gatewayMisconfigured
  | some realKey => pure realKey

def checkVirtualKey (env : Env) (provider : Provider) (identified : Identified)
    (key : VirtualKey) : Except Stop Str :=
  if key.provider ≠ provider.name then reject (.providerMismatch key.provider)
  else if key.allowedModels ≠ [] ∧ !modelAllowed identified.model key.allowedModels then
    reject (.modelNotAllowed identified.model key.allowedModels)
  else do
    checkTeamBudget env provider identified key
    upstreamKey env key

def virtualKeyGate (env : Env) (provider : Provider) (identified : Identified)
    (headers : Headers) : Except Stop Gated := do
  let tags := extractTags env.environ headers
  match extractAuthToken headers with
  | some (token, header) =>
    if looksLikeVirtualKey token then
      match env.virtualKey (env.sha256 token) with
      | .error _ => reject .gatewayError
      | .ok none => reject .invalidVirtualKey
      | .ok (some key) =>
        let realKey ← checkVirtualKey env provider identified key
        return ⟨some (header, realKey), (tags.set "team" key.team).setDefault "key_label" key.label⟩
    else return ⟨none, tags⟩
  | none => return ⟨none, tags⟩

/-- The label of the API key; a failed lookup is no label, and an empty one is none. -/
def keyLabel (env : Env) (headers : Headers) : Option Str :=
  match extractApiKeyHash env.sha256 headers with
  | some hash =>
    match env.keyLabel hash with
    | .ok (some []) => none
    | .ok label => label
    | .error _ => none
  | none => none

def labelTags (label : Option Str) (tags : Tags) : Tags :=
  match label with
  | some label => tags.set "key_label" label
  | none => tags

def checkDailyCap (env : Env) (provider : Provider) (identified : Identified)
    (label : Option Str) : Except Stop Unit :=
  match label, env.apiKeyBudgets with
  | some label, some budgets =>
    match budgets.dailyCapFor label with
    | some cap =>
      if identified.unpriced then
        reject (.unpricedModelBlocked provider.name identified.model (.dailyCap label))
      else
        match env.keySpendToday label with
        | .ok spent =>
          if cap ≤ spent then reject (.dailyBudgetExceeded label spent cap env.nextMidnight)
          else pure ()
        | .error _ => pure ()
    | none => pure ()
  | _, _ => pure ()

def customerBudgetLimit (customer : Str) (budgets : CustomerBudgetsConfig) : Option Usd :=
  (budgets.customers.lookup customer).or budgets.default

def checkCustomerBudget (env : Env) (provider : Provider) (identified : Identified)
    (tags : Tags) : Except Stop Unit :=
  match tags "customer", env.customerBudgets with
  | some (c :: customer), some budgets =>
    match customerBudgetLimit (c :: customer) budgets with
    | some limit =>
      if identified.unpriced then
        reject (.unpricedModelBlocked provider.name identified.model (.customer (c :: customer)))
      else
        match env.customerSpend (c :: customer) with
        | .ok spent =>
          if spent < limit then pure () else reject (.budgetExceeded (c :: customer) spent limit)
        | .error _ => pure ()
    | none => pure ()
  | _, _ => pure ()

/-! ## Headers, cache and routing -/

def forwardedHeaders (headers : Headers) (swap : Option (Str × Str)) : Headers :=
  match swap with
  | some (name, realKey) => swapHeader (cleanRequestHeaders headers) name realKey
  | none => cleanRequestHeaders headers

/-- `_request_is_cacheable`: no explicit temperature above 0. -/
def requestIsCacheable (body : Body) : Bool :=
  match body.fields.getD "temperature" .null with
  | .int n => n ≤ 0
  | .float x => !x.exceeds 0
  | _ => true

/-- `headers.get("cache-control") or headers.get("Cache-Control") or ""`. -/
def cacheControl (headers : Headers) : Str :=
  match headers.lookup ("cache-control" : Str) with
  | none | some [] => (headers.lookup ("Cache-Control" : Str)).getD []
  | some value => value

def cacheBypass (request : Request) : Bool :=
  contains "no-cache" (cacheControl request.headers) ||
    contains "no-store" (cacheControl request.headers) ||
    contains "nocache=true" request.query || contains "nocache=1" request.query

def checkCache (env : Env) (request : Request) : Except Stop Unit :=
  match env.config with
  | some config =>
    if config.cacheEnabled && !cacheBypass request && request.method.map Char.toUpper == "POST".toList &&
        requestIsCacheable request.body && env.cacheHit then .error .answeredFromCache
    else pure ()
  | none => pure ()

/-- The body with the routed model, where it is a JSON object that names one. -/
def Body.reroute (dumps : Json → List UInt8) (body : Body) (routedModel : Json) : Body :=
  match body.json with
  | some (.obj fields) =>
    if Fields.has fields "model" then
      let rerouted := Json.obj (Fields.set fields "model" routedModel)
      ⟨dumps rerouted, some rerouted⟩
    else body
  | _ => body

structure Routed where
  upstreamPath : Str
  body : Body
  model : Json
  decision : Option RouteDecision

def reroutePath (provider : Provider) (path : Str) : Json → Str
  | .str routedModel => provider.rewritePathForRouting path routedModel
  | _ => path

def route (env : Env) (provider : Provider) (identified : Identified) (tags : Tags)
    (body : Body) : Routed :=
  match env.config with
  | none => ⟨identified.upstreamPath, body, identified.model, none⟩
  | some config =>
    let decision := decideRoute identified.model (tags "team") (tags "customer") config
      env.routerSpend
    if decision.downgraded then
      ⟨reroutePath provider identified.upstreamPath decision.routedModel,
        body.reroute env.dumps decision.routedModel, decision.routedModel, some decision⟩
    else ⟨identified.upstreamPath, body, identified.model, some decision⟩

/-- `a or b or ...` on optional strings. -/
def firstNonempty : List (Option Str) → Option Str
  | [] => none
  | some (c :: value) :: _ => some (c :: value)
  | _ :: values => firstNonempty values

/-- The attributes that policies match on, as `_resolve_canonical_metadata` finds them. -/
def requestContext (environ : Environ) (headers : Headers) (tags : Tags) : RequestContext where
  orgId := firstNonempty [lowerGet headers "x-burnlens-org-id", tags "org_id",
    environ "BURNLENS_ORG_ID", environ "BURNLENS_TAG_ORG_ID"]
  team := firstNonempty [tags "team", environ "BURNLENS_TAG_TEAM"]
  appId := firstNonempty [lowerGet headers "x-burnlens-app-id", tags "app_id",
    environ "BURNLENS_APP_ID", environ "BURNLENS_TAG_APP_ID"]
  customer := tags "customer"

structure Reservation where
  estimatedCost : Flt
  policies : List PolicyPeriod

/-- What the proxy makes of the check; an exception is caught and the request goes on. -/
def policyOutcome (provider : Provider) (model : Json) :
    Except PyError CheckResult → Except Stop (Option Reservation)
  | .ok (.allowed estimatedCost policies) => pure (some ⟨estimatedCost, policies⟩)
  | .ok .unpriced => reject (.unpricedModelBlocked provider.name model .policy)
  | .ok (.violated policy estimatedCost) => reject (.budgetPolicyExceeded policy estimatedCost)
  | .error _ => pure none

def checkPolicies (env : Env) (provider : Provider) (headers : Headers) (tags : Tags)
    (routed : Routed) : Except Stop (Option Reservation) :=
  match env.config with
  | none => pure none
  | some config =>
    if config.budgetPolicies = [] then pure none
    else
      policyOutcome provider routed.model <|
        (env.engineReads config).checkAndReserve config.budgetPolicies provider.name routed.model
          routed.body.json (requestContext env.environ headers tags)

/-! ## The request -/

structure Admitted where
  requestedModel : Json
  tags : Tags
  label : Option Str
  headers : Headers
  streaming : Bool
  routed : Routed

def admitRequest (env : Env) (provider : Provider) (request : Request) : Except Stop Admitted := do
  let identified ← identify env provider request
  let gated ← virtualKeyGate env provider identified request.headers
  let label := keyLabel env request.headers
  let tags := labelTags label gated.tags
  checkDailyCap env provider identified label
  checkCustomerBudget env provider identified tags
  checkCache env request
  return {
    requestedModel := identified.model
    tags
    label
    headers := forwardedHeaders request.headers gated.swap
    streaming := provider.isStreaming request.body.fields identified.upstreamPath
    routed := route env provider identified tags request.body }

structure Forwarded where
  url : Str
  method : Str
  headers : Headers
  body : Body
  model : Json
  requestedModel : Json
  tags : Tags
  streaming : Bool
  decision : Option RouteDecision
  reservation : Option Reservation

/-- `handle_request` up to the call of `_handle_streaming` or `_handle_non_streaming`. -/
def handleRequest (env : Env) (provider : Provider) (request : Request) : Except Stop Forwarded := do
  let admitted ← admitRequest env provider request
  let reservation ← checkPolicies env provider request.headers admitted.tags admitted.routed
  let url ← unguarded (provider.resolveUpstreamUrl env.environ admitted.routed.upstreamPath)
  return {
    url
    method := request.method
    headers := admitted.headers
    body := admitted.routed.body
    model := admitted.routed.model
    requestedModel := admitted.requestedModel
    tags := admitted.tags
    streaming := admitted.streaming
    decision := admitted.routed.decision
    reservation }

/-- The models of the request record, as `_apply_model_provenance` sets them. -/
structure Provenance where
  model : Json
  requestedModel : Json
  routedModel : Json
  downgradeReason : Option RouteReason

def Forwarded.provenance (forwarded : Forwarded) : Provenance where
  model := forwarded.model
  requestedModel := forwarded.requestedModel
  routedModel :=
    match forwarded.decision with
    | some decision => decision.routedModel
    | none => forwarded.model
  downgradeReason :=
    match forwarded.decision with
    | some decision => if decision.downgraded then some decision.reason else none
    | none => none

def bareEnv (config : BurnLensConfig) (tables : PricingTables) : Env where
  config := some config
  customerBudgets := some config.alerts.customerBudgets
  apiKeyBudgets := none
  environ _ := none
  sha256 := id
  dumps _ := []
  tables := tables
  today := 0
  now := 0
  nextMidnight := 0
  virtualKey _ := .ok none
  keyLabel _ := .ok none
  teamSpend := .ok fun _ => 0
  keySpendToday _ := .ok 0
  customerSpend _ := .ok 0
  routerSpend := ⟨fun _ => .ok 0, fun _ => .ok 0, .ok 0⟩
  strLength _ := 0
  counters _ := none
  recorded _ _ := 0
  cacheHit := false

/-! ## What a forwarded request went through -/

theorem unguarded_eq_ok {α : Type} {x : Except PyError α} {a : α} :
    unguarded x = .ok a ↔ x = .ok a := by
  cases x <;> simp [unguarded]

theorem identify_ok {env : Env} {provider : Provider} {request : Request} {identified : Identified}
    (resolved : identify env provider request = .ok identified) :
    upstreamPath provider request = .ok identified.upstreamPath ∧
      ∃ extracted, provider.extractModel env.environ request.body.fields identified.upstreamPath =
        .ok extracted ∧ identified.model = extracted.orElse (.str "unknown") := by
  simp only [identify, bind_eq_ok, unguarded_eq_ok] at resolved
  obtain ⟨path, stripped, extracted, found, unpriced, -, same⟩ := resolved
  cases same
  exact ⟨stripped, extracted, found, rfl⟩

theorem upstreamKey_ok {env : Env} {key : VirtualKey} {realKey : Str}
    (found : upstreamKey env key = .ok realKey) : env.environ key.upstreamKeyEnv = some realKey := by
  simp only [upstreamKey, reject] at found
  split at found
  · cases found
  · cases found
  · next real => cases found; exact real

theorem checkVirtualKey_ok {env : Env} {provider : Provider} {identified : Identified}
    {key : VirtualKey} {realKey : Str}
    (passed : checkVirtualKey env provider identified key = .ok realKey) :
    key.provider = provider.name ∧
      (key.allowedModels = [] ∨ modelAllowed identified.model key.allowedModels = true) ∧
      env.environ key.upstreamKeyEnv = some realKey := by
  simp only [checkVirtualKey] at passed
  split at passed
  · cases passed
  · next sameProvider =>
    split at passed
    · cases passed
    · next allowed =>
      obtain ⟨⟨⟩, -, found⟩ := bind_eq_ok.mp passed
      refine ⟨not_not.mp sameProvider, ?_, upstreamKey_ok found⟩
      -- an empty list restricts nothing
      by_cases unrestricted : key.allowedModels = []
      · exact .inl unrestricted
      · simp only [unrestricted, ne_eq, not_false_eq_true, true_and] at allowed
        exact .inr (by simpa using allowed)

structure AcceptedKey (env : Env) (provider : Provider) (model : Json) (headers : Headers) where
  token : Str
  name : Str
  key : VirtualKey
  realKey : Str
  picked : extractAuthToken headers = some (token, name)
  virtual : looksLikeVirtualKey token = true
  found : env.virtualKey (env.sha256 token) = .ok (some key)
  sameProvider : key.provider = provider.name
  allowed : key.allowedModels = [] ∨ modelAllowed model key.allowedModels = true
  real : env.environ key.upstreamKeyEnv = some realKey

def NoVirtualKey (headers : Headers) : Prop :=
  ∀ token name, extractAuthToken headers = some (token, name) → looksLikeVirtualKey token = false

theorem virtualKeyGate_ok {env : Env} {provider : Provider} {identified : Identified}
    {headers : Headers} {gated : Gated}
    (gate : virtualKeyGate env provider identified headers = .ok gated) :
    (∃ accepted : AcceptedKey env provider identified.model headers,
      gated = ⟨some (accepted.name, accepted.realKey),
        ((extractTags env.environ headers).set "team" accepted.key.team).setDefault "key_label"
          accepted.key.label⟩) ∨
      (NoVirtualKey headers ∧ gated = ⟨none, extractTags env.environ headers⟩) := by
  simp only [virtualKeyGate] at gate
  split at gate
  · next token name picked =>
    split at gate
    · next virtual =>
      split at gate
      · cases gate
      · cases gate
      · next key found =>
        obtain ⟨realKey, passed, same⟩ := bind_eq_ok.mp gate
        cases same
        obtain ⟨sameProvider, allowed, real⟩ := checkVirtualKey_ok passed
        exact .inl ⟨⟨token, name, key, realKey, picked, virtual, found, sameProvider, allowed,
          real⟩, rfl⟩
    · next plain =>
      cases gate
      refine .inr ⟨fun token' name' same => ?_, rfl⟩
      rw [picked] at same
      cases same
      simpa using plain
  · next absent =>
    cases gate
    refine .inr ⟨fun token name same => ?_, rfl⟩
    rw [absent] at same
    cases same

/-- The stages that an admitted request passed, and what each of them left. -/
theorem admitRequest_ok {env : Env} {provider : Provider} {request : Request} {admitted : Admitted}
    (passed : admitRequest env provider request = .ok admitted) :
    ∃ identified gated, identify env provider request = .ok identified ∧
      virtualKeyGate env provider identified request.headers = .ok gated ∧
      checkDailyCap env provider identified (keyLabel env request.headers) = .ok () ∧
      admitted.requestedModel = identified.model ∧
      admitted.label = keyLabel env request.headers ∧
      admitted.tags = labelTags (keyLabel env request.headers) gated.tags ∧
      admitted.headers = forwardedHeaders request.headers gated.swap ∧
      admitted.routed = route env provider identified admitted.tags request.body := by
  simp only [admitRequest, bind_eq_ok] at passed
  obtain ⟨identified, resolved, gated, gate, ⟨⟩, cap, ⟨⟩, -, ⟨⟩, -, same⟩ := passed
  cases same
  exact ⟨identified, gated, resolved, gate, cap, rfl, rfl, rfl, rfl, rfl⟩

theorem handleRequest_ok {env : Env} {provider : Provider} {request : Request}
    {forwarded : Forwarded} (handled : handleRequest env provider request = .ok forwarded) :
    ∃ admitted, admitRequest env provider request = .ok admitted ∧
      provider.resolveUpstreamUrl env.environ admitted.routed.upstreamPath = .ok forwarded.url ∧
      forwarded.headers = admitted.headers ∧ forwarded.body = admitted.routed.body ∧
      forwarded.model = admitted.routed.model ∧ forwarded.tags = admitted.tags ∧
      forwarded.decision = admitted.routed.decision := by
  simp only [handleRequest, bind_eq_ok, unguarded_eq_ok] at handled
  obtain ⟨admitted, passed, reservation, -, url, resolved, same⟩ := handled
  cases same
  exact ⟨admitted, passed, resolved, rfl, rfl, rfl, rfl, rfl⟩

end BurnLens.Proxy
