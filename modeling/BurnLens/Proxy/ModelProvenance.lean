import BurnLens.Proxy.RequestedModel

/-! # The model that is forwarded

Routing replaces the model of a record without conditions, and the model of a request only where
its rewrites meet the place that the provider reads.  Two laws depend on the difference: the
model that is billed is the one that the provider reads, and a virtual key with a list of models
reaches no other model.
-/

namespace BurnLens.Proxy

open Library Providers

def sentTarget (upstream : Upstream) (env : Env) (provider : Provider) (path : Str) : Option Str :=
  match provider.upstreamBase env.environ with
  | .ok base => upstream.target (base ++ path)
  | .error _ => none

/-- What the provider reads of a path, as it is sent, and a body. -/
def sentModel (upstream : Upstream) (env : Env) (provider : Provider) (path : Str) (body : Body) :
    Option Str :=
  (sentTarget upstream env provider path).bind fun target =>
    upstreamModel upstream provider env.environ target body

def forwardedModel (upstream : Upstream) (env : Env) (provider : Provider) (forwarded : Forwarded) :
    Option Str :=
  (upstream.target forwarded.url).bind fun target =>
    upstreamModel upstream provider env.environ target forwarded.body

def RouteDecision.target (decision : RouteDecision) : Option Str :=
  match decision.downgraded, decision.routedModel with
  | true, .str target => some target
  | _, _ => none

def routingTarget (env : Env) (model : Json) (team customer : Option Str) : Option Str :=
  match env.config with
  | some config => (decideRoute model team customer config env.routerSpend).target
  | none => none

/-- The team that a request is accounted to: that of its virtual key, or else its tag. -/
def requestTeam (env : Env) (headers : Headers) : Option Str :=
  match extractAuthToken headers with
  | some (token, _) =>
    match looksLikeVirtualKey token, env.virtualKey (env.sha256 token) with
    | true, .ok (some key) => some key.team
    | _, _ => extractTags env.environ headers "team"
  | none => extractTags env.environ headers "team"

/-- The model to which the state of the budgets downgrades a request, if it does. -/
def downgradeTarget (env : Env) (provider : Provider) (request : Request) (path : Str) : Option Str :=
  match provider.extractModel env.environ request.body.fields path with
  | .ok extracted =>
    routingTarget env (extracted.orElse (.str "unknown")) (requestTeam env request.headers)
      (extractTags env.environ request.headers "customer")
  | .error _ => none

def RecordedAs (forwarded : Forwarded) (model : Json) : Prop :=
  forwarded.provenance.model = model ∧ forwarded.provenance.routedModel = model

theorem routingTarget_of_sound {model : Json} {decision : RouteDecision}
    (sound : decision.Sound model) :
    (decision.downgraded = false ∧ decision.target = none ∧ decision.routedModel = model) ∨
      ∃ name target, getDowngradeModel name = some target ∧ decision.downgraded = true ∧
        decision.target = some target ∧ decision.routedModel = .str target := by
  obtain ⟨kept, same⟩ | ⟨name, target, -, mapped, downgraded, routed⟩ := sound
  · exact .inl ⟨kept, by simp [RouteDecision.target, kept], same⟩
  · exact .inr ⟨name, target, mapped, downgraded, by simp [RouteDecision.target, downgraded, routed],
      routed⟩

/-- Routing leaves everything as it is, or puts one model into the path, the body and the record. -/
theorem route_cases (env : Env) (provider : Provider) (identified : Identified) (tags : Tags)
    (body : Body) {routed : Routed} (same : routed = route env provider identified tags body) :
    (routingTarget env identified.model (tags "team") (tags "customer") = none ∧
      routed.upstreamPath = identified.upstreamPath ∧ routed.body = body ∧
      routed.model = identified.model ∧
      ∀ decision, routed.decision = some decision → decision.routedModel = identified.model) ∨
    ∃ name target, getDowngradeModel name = some target ∧
      routingTarget env identified.model (tags "team") (tags "customer") = some target ∧
      routed.upstreamPath = provider.rewritePathForRouting identified.upstreamPath target ∧
      routed.body = body.reroute env.dumps (.str target) ∧ routed.model = .str target ∧
      ∀ decision, routed.decision = some decision → decision.routedModel = .str target := by
  subst same
  simp only [route, routingTarget]
  cases env.config with
  | none => exact .inl ⟨rfl, rfl, rfl, rfl, fun decision absent => by cases absent⟩
  | some config =>
    simp only
    have sound := decideRoute_sound identified.model (tags "team") (tags "customer") config
      env.routerSpend
    generalize decideRoute identified.model (tags "team") (tags "customer") config
      env.routerSpend = decision at sound ⊢
    obtain ⟨kept, target, model⟩ | ⟨name, target, mapped, downgraded, targets, model⟩ :=
      routingTarget_of_sound sound
    · rw [kept]
      exact .inl ⟨target, rfl, rfl, rfl, fun other found => by cases found; exact model⟩
    · rw [downgraded, model]
      exact .inr ⟨name, target, mapped, targets, rfl, rfl, rfl,
        fun other found => by cases found; exact model⟩

/-! ## Forwarding -/

theorem labelTags_of_ne {label : Option Str} {tags : Tags} {name : Str} (other : name ≠ "key_label") :
    labelTags label tags name = tags name := by
  cases label with
  | none => rfl
  | some label => exact Tags.set_of_ne tags label other

theorem Tags.setDefault_of_ne (tags : Tags) {tag name : Str} (value : Str) (other : name ≠ tag) :
    tags.setDefault tag value name = tags name :=
  if_neg other

theorem gated_tags {env : Env} {provider : Provider} {identified : Identified} {headers : Headers}
    {gated : Gated} (gate : virtualKeyGate env provider identified headers = .ok gated) :
    gated.tags "team" = requestTeam env headers ∧
      gated.tags "customer" = extractTags env.environ headers "customer" := by
  obtain ⟨accepted, rfl⟩ | ⟨plain, rfl⟩ := virtualKeyGate_ok gate
  · have teamKept : "team".toList ≠ "key_label".toList := by decide
    have customerKept : "customer".toList ≠ "key_label".toList := by decide
    have customerOther : "customer".toList ≠ "team".toList := by decide
    constructor
    · simp only [requestTeam, accepted.picked, accepted.virtual, accepted.found]
      exact (Tags.setDefault_of_ne _ accepted.key.label teamKept).trans (Tags.set_self ..)
    · exact (Tags.setDefault_of_ne _ accepted.key.label customerKept).trans
        (Tags.set_of_ne _ accepted.key.team customerOther)
  · refine ⟨?_, rfl⟩
    simp only [requestTeam]
    split
    · next token name picked => rw [plain token name picked]
    · rfl

theorem sentModel_of_plain {upstream : Upstream} {env : Env} {provider : Provider} {path : Str}
    (plain : sentTarget upstream env provider path = some path) (body : Body) :
    sentModel upstream env provider path body =
      upstreamModel upstream provider env.environ path body := by
  rw [sentModel, plain, Option.bind_some]

theorem forwardedModel_eq {upstream : Upstream} {env : Env} {provider : Provider}
    {forwarded : Forwarded} {path : Str}
    (resolved : provider.resolveUpstreamUrl env.environ path = .ok forwarded.url) :
    forwardedModel upstream env provider forwarded =
      sentModel upstream env provider path forwarded.body := by
  obtain ⟨base, found, same⟩ := bind_eq_ok.mp resolved
  have url : base ++ path = forwarded.url := by injection same
  rw [forwardedModel, sentModel, sentTarget, found, ← url]

theorem forwarded_models (upstream : Upstream) {env : Env} {provider : Provider} {request : Request}
    {forwarded : Forwarded} {path : Str} (stripped : upstreamPath provider request = .ok path)
    (handled : handleRequest env provider request = .ok forwarded) :
    ∃ extracted, provider.extractModel env.environ request.body.fields path = .ok extracted ∧
      ((downgradeTarget env provider request path = none ∧
        RecordedAs forwarded (extracted.orElse (.str "unknown")) ∧
        forwardedModel upstream env provider forwarded =
          sentModel upstream env provider path request.body) ∨
      ∃ name target, getDowngradeModel name = some target ∧
        downgradeTarget env provider request path = some target ∧
        RecordedAs forwarded (.str target) ∧
        forwardedModel upstream env provider forwarded =
          sentModel upstream env provider (provider.rewritePathForRouting path target)
            (request.body.reroute env.dumps (.str target))) := by
  obtain ⟨admitted, passed, resolved, -, body, billed, -, decision⟩ := handleRequest_ok handled
  obtain ⟨identified, gated, found, gate, -, -, -, tags, -, routed⟩ := admitRequest_ok passed
  obtain ⟨samePath, extracted, ok, sameModel⟩ := identify_ok found
  obtain ⟨team, customer⟩ := gated_tags gate
  have samePath : identified.upstreamPath = path := by
    rw [stripped] at samePath; cases samePath; rfl
  rw [samePath] at ok
  have target : downgradeTarget env provider request path =
      routingTarget env identified.model (admitted.tags "team") (admitted.tags "customer") := by
    rw [tags, labelTags_of_ne (by decide), labelTags_of_ne (by decide), team, customer, sameModel]
    simp only [downgradeTarget, ok]
  -- the record takes the model of the route, and the routed model of its decision
  have recorded : ∀ model, admitted.routed.model = model →
      (∀ decision, admitted.routed.decision = some decision → decision.routedModel = model) →
      RecordedAs forwarded model := by
    rintro model rfl decided
    refine ⟨billed, ?_⟩
    simp only [Forwarded.provenance, billed, decision]
    split
    · next chosen found => exact decided chosen found
    · rfl
  refine ⟨extracted, ok, ?_⟩
  rw [target, forwardedModel_eq resolved, body, ← sameModel]
  obtain ⟨kept, newPath, newBody, newModel, decided⟩ |
    ⟨name, cheaper, mapped, downgraded, newPath, newBody, newModel, decided⟩ :=
      route_cases env provider identified admitted.tags request.body routed
  · refine .inl ⟨kept, recorded _ newModel decided, ?_⟩
    rw [newPath, newBody, samePath]
  · refine .inr ⟨name, cheaper, mapped, downgraded, recorded _ newModel decided, ?_⟩
    rw [newPath, newBody, samePath]

/-- Proxy and provider look for the model alike in a path that is sent as it stands; what is sent
    for another one names what the proxy takes from it. -/
def NamedAlike (upstream : Upstream) (env : Env) (provider : Provider) (path : Str) (body : Body) :
    Prop :=
  if sentTarget upstream env provider path = some path then
    ReadsAlike upstream provider env.environ path body
  else ∀ extracted read, provider.extractModel env.environ body.fields path = .ok extracted →
    sentModel upstream env provider path body = some read → extracted.orElse (.str "unknown") = .str read

theorem namedAlike_iff {upstream : Upstream} {env : Env} {provider : Provider} {path : Str} {body : Body}
    {extracted : Json} (rooted : Rooted path)
    (ok : provider.extractModel env.environ body.fields path = .ok extracted) :
    (∀ read, sentModel upstream env provider path body = some read →
      extracted.orElse (.str "unknown") = .str read) ↔ NamedAlike upstream env provider path body := by
  rw [NamedAlike]
  by_cases plain : sentTarget upstream env provider path = some path
  · rw [if_pos plain, sentModel_of_plain plain]
    exact extracted_iff rooted ok
  · rw [if_neg plain]
    constructor
    · intro same other read again reads
      rw [ok] at again
      cases again
      exact same read reads
    · exact fun same read reads => same extracted read ok reads

/-! ## A spent budget -/

def listedKey (allowedModels : List Str) : VirtualKey where
  label := "team-a"
  team := "a"
  provider := "openai"
  upstreamKeyEnv := "OPENAI_KEY"
  allowedModels := allowedModels
  monthlyBudgetUsd := none

/-- A global budget of ten dollars is spent, so that routing downgrades whatever it can. -/
def thriftyConfig : BurnLensConfig where
  alerts := { budgetLimitUsd := some 10 }
  routing := { budgetDowngrade := true }

def spentReads : SpendReads := ⟨fun _ => .ok 0, fun _ => .ok 0, .ok 10⟩

def thriftyEnv (allowedModels : List Str) : Env :=
  { bareEnv thriftyConfig fun _ => [] with
    environ := fun name =>
      if name = "OPENAI_KEY" then some "sk-real"
      else if name = "BURNLENS_AZURE_ENDPOINT" then some "https://acme.openai.azure.com"
      else none
    virtualKey := fun _ => .ok (some (listedKey allowedModels))
    routerSpend := spentReads }

def chatCompletion (model : Str) : Request where
  path := "/proxy/openai/v1/chat/completions"
  query := []
  method := "POST"
  headers := [("authorization", "Bearer bl-sk-a")]
  body := ⟨[], some (.obj [("model", .str model)])⟩

def deploymentCompletion : Request where
  path := "/proxy/azure/openai/deployments/gpt-4o/chat/completions"
  query := "api-version=2024-10-21"
  method := "POST"
  headers := [("api-key", "azure-key")]
  body := ⟨[], some (.obj [("messages", .arr [])])⟩

theorem thrifty_target (team : Option Str) :
    (decideRoute (.str "gpt-4o") team none thriftyConfig spentReads).target =
      some "gpt-4o-mini".toList := by
  have budget : resolveBudget team none thriftyConfig.alerts spentReads = .ok (some (10, 10)) := by
    match team with
    | none => rfl
    | some [] => rfl
    | some (c :: team) => rfl
  have decided : decideRouteInner (.str "gpt-4o") team none thriftyConfig spentReads =
      .ok ⟨.str "gpt-4o", .str "gpt-4o-mini", true, .budgetPct, 0, 0⟩ := by
    rw [decideRouteInner, budget]
    norm_num [thriftyConfig, bind, Except.bind]
    rfl
  rw [decideRoute, decided]
  rfl

theorem chatCompletion_downgraded (allowedModels : List Str) :
    downgradeTarget (thriftyEnv allowedModels) .openai (chatCompletion "gpt-4o")
      "/v1/chat/completions" = some "gpt-4o-mini".toList :=
  thrifty_target _

theorem deploymentCompletion_downgraded :
    downgradeTarget (thriftyEnv []) .azure deploymentCompletion
      "/openai/deployments/gpt-4o/chat/completions?api-version=2024-10-21" =
        some "gpt-4o-mini".toList :=
  thrifty_target _

/-- URLs without dot segments and fragments, and no forms. -/
def plainUpstream : Upstream where
  target url := (afterFirst "://" url).map fun rest => rest.dropWhile (· ≠ '/')
  formModel _ := none

/-! ## Billing -/

def BilledAsForwarded (upstream : Upstream) (env : Env) (provider : Provider) (forwarded : Forwarded) :
    Prop :=
  ∀ read, forwardedModel upstream env provider forwarded = some read → RecordedAs forwarded (.str read)

/-- Without a downgrade, proxy and provider find the same model.  With one, routing reaches the
    model and the target stands for itself, or else the provider reads the target anyway. -/
def BillingFollows (upstream : Upstream) (env : Env) (provider : Provider) (request : Request)
    (path : Str) : Prop :=
  match downgradeTarget env provider request path with
  | none => NamedAlike upstream env provider path request.body
  | some target =>
    if sentTarget upstream env provider (provider.rewritePathForRouting path target) =
        some (provider.rewritePathForRouting path target) then
      if routingReaches provider path request.body then standsFor provider env.environ target = target
      else ∀ read, upstreamModel upstream provider env.environ path request.body = some read →
        read = target
    else ∀ read, sentModel upstream env provider (provider.rewritePathForRouting path target)
      (request.body.reroute env.dumps (.str target)) = some read → read = target

theorem recordedAs_iff {forwarded : Forwarded} {recorded model : Json}
    (as : RecordedAs forwarded recorded) : RecordedAs forwarded model ↔ recorded = model := by
  constructor
  · intro other
    exact as.1.symm.trans other.1
  · rintro rfl
    exact as

def RequestKey (env : Env) (headers : Headers) (key : VirtualKey) : Prop :=
  ∃ token name, extractAuthToken headers = some (token, name) ∧ looksLikeVirtualKey token = true ∧
    env.virtualKey (env.sha256 token) = .ok (some key)

/-- Whatever model the provider reads, the key allows it. -/
def WithinAllowlist (upstream : Upstream) (env : Env) (provider : Provider) (forwarded : Forwarded)
    (key : VirtualKey) : Prop :=
  ∀ read, forwardedModel upstream env provider forwarded = some read → read ∈ key.allowedModels

/-- The request itself stays within the list: the gateway checks the model that the provider
    reads, or that one is listed as well. -/
def RequestListed (upstream : Upstream) (env : Env) (provider : Provider) (request : Request)
    (path : Str) (key : VirtualKey) : Prop :=
  NamedAlike upstream env provider path request.body ∨
    ∀ read, sentModel upstream env provider path request.body = some read → read ∈ key.allowedModels

/-- Where routing changes the model that the provider reads, the target is listed; where it does
    not, the request stays within the list. -/
def TargetListed (upstream : Upstream) (env : Env) (provider : Provider) (request : Request)
    (path : Str) (key : VirtualKey) : Prop :=
  match downgradeTarget env provider request path with
  | none => RequestListed upstream env provider request path key
  | some target =>
    if sentTarget upstream env provider (provider.rewritePathForRouting path target) =
        some (provider.rewritePathForRouting path target) then
      if routingReaches provider path request.body then
        standsFor provider env.environ target ∈ key.allowedModels
      else ReadsAlike upstream provider env.environ path request.body ∨
        ∀ read, upstreamModel upstream provider env.environ path request.body = some read →
          read ∈ key.allowedModels
    else ∀ read, sentModel upstream env provider (provider.rewritePathForRouting path target)
      (request.body.reroute env.dumps (.str target)) = some read → read ∈ key.allowedModels

theorem handled_allowed {env : Env} {provider : Provider} {request : Request}
    {forwarded : Forwarded} {path : Str} {key : VirtualKey} {extracted : Json}
    (presented : RequestKey env request.headers key) (restricted : key.allowedModels ≠ [])
    (stripped : upstreamPath provider request = .ok path)
    (handled : handleRequest env provider request = .ok forwarded)
    (ok : provider.extractModel env.environ request.body.fields path = .ok extracted) :
    modelAllowed (extracted.orElse (.str "unknown")) key.allowedModels = true := by
  obtain ⟨admitted, passed, -⟩ := handleRequest_ok handled
  obtain ⟨identified, gated, found, gate, -⟩ := admitRequest_ok passed
  obtain ⟨samePath, other, same, model⟩ := identify_ok found
  rw [stripped] at samePath
  cases samePath
  rw [ok] at same
  cases same
  obtain ⟨token, name, picked, virtual, resolved⟩ := presented
  -- the gateway looks up the same token, so the key that it accepts is this one
  obtain ⟨accepted, rfl⟩ | ⟨plain, rfl⟩ := virtualKeyGate_ok gate
  · have sameToken := accepted.picked
    have sameKey := accepted.found
    rw [picked] at sameToken
    cases sameToken
    rw [resolved] at sameKey
    cases sameKey
    rw [← model]
    exact accepted.allowed.resolve_left restricted
  · rw [plain token name picked] at virtual
    cases virtual

/-- What is read is listed where it is the model that the gateway has checked, or listed anyway. -/
theorem listed_iff {model : Json} {allowedModels : List Str} {reads : Option Str} {alike : Prop}
    (allowed : modelAllowed model allowedModels = true)
    (checked : (∀ read, reads = some read → model = .str read) ↔ alike) :
    (∀ read, reads = some read → read ∈ allowedModels) ↔
      alike ∨ ∀ read, reads = some read → read ∈ allowedModels := by
  constructor
  · exact .inr
  · rintro (same | listed)
    · intro read found
      rw [checked.mpr same read found] at allowed
      simpa [modelAllowed] using allowed
    · exact listed

end BurnLens.Proxy
