import BurnLens.Proxy.Interceptor

/-! # Exhausted budget policies

The policy check of `handle_request` lets a request through when the engine raises.  For a
priced model under an exhausted policy the engine raises exactly on the bodies that its
estimator cannot walk.
-/

namespace BurnLens.Proxy

open Library Providers Cost Budget

/-- The request reaches the policy check with a priced model, and a policy that applies to it
    is exhausted. -/
def UnderExhaustedPolicy (env : Env) (provider : Provider) (request : Request) : Prop :=
  ∃ config admitted model pricing entry row,
    env.config = some config ∧
      admitRequest env provider request = .ok admitted ∧
      admitted.routed.model = .str model ∧
      resolvePricing env.tables env.today provider.name (.str model) = .ok (some pricing) ∧
      pricing.Positive ∧
      entry ∈ (env.engineReads config).matching config.budgetPolicies (.str model)
        (requestContext env.environ request.headers admitted.tags) ∧
      env.counters (counterKey entry) = some row ∧ entry.1.limitUsd < row.currentSpend

/-- The proxy answers 429 or 403 in the place of the upstream. -/
def Refused (env : Env) (provider : Provider) (request : Request) : Prop :=
  ∃ rejection, handleRequest env provider request = .error (.rejected rejection) ∧
    (rejection.status = 429 ∨ rejection.status = 403)

theorem reroute_estimable (strLength : Json → Nat) (dumps : Json → List UInt8) (body : Body)
    (routedModel : Json) :
    Estimable strLength (body.reroute dumps routedModel).json ↔ Estimable strLength body.json := by
  simp only [Body.reroute]
  split
  · next fields same =>
    split
    · rw [same]; exact estimable_set_model strLength fields routedModel
    · rfl
  · rfl

theorem route_estimable (env : Env) (provider : Provider) (identified : Identified) (tags : Tags)
    (body : Body) (strLength : Json → Nat) :
    Estimable strLength (route env provider identified tags body).body.json ↔
      Estimable strLength body.json := by
  simp only [route]
  split
  · rfl
  · split
    · exact reroute_estimable ..
    · rfl

theorem policies_nonempty {reads : EngineReads} {policies : List BudgetPolicy} {model : Str}
    {context : RequestContext} {entry : PolicyPeriod}
    (applies : entry ∈ reads.matching policies (.str model) context) : policies ≠ [] := by
  rintro rfl
  cases applies

/-- Under an exhausted policy a request is refused exactly where its body can be estimated. -/
theorem exhausted_policy_enforced {env : Env} {provider : Provider} {request : Request}
    (exhausted : UnderExhaustedPolicy env provider request) :
    Refused env provider request ↔ Estimable env.strLength request.body.json := by
  obtain ⟨config, admitted, model, pricing, entry, row, configured, reached, named, priced,
    positive, applies, counted, exceeded⟩ := exhausted
  obtain ⟨identified, gated, -, -, -, -, -, -, -, routed⟩ := admitRequest_ok reached
  -- routing may have replaced the model in the body, which the estimator does not read
  have body : Estimable env.strLength admitted.routed.body.json ↔
      Estimable env.strLength request.body.json := by
    rw [routed]; exact route_estimable ..
  obtain ⟨refuses, raises⟩ := EngineReads.checkAndReserve_exhausted admitted.routed.body.json
    priced positive applies counted exceeded
  have check : checkPolicies env provider request.headers admitted.tags admitted.routed =
      policyOutcome provider (.str model)
        ((env.engineReads config).checkAndReserve config.budgetPolicies provider.name (.str model)
          admitted.routed.body.json (requestContext env.environ request.headers admitted.tags)) := by
    simp only [checkPolicies, configured, if_neg (policies_nonempty applies), named]
  constructor
  · rintro ⟨rejection, refused, -⟩
    by_contra wild
    obtain ⟨error, raised⟩ := raises (fun estimable => wild (body.mp estimable))
    rw [raised] at check
    simp only [handleRequest, reached, check, policyOutcome, bind, Except.bind, pure,
      Except.pure] at refused
    -- an engine that raised leaves only the upstream URL to fail, and that is no refusal
    cases resolved : provider.resolveUpstreamUrl env.environ admitted.routed.upstreamPath <;>
      simp [resolved, unguarded] at refused
  · intro estimable
    obtain ⟨policy, cost, violated⟩ := refuses (body.mpr estimable)
    rw [violated] at check
    refine ⟨.budgetPolicyExceeded policy cost, ?_, .inl rfl⟩
    simp only [handleRequest, reached, check, policyOutcome, bind, Except.bind, reject]

/-! ## A spent policy on fixed bodies -/

def gptPolicy : BudgetPolicy where
  name := "gpt"
  scope := "model"
  target := "gpt-4o"
  limitUsd := 1
  period := "monthly"

def gptRow : PricingRow where
  rates := { inputPerMillion := some (5 / 2), outputPerMillion := some 10 }

def spentEnv : Env :=
  { bareEnv { budgetPolicies := [gptPolicy] } fun _ => [("gpt-4o", gptRow)] with
    counters := fun _ => some ⟨2, 0⟩ }

def chatRequest (content : Json) : Request where
  path := "/proxy/openai/v1/chat/completions"
  query := []
  method := "POST"
  headers := []
  body := ⟨[], some (.obj [("model", .str "gpt-4o"), ("messages", .arr [.obj [("content", content)]])])⟩

theorem chatRequest_exhausted (content : Json) :
    UnderExhaustedPolicy spentEnv .openai (chatRequest content) := by
  refine ⟨_, _, "gpt-4o", gptRow, (gptPolicy, getPeriodStart "monthly" 0), ⟨2, 0⟩, rfl, rfl, rfl, rfl,
    ⟨⟨5 / 2, rfl, by norm_num⟩, ⟨10, rfl, by norm_num⟩, by simp [gptRow], by simp [gptRow]⟩, ?_, rfl, ?_⟩
  · exact List.mem_singleton.mpr rfl
  · norm_num [gptPolicy]

theorem exhausted_policy_enforced_hello : Refused spentEnv .openai (chatRequest (.str "hello")) := by
  refine (exhausted_policy_enforced (chatRequest_exhausted _)).mpr ⟨rfl, ?_, ?_⟩
  · intro chars measured
    cases measured
    exact lt_floatLimit (by decide)
  · intro n limit
    cases limit
    exact_mod_cast lt_floatLimit (show 1000 < 2 ^ 64 by decide)

/-- A text part whose text is null takes the request past the spent policy. -/
theorem null_text_part_forwarded :
    ¬ ∀ env provider request, UnderExhaustedPolicy env provider request →
      Refused env provider request := by
  intro enforced
  obtain ⟨rejection, refused, -⟩ := enforced spentEnv .openai
    (chatRequest (.arr [.obj [("type", .str "text"), ("text", .null)]])) (chatRequest_exhausted _)
  have forwards : ∃ forwarded, handleRequest spentEnv .openai
      (chatRequest (.arr [.obj [("type", .str "text"), ("text", .null)]])) = .ok forwarded :=
    ⟨_, rfl⟩
  obtain ⟨forwarded, handled⟩ := forwards
  rw [handled] at refused
  cases refused

end BurnLens.Proxy
