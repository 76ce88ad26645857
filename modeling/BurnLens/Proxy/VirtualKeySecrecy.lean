import BurnLens.Proxy.Interceptor

/-! # Virtual keys in forwarded headers

The gateway swaps a virtual key in one header, the first recognised auth header that is not
blank, and forwards the others as they came.
-/

namespace BurnLens.Proxy

open Library Providers

def carriesVirtualKey (value : Str) : Bool := contains "bl-sk-" value

def isAuthHeader (provider : Provider) (name : Str) : Bool :=
  lower name ∈ authHeaders || lower name == lower provider.config.authHeader

def HoldsVirtualKey (headers : Headers) : Prop :=
  ∃ header ∈ headers, lower header.1 ∈ authHeaders ∧ carriesVirtualKey header.2 = true

/-- No virtual key is forwarded, and the one auth header carries the operator's real key. -/
structure KeyConfined (env : Env) (provider : Provider) (headers : Headers) : Prop where
  noVirtualKey : ∀ header ∈ headers, carriesVirtualKey header.2 = false
  oneAuthHeader : ∃ token key realKey name,
    env.virtualKey (env.sha256 token) = .ok (some key) ∧ key.provider = provider.name ∧
      env.environ key.upstreamKeyEnv = some realKey ∧
      headers.filter (fun header => isAuthHeader provider header.1) = [(name, authValue name realKey)]

/-- The picked token is a virtual key; no other header that is forwarded carries one or can
    authenticate the request; and the operator's key is no virtual key itself. -/
def SwapSuffices (env : Env) (provider : Provider) (headers : Headers) : Prop :=
  ∃ token name, extractAuthToken headers = some (token, name) ∧ looksLikeVirtualKey token = true ∧
    (∀ header ∈ cleanRequestHeaders headers, lower header.1 ≠ name →
      carriesVirtualKey header.2 = false ∧ isAuthHeader provider header.1 = false) ∧
    ∀ key realKey, env.virtualKey (env.sha256 token) = .ok (some key) →
      env.environ key.upstreamKeyEnv = some realKey → carriesVirtualKey realKey = false

/-- What begins with a character that the front has not begins after it. -/
theorem infix_append_iff {c : Char} {part front text : Str} (other : c ∉ front) :
    c :: part <:+: front ++ text ↔ c :: part <:+: text := by
  induction front with
  | nil => rfl
  | cons head front inductionHypothesis =>
    have apart := List.ne_of_not_mem_cons other
    rw [List.cons_append, List.infix_cons_iff, inductionHypothesis (List.not_mem_of_not_mem_cons other),
      or_iff_right]
    intro begins
    exact apart (List.cons_prefix_cons.mp begins).1

theorem carriesVirtualKey_bearer (key : Str) :
    carriesVirtualKey ("Bearer " ++ key) = carriesVirtualKey key := by
  have scheme : 'b' ∉ "Bearer ".toList := by decide
  rw [carriesVirtualKey, carriesVirtualKey, Bool.eq_iff_iff, contains_iff, contains_iff]
  exact infix_append_iff scheme

theorem carriesVirtualKey_authValue (name key : Str) :
    carriesVirtualKey (authValue name key) = carriesVirtualKey key := by
  simp only [authValue]
  split
  · exact carriesVirtualKey_bearer key
  · rfl

theorem isAuthHeader_of_mem (provider : Provider) {name : Str} (auth : name ∈ authHeaders) :
    isAuthHeader provider name = true := by
  simp [isAuthHeader, lower_authHeader auth, auth]

theorem mem_swapHeader {headers : Headers} {name realKey : Str} {header : Str × Str} :
    header ∈ swapHeader headers name realKey ↔
      (header ∈ headers ∧ lower header.1 ≠ name) ∨ header = (name, authValue name realKey) := by
  simp [swapHeader]

theorem unswapped_leaks {headers : Headers} (holds : HoldsVirtualKey headers) :
    ∃ header ∈ forwardedHeaders headers none, carriesVirtualKey header.2 = true := by
  obtain ⟨header, member, auth, carries⟩ := holds
  exact ⟨header, List.mem_filter.mpr ⟨member, forwards_of_auth auth⟩, carries⟩

theorem filter_swapHeader {provider : Provider} {headers : Headers} {name realKey : Str}
    (auth : name ∈ authHeaders) :
    (swapHeader headers name realKey).filter (fun header => isAuthHeader provider header.1) =
      headers.filter (fun header => isAuthHeader provider header.1 && decide (lower header.1 ≠ name)) ++
        [(name, authValue name realKey)] := by
  have last : [(name, authValue name realKey)].filter (fun header => isAuthHeader provider header.1) =
      [(name, authValue name realKey)] := by
    simp [isAuthHeader_of_mem provider auth]
  rw [swapHeader, List.filter_append, List.filter_filter, last]

def teamKey : VirtualKey where
  label := "team-a"
  team := "a"
  provider := "openai"
  upstreamKeyEnv := "OPENAI_KEY"
  allowedModels := []
  monthlyBudgetUsd := none

def keyedEnv : Env :=
  { bareEnv {} fun _ => [] with
    environ := fun name => if name = "OPENAI_KEY" then some "sk-real" else none
    virtualKey := fun hash => .ok (if hash = "bl-sk-a" then some teamKey else none) }

def requestWith (headers : Headers) : Request where
  path := "/proxy/openai/v1/chat/completions"
  query := []
  method := "POST"
  headers := headers
  body := ⟨[], none⟩

end BurnLens.Proxy
