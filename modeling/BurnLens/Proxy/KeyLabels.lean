import BurnLens.Proxy.Interceptor
import Mathlib.Data.List.Find

/-! # Key labels

The label of a request is looked up by the hash of the token in the first recognised auth
header that is not blank, and stored over the `key_label` tag that the client supplies.  That is
the label of the secret which is forwarded where both tokens are registered alike and nothing is
supplied for one that is not registered.
-/

namespace BurnLens.Proxy

open Library Providers

def providerSecret (provider : Provider) (headers : Headers) : Option Str :=
  (headerToken headers (lower provider.config.authHeader)).map Prod.fst

def pickedSecret (headers : Headers) : Option Str := (extractAuthToken headers).map Prod.fst

/-- The label that is found registered for a secret; a lookup that fails finds none. -/
def registeredLabel (env : Env) (secret : Str) : Option Str :=
  match env.keyLabel (env.sha256 secret) with
  | .ok (some []) => none
  | .ok label => label
  | .error _ => none

def suppliedLabel (env : Env) (headers : Headers) : Option Str :=
  extractTags env.environ headers "key_label"

def usedKey (env : Env) (headers : Headers) : Option VirtualKey :=
  match extractAuthToken headers with
  | some (token, _) =>
    if looksLikeVirtualKey token then
      match env.virtualKey (env.sha256 token) with
      | .ok key => key
      | .error _ => none
    else none
  | none => none

/-- The label of the virtual key that is used, or else the one registered for the secret among
    these headers that the provider authenticates by. -/
def ownLabel (env : Env) (provider : Provider) (request : Request) (forwarded : Headers) :
    Option Str :=
  match usedKey env request.headers with
  | some key => some key.label
  | none => (providerSecret provider forwarded).bind (registeredLabel env)

/-- The label in whose name its daily cap refuses a request. -/
def Stop.capLabel : Stop → Option Str
  | .rejected (.dailyBudgetExceeded label _ _ _) => some label
  | .rejected (.unpricedModelBlocked _ _ (.dailyCap label)) => some label
  | _ => none

/-- The label whose daily cap decides about the request: the one it was admitted under, or the
    one its refusal names. -/
structure CapEnforcedOn (env : Env) (provider : Provider) (request : Request)
    (label : Option Str) : Prop where
  admitted : ∀ admitted, admitRequest env provider request = .ok admitted → admitted.label = label
  refused : ∀ stop named, admitRequest env provider request = .error stop →
    stop.capLabel = some named → label = some named

/-- Enforced and stored is the request's own label.  A refused request would be forwarded with its
    cleaned headers. -/
structure LabelledBySecret (env : Env) (provider : Provider) (request : Request) : Prop where
  enforced : CapEnforcedOn env provider request
    (ownLabel env provider request (cleanRequestHeaders request.headers))
  stored : ∀ admitted, admitRequest env provider request = .ok admitted →
    admitted.tags "key_label" = ownLabel env provider request admitted.headers

/-- The request is admitted, or a daily cap refuses it. -/
def ReachesCap (env : Env) (provider : Provider) (request : Request) : Prop :=
  (∃ admitted, admitRequest env provider request = .ok admitted) ∨
    ∃ stop named, admitRequest env provider request = .error stop ∧ stop.capLabel = some named

/-- A virtual key that is used is itself registered under its label.  Without one, the token that
    the proxy looks at and the provider's are registered alike, and where they are not registered
    no label is supplied. -/
def RegisteredAlike (env : Env) (provider : Provider) (headers : Headers) : Prop :=
  match usedKey env headers with
  | some key => (pickedSecret headers).bind (registeredLabel env) = some key.label
  | none =>
    (pickedSecret headers).bind (registeredLabel env) =
        (providerSecret provider headers).bind (registeredLabel env) ∧
      ((providerSecret provider headers).bind (registeredLabel env) = none →
        suppliedLabel env headers = none)

/-! ## The cap -/

theorem bind_eq_error {ε α β : Type} {x : Except ε α} {f : α → Except ε β} {e : ε} :
    (x >>= f) = .error e ↔ x = .error e ∨ ∃ a, x = .ok a ∧ f a = .error e := by
  cases x <;> simp [bind, Except.bind]

theorem unguarded_noDailyCap {α : Type} {x : Except PyError α} {stop : Stop}
    (stopped : unguarded x = .error stop) : stop.capLabel = none := by
  cases x with
  | ok a => cases stopped
  | error error => cases stopped; rfl

theorem identify_noDailyCap {env : Env} {provider : Provider} {request : Request} {stop : Stop}
    (stopped : identify env provider request = .error stop) : stop.capLabel = none := by
  simp only [identify, unpricedVerdict, bind_eq_error] at stopped
  obtain path | ⟨_, -, model | ⟨_, -, unpriced | ⟨_, -, done⟩⟩⟩ := stopped
  · exact unguarded_noDailyCap path
  · exact unguarded_noDailyCap model
  · split at unpriced
    · obtain priced | ⟨_, -, done⟩ := bind_eq_error.mp unpriced
      · exact unguarded_noDailyCap priced
      · cases done
    · cases unpriced
  · cases done

theorem checkTeamBudget_noDailyCap {env : Env} {provider : Provider} {identified : Identified}
    {key : VirtualKey} {stop : Stop}
    (stopped : checkTeamBudget env provider identified key = .error stop) :
    stop.capLabel = none := by
  simp only [checkTeamBudget, reject] at stopped
  split at stopped
  · split at stopped
    · cases stopped; rfl
    · split at stopped <;> split at stopped <;> cases stopped <;> rfl
  · cases stopped

theorem upstreamKey_noDailyCap {env : Env} {key : VirtualKey} {stop : Stop}
    (stopped : upstreamKey env key = .error stop) : stop.capLabel = none := by
  simp only [upstreamKey, reject] at stopped
  split at stopped <;> cases stopped <;> rfl

theorem checkVirtualKey_noDailyCap {env : Env} {provider : Provider} {identified : Identified}
    {key : VirtualKey} {stop : Stop}
    (stopped : checkVirtualKey env provider identified key = .error stop) :
    stop.capLabel = none := by
  simp only [checkVirtualKey, reject] at stopped
  split at stopped
  · cases stopped; rfl
  · split at stopped
    · cases stopped; rfl
    · obtain team | ⟨_, -, real⟩ := bind_eq_error.mp stopped
      · exact checkTeamBudget_noDailyCap team
      · exact upstreamKey_noDailyCap real

theorem virtualKeyGate_noDailyCap {env : Env} {provider : Provider} {identified : Identified}
    {headers : Headers} {stop : Stop}
    (stopped : virtualKeyGate env provider identified headers = .error stop) :
    stop.capLabel = none := by
  simp only [virtualKeyGate, reject] at stopped
  split at stopped
  · split at stopped
    · split at stopped
      · cases stopped; rfl
      · cases stopped; rfl
      · obtain checked | ⟨_, -, done⟩ := bind_eq_error.mp stopped
        · exact checkVirtualKey_noDailyCap checked
        · cases done
    · cases stopped
  · cases stopped

theorem checkDailyCap_names {env : Env} {provider : Provider} {identified : Identified}
    {label : Option Str} {stop : Stop}
    (stopped : checkDailyCap env provider identified label = .error stop) :
    stop.capLabel = label := by
  simp only [checkDailyCap, reject] at stopped
  split at stopped
  · split at stopped
    · split_ifs at stopped
      · cases stopped; rfl
      · split at stopped
        · split_ifs at stopped
          · cases stopped; rfl
          · cases stopped
        · cases stopped
    · cases stopped
  · cases stopped

theorem checkCustomerBudget_noDailyCap {env : Env} {provider : Provider} {identified : Identified}
    {tags : Tags} {stop : Stop}
    (stopped : checkCustomerBudget env provider identified tags = .error stop) :
    stop.capLabel = none := by
  simp only [checkCustomerBudget, reject] at stopped
  split at stopped
  · split at stopped
    · split at stopped
      · cases stopped; rfl
      · split at stopped
        · split at stopped
          · cases stopped
          · cases stopped; rfl
        · cases stopped
    · cases stopped
  · cases stopped

theorem checkCache_noDailyCap {env : Env} {request : Request} {stop : Stop}
    (stopped : checkCache env request = .error stop) : stop.capLabel = none := by
  simp only [checkCache] at stopped
  split at stopped
  · split at stopped
    · cases stopped; rfl
    · cases stopped
  · cases stopped

theorem capEnforcedOn_keyLabel (env : Env) (provider : Provider) (request : Request) :
    CapEnforcedOn env provider request (keyLabel env request.headers) where
  admitted admitted passed := by
    obtain ⟨-, -, -, -, -, -, label, -⟩ := admitRequest_ok passed
    exact label
  refused stop named stopped names := by
    simp only [admitRequest, bind_eq_error] at stopped
    -- the stages in their order; only the daily cap refuses in the name of a label
    obtain identified | ⟨_, -, gate | ⟨_, -, cap | ⟨_, -, customer | ⟨_, -, cache | ⟨_, -, done⟩⟩⟩⟩⟩ :=
      stopped
    · rw [identify_noDailyCap identified] at names; cases names
    · rw [virtualKeyGate_noDailyCap gate] at names; cases names
    · rw [← names, checkDailyCap_names cap]
    · rw [checkCustomerBudget_noDailyCap customer] at names; cases names
    · rw [checkCache_noDailyCap cache] at names; cases names
    · cases done

theorem keyLabel_eq (env : Env) (headers : Headers) :
    keyLabel env headers = (pickedSecret headers).bind (registeredLabel env) := by
  rw [keyLabel, extractApiKeyHash, pickedSecret]
  cases extractAuthToken headers <;> rfl

theorem forwards_authHeader (provider : Provider) {name : Str}
    (auth : lower name = lower provider.config.authHeader) : forwards name = true := by
  rw [forwards, auth]
  cases provider <;> decide

theorem providerSecret_clean (provider : Provider) (headers : Headers) :
    providerSecret provider (cleanRequestHeaders headers) = providerSecret provider headers := by
  have same : lowerGet (cleanRequestHeaders headers) (lower provider.config.authHeader) =
      lowerGet headers (lower provider.config.authHeader) := by
    simp only [lowerGet, cleanRequestHeaders, ← List.filter_reverse, List.find?_filter]
    congr 1
    refine List.find?_congr fun header _ => ?_
    by_cases auth : lower header.1 = lower provider.config.authHeader
    · simp [auth, forwards_authHeader provider auth]
    · simp [auth]
  simp only [providerSecret, headerToken, same]

theorem usedKey_accepted {env : Env} {provider : Provider} {model : Json} {headers : Headers}
    (accepted : AcceptedKey env provider model headers) : usedKey env headers = some accepted.key := by
  simp only [usedKey, accepted.picked, accepted.virtual, accepted.found, if_true]

theorem usedKey_none {env : Env} {headers : Headers} (plain : NoVirtualKey headers) :
    usedKey env headers = none := by
  rw [usedKey]
  split
  · next token name picked => rw [plain token name picked]; rfl
  · rfl

/-! ## Identity -/

/-- The label that is stored: a registered one, else the one supplied, else the virtual key's. -/
theorem stored_label {env : Env} {headers : Headers} {tags : Tags} :
    labelTags (keyLabel env headers) tags "key_label" =
      (keyLabel env headers).or (tags "key_label") := by
  cases keyLabel env headers with
  | none => rfl
  | some label => exact Tags.set_self tags _ label

theorem stored_of_admitted {env : Env} {provider : Provider} {request : Request}
    {admitted : Admitted} (passed : admitRequest env provider request = .ok admitted) :
    admitted.tags "key_label" = (keyLabel env request.headers).or
        ((suppliedLabel env request.headers).or ((usedKey env request.headers).map (·.label))) ∧
      ownLabel env provider request admitted.headers =
        ownLabel env provider request (cleanRequestHeaders request.headers) := by
  obtain ⟨identified, gated, -, gate, -, -, -, tags, headers, -⟩ := admitRequest_ok passed
  rw [tags, headers, stored_label, ownLabel, ownLabel]
  obtain ⟨accepted, rfl⟩ | ⟨plain, rfl⟩ := virtualKeyGate_ok gate
  · rw [usedKey_accepted accepted]
    simp only [Option.map_some, and_true]
    rw [Tags.setDefault_self, Tags.set_of_ne _ _ (by decide), suppliedLabel]
  · rw [usedKey_none plain]
    simp only [Option.map_none, Option.or_none, suppliedLabel, forwardedHeaders, and_self]

theorem or_eq_self {first second : Option Str} :
    first.or second = first ↔ (first = none → second = none) := by
  cases first <;> simp

theorem CapEnforcedOn.label_eq {env : Env} {provider : Provider} {request : Request}
    {label : Option Str} (reached : ReachesCap env provider request)
    (enforced : CapEnforcedOn env provider request label) : keyLabel env request.headers = label := by
  have capped := capEnforcedOn_keyLabel env provider request
  obtain ⟨admitted, passed⟩ | ⟨stop, named, stopped, names⟩ := reached
  · rw [← capped.admitted admitted passed, enforced.admitted admitted passed]
  · rw [capped.refused stop named stopped names, enforced.refused stop named stopped names]

def labelledEnv : Env :=
  { bareEnv {} fun _ => [("gpt-4o", { rates := {} })] with
    apiKeyBudgets := some { default := some 5 }
    keyLabel := fun hash => .ok (if hash = "sk-alice" then some "alice" else none) }

def mislabelledRequest (key : Str) : Request where
  path := "/proxy/openai/v1/chat/completions"
  query := []
  method := "POST"
  headers := [("authorization", "Bearer " ++ key), ("x-burnlens-tag-key-label", "bob")]
  body := ⟨[], some (.obj [("model", .str "gpt-4o")])⟩

end BurnLens.Proxy
