import BurnLens.Cache.Manager
import BurnLens.Library.Machine
import BurnLens.Proxy.ModelProvenance

/-! # Exact hits of the semantic cache

Requests pass through `handle_request`, are answered from the cache or forwarded, and what the
upstream answers is saved by tasks that run in any order.  Lookups may miss for any reason.
-/

namespace BurnLens.Cache

open Library Providers Proxy

/-- A forwarded request that the upstream has not answered. -/
structure InFlight where
  origin : Origin
  forwarded : Forwarded
  cacheEnabled : Bool

/-- A `_save_to_cache_bg` task that has not run. -/
structure PendingSave where
  key : CacheKey
  provider : Str
  model : Json
  responseBody : List UInt8
  savedFor : Origin

structure ExactHit where
  origin : Origin
  row : CacheRow

structure CacheState where
  rows : List CacheRow := []
  upstream : List InFlight := []
  saves : List PendingSave := []
  -- the requests that were answered with status 200, with the model and the body that are saved
  answered : List (Origin × Json × List UInt8) := []
  hits : List ExactHit := []

inductive CacheEvent where
  -- the lookup of a request finds the row at `index`
  | hit (env : Env) (provider : Provider) (request : Request) (secretKey : Option Str) (index : Nat)
  -- a request that the cache does not answer
  | forward (env : Env) (provider : Provider) (request : Request)
  -- of a stream, `body` is what `reconstruct_complete_response_from_chunks` makes of it
  | respond (index : Nat) (status : Nat) (body : List UInt8)
  | fail (index : Nat)
  -- the task at `index`, which stores nothing where the embedding or the database fails
  | save (index : Nat) (stores : Bool) (now : Time) (ttlSeconds : Int) (secretKey : Option Str)

/-- What a lookup of the request is made with.  The gateway and the key label set other tags than
    the customer. -/
def Origin.key (origin : Origin) (digests : Digests) : CacheKey :=
  cacheKey digests origin.provider (extractTags origin.environ origin.request.headers)
    origin.request.body origin.request.body

/-- The system prompt is hashed before the body is rerouted, the query text is read after it. -/
def InFlight.key (entry : InFlight) (digests : Digests) : CacheKey :=
  cacheKey digests entry.origin.provider entry.forwarded.tags entry.origin.request.body
    entry.forwarded.body

/-- A bypass by query string is forgotten at this point. -/
def InFlight.saves (entry : InFlight) (status : Nat) (body : List UInt8) : Bool :=
  status = 200 && entry.cacheEnabled &&
    !(contains "no-cache" (cacheControl entry.origin.request.headers) ||
      contains "no-store" (cacheControl entry.origin.request.headers)) &&
    requestIsCacheable entry.forwarded.body &&
    if entry.forwarded.streaming then body ≠ []
    else entry.forwarded.method.map Char.toUpper = "POST".toList

def PendingSave.row (pending : PendingSave) (digests : Digests) (now : Time) (ttlSeconds : Int)
    (secretKey : Option Str) : CacheRow where
  id := pending.key.id digests
  key := pending.key
  provider := pending.provider
  model := pending.model
  responseBody := pending.responseBody
  responseHash := some (digests.sha256Bytes pending.responseBody)
  signature :=
    match secretKey with
    | none | some [] => none
    | some secret => some (digests.hmac secret pending.responseBody)
  expiresAt := if ttlSeconds = 0 then none else some (now + ttlSeconds * 1000000)
  savedFor := pending.savedFor

namespace CacheState

variable (digests : Digests) (s : CacheState)

def hit (env : Env) (provider : Provider) (request : Request) (secretKey : Option Str)
    (index : Nat) : Option CacheState :=
  let origin : Origin := ⟨provider, request, env.environ⟩
  match s.rows[index]?, handleRequest { env with cacheHit := true } provider request with
  | some row, .error .answeredFromCache =>
    if row.selected (origin.key digests) env.now && row.verifies digests secretKey then
      some { s with hits := ⟨origin, row⟩ :: s.hits }
    else none
  | _, _ => none

def forward (env : Env) (provider : Provider) (request : Request) : Option CacheState :=
  match handleRequest { env with cacheHit := false } provider request with
  | .ok forwarded =>
    let cacheEnabled := match env.config with
      | some config => config.cacheEnabled
      | none => false
    some { s with
      upstream := s.upstream ++ [⟨⟨provider, request, env.environ⟩, forwarded, cacheEnabled⟩] }
  | .error _ => none

def respond (index status : Nat) (body : List UInt8) : Option CacheState :=
  match s.upstream[index]? with
  | some entry =>
    let s := { s with upstream := s.upstream.eraseIdx index }
    if entry.saves status body then
      some { s with
        answered := (entry.origin, entry.forwarded.model, body) :: s.answered
        saves := s.saves ++ [⟨entry.key digests, entry.origin.provider.name, entry.forwarded.model,
          body, entry.origin⟩] }
    else some s
  | none => none

def save (index : Nat) (stores : Bool) (now : Time) (ttlSeconds : Int) (secretKey : Option Str) :
    Option CacheState :=
  match s.saves[index]? with
  | some pending =>
    let s := { s with saves := s.saves.eraseIdx index }
    if stores then
      some { s with rows := insertOrReplace s.rows (pending.row digests now ttlSeconds secretKey) }
    else some s
  | none => none

end CacheState

def semanticCache (digests : Digests) : Machine CacheState CacheEvent where
  step s
    | .hit env provider request secretKey index => s.hit digests env provider request secretKey index
    | .forward env provider request => s.forward env provider request
    | .respond index status body => s.respond digests index status body
    | .fail index => some { s with upstream := s.upstream.eraseIdx index }
    | .save index stores now ttlSeconds secretKey =>
      s.save digests index stores now ttlSeconds secretKey

/-- The customer of a request; an empty one is none. -/
def Origin.customer (origin : Origin) : Option Str :=
  firstNonempty [extractTags origin.environ origin.request.headers "customer"]

def Origin.systemText (origin : Origin) (digests : Digests) : Option Str :=
  Cache.systemText digests.dumps origin.request.body

def Origin.queryText (origin : Origin) : Str :=
  extractQueryText origin.request.body origin.provider.name

/-- The row was saved for a request that was answered with its body, under the provider and the
    model of that request. -/
structure CacheRow.Genuine (row : CacheRow) (s : CacheState) : Prop where
  answered : (row.savedFor, row.model, row.responseBody) ∈ s.answered
  provider : row.provider = row.savedFor.provider.name

/-- The served answer belongs to the same customer.  A system prompt that is found in either request
    is that of both, and so is a query text, but for the case of its ASCII letters.  Of requests in
    which neither is found (a body without `messages` or `contents`, say) nothing is said. -/
structure ExactHit.Sound (hit : ExactHit) (digests : Digests) (s : CacheState) : Prop where
  genuine : hit.row.Genuine s
  customer : hit.row.savedFor.customer = hit.origin.customer
  system : hit.row.savedFor.systemText digests ≠ none ∨ hit.origin.systemText digests ≠ none →
    hit.row.savedFor.systemText digests = hit.origin.systemText digests
  query : hit.row.savedFor.queryText ≠ [] ∨ hit.origin.queryText ≠ [] →
    sqliteLower hit.row.savedFor.queryText = sqliteLower hit.origin.queryText

theorem getD_set_of_ne (fields : Fields) {key other : Str} (value default : Json)
    (distinct : other ≠ key) : (fields.set key value).getD other default = fields.getD other default := by
  rw [Fields.getD, Fields.get?_set_of_ne fields value distinct, Fields.getD]

theorem extractQueryText_reroute (dumps : Json → List UInt8) (body : Body) (routedModel : Json)
    (provider : Str) :
    extractQueryText (body.reroute dumps routedModel) provider = extractQueryText body provider := by
  simp only [Body.reroute]
  split
  · next fields decoded =>
    split
    · have contents : ("contents" : Str) ≠ "model" := by decide
      have messages : ("messages" : Str) ≠ "model" := by decide
      simp only [extractQueryText, decoded, lastContentText, lastUserText,
        getD_set_of_ne fields _ _ contents, getD_set_of_ne fields _ _ messages]
    · rfl
  · rfl

theorem inFlight_key {digests : Digests} {env : Env} {provider : Provider} {request : Request}
    {forwarded : Forwarded} (handled : handleRequest env provider request = .ok forwarded)
    (cacheEnabled : Bool) :
    (InFlight.mk ⟨provider, request, env.environ⟩ forwarded cacheEnabled).key digests =
      Origin.key ⟨provider, request, env.environ⟩ digests := by
  obtain ⟨admitted, passed, -, -, body, -, tags, -⟩ := handleRequest_ok handled
  obtain ⟨identified, gated, -, gate, -, -, -, labelled, -, routed⟩ := admitRequest_ok passed
  have customer : forwarded.tags "customer" =
      extractTags env.environ request.headers "customer" := by
    rw [tags, labelled, labelTags_of_ne (by decide), (gated_tags gate).2]
  have query : extractQueryText forwarded.body provider.name =
      extractQueryText request.body provider.name := by
    rw [body, routed, route]
    split
    · rfl
    · dsimp only
      split
      · exact extractQueryText_reroute ..
      · rfl
  simp only [InFlight.key, Origin.key, cacheKey, customerHash, customer, query]

/-! ## The invariant -/

/-- Every key is that of the request which the answer belongs to, and hits were selected. -/
structure KeysMatch (digests : Digests) (s : CacheState) : Prop where
  upstream : ∀ entry ∈ s.upstream, entry.key digests = entry.origin.key digests
  saves : ∀ pending ∈ s.saves, pending.key = pending.savedFor.key digests ∧
    (pending.savedFor, pending.model, pending.responseBody) ∈ s.answered ∧
    pending.provider = pending.savedFor.provider.name
  rows : ∀ row ∈ s.rows, row.key = row.savedFor.key digests ∧ row.Genuine s
  hits : ∀ hit ∈ s.hits, hit.row.key = hit.row.savedFor.key digests ∧ hit.row.Genuine s ∧
    ∃ now, hit.row.selected (hit.origin.key digests) now = true

variable {digests : Digests} {s s' : CacheState}

theorem CacheRow.Genuine.mono {row : CacheRow} (genuine : row.Genuine s)
    (answered : s.answered ⊆ s'.answered) : row.Genuine s' :=
  ⟨answered genuine.answered, genuine.provider⟩

theorem hit_cases {env : Env} {provider : Provider} {request : Request} {secretKey : Option Str}
    {index : Nat} (step : s.hit digests env provider request secretKey index = some s') :
    ∃ row ∈ s.rows, row.selected (Origin.key ⟨provider, request, env.environ⟩ digests) env.now = true ∧
      s' = { s with hits := ⟨⟨provider, request, env.environ⟩, row⟩ :: s.hits } := by
  simp only [CacheState.hit] at step
  split at step
  · next row found _ =>
    split at step
    · next matched =>
      cases step
      rw [Bool.and_eq_true] at matched
      exact ⟨row, List.mem_of_getElem? found, matched.1, rfl⟩
    · cases step
  · cases step

theorem forward_cases (digests : Digests) {env : Env} {provider : Provider} {request : Request}
    (step : s.forward env provider request = some s') :
    ∃ entry : InFlight, entry.key digests = entry.origin.key digests ∧
      s' = { s with upstream := s.upstream ++ [entry] } := by
  simp only [CacheState.forward] at step
  split at step
  · next forwarded handled => cases step; exact ⟨_, inFlight_key handled _, rfl⟩
  · cases step

theorem respond_cases {index status : Nat} {body : List UInt8}
    (step : s.respond digests index status body = some s') :
    ∃ entry ∈ s.upstream, s' = { s with upstream := s.upstream.eraseIdx index } ∨
      s' = { s with
        upstream := s.upstream.eraseIdx index
        answered := (entry.origin, entry.forwarded.model, body) :: s.answered
        saves := s.saves ++ [⟨entry.key digests, entry.origin.provider.name, entry.forwarded.model,
          body, entry.origin⟩] } := by
  simp only [CacheState.respond] at step
  split at step
  · next entry found =>
    refine ⟨entry, List.mem_of_getElem? found, ?_⟩
    split at step
    · cases step; exact .inr rfl
    · cases step; exact .inl rfl
  · cases step

theorem save_cases {index : Nat} {stores : Bool} {now : Time} {ttlSeconds : Int}
    {secretKey : Option Str} (step : s.save digests index stores now ttlSeconds secretKey = some s') :
    ∃ pending ∈ s.saves, s' = { s with saves := s.saves.eraseIdx index } ∨
      s' = { s with
        saves := s.saves.eraseIdx index
        rows := insertOrReplace s.rows (pending.row digests now ttlSeconds secretKey) } := by
  simp only [CacheState.save] at step
  split at step
  · next pending found =>
    refine ⟨pending, List.mem_of_getElem? found, ?_⟩
    split at step
    · cases step; exact .inr rfl
    · cases step; exact .inl rfl
  · cases step

theorem mem_insertOrReplace {rows : List CacheRow} {row other : CacheRow}
    (member : other ∈ insertOrReplace rows row) : other ∈ rows ∨ other = row := by
  obtain old | new := List.mem_append.mp member
  · exact .inl (List.mem_of_mem_filter old)
  · exact .inr (List.mem_singleton.mp new)

theorem KeysMatch.hit (keys : KeysMatch digests s) {row : CacheRow} (stored : row ∈ s.rows)
    {origin : Origin} {now : Time} (selected : row.selected (origin.key digests) now = true) :
    KeysMatch digests { s with hits := ⟨origin, row⟩ :: s.hits } where
  upstream := keys.upstream
  saves := keys.saves
  rows row stored := ⟨(keys.rows row stored).1, (keys.rows row stored).2.mono fun _ => id⟩
  hits := by
    intro hit served
    obtain rfl | earlier := List.mem_cons.mp served
    · exact ⟨(keys.rows row stored).1, (keys.rows row stored).2.mono fun _ => id, now, selected⟩
    · obtain ⟨own, genuine, chosen⟩ := keys.hits hit earlier
      exact ⟨own, genuine.mono fun _ => id, chosen⟩

theorem KeysMatch.frame (keys : KeysMatch digests s) (rows : s'.rows = s.rows) (hits : s'.hits = s.hits)
    (answered : s.answered ⊆ s'.answered)
    (upstream : ∀ entry ∈ s'.upstream, entry.key digests = entry.origin.key digests)
    (saves : ∀ pending ∈ s'.saves, pending.key = pending.savedFor.key digests ∧
      (pending.savedFor, pending.model, pending.responseBody) ∈ s'.answered ∧
      pending.provider = pending.savedFor.provider.name) : KeysMatch digests s' where
  upstream := upstream
  saves := saves
  rows row stored := by
    obtain ⟨own, genuine⟩ := keys.rows row (rows ▸ stored)
    exact ⟨own, genuine.mono answered⟩
  hits hit served := by
    obtain ⟨own, genuine, chosen⟩ := keys.hits hit (hits ▸ served)
    exact ⟨own, genuine.mono answered, chosen⟩

theorem KeysMatch.store (keys : KeysMatch digests s) {pending : PendingSave}
    (waiting : pending ∈ s.saves) (index : Nat) (now : Time) (ttlSeconds : Int)
    (secretKey : Option Str) :
    KeysMatch digests { s with
      saves := s.saves.eraseIdx index
      rows := insertOrReplace s.rows (pending.row digests now ttlSeconds secretKey) } where
  upstream := keys.upstream
  saves pending waiting := keys.saves pending (List.mem_of_mem_eraseIdx waiting)
  rows row stored := by
    obtain old | rfl := mem_insertOrReplace stored
    · exact ⟨(keys.rows row old).1, (keys.rows row old).2.mono fun _ => id⟩
    · obtain ⟨own, answered, provider⟩ := keys.saves pending waiting
      exact ⟨own, answered, provider⟩
  hits hit served := by
    obtain ⟨own, genuine, chosen⟩ := keys.hits hit served
    exact ⟨own, genuine.mono fun _ => id, chosen⟩

theorem semanticCache_keeps (event : CacheEvent) (keys : KeysMatch digests s)
    (step : (semanticCache digests).step s event = some s') : KeysMatch digests s' := by
  cases event with
  | hit env provider request secretKey index =>
    obtain ⟨row, stored, selected, rfl⟩ := hit_cases step
    exact keys.hit stored selected
  | forward env provider request =>
    obtain ⟨entry, own, rfl⟩ := forward_cases digests step
    refine keys.frame rfl rfl (fun _ => id) (fun other member => ?_) keys.saves
    obtain old | new := List.mem_append.mp member
    · exact keys.upstream other old
    · rw [List.mem_singleton.mp new, own]
  | respond index status body =>
    obtain ⟨entry, waiting, rfl | rfl⟩ := respond_cases step
    · exact keys.frame rfl rfl (fun _ => id)
        (fun other member => keys.upstream other (List.mem_of_mem_eraseIdx member)) keys.saves
    · refine keys.frame rfl rfl (List.subset_cons_self _ _)
        (fun other member => keys.upstream other (List.mem_of_mem_eraseIdx member))
        (fun pending member => ?_)
      obtain old | new := List.mem_append.mp member
      · obtain ⟨own, answered, provider⟩ := keys.saves pending old
        exact ⟨own, List.mem_cons_of_mem _ answered, provider⟩
      · rw [List.mem_singleton.mp new]
        exact ⟨keys.upstream entry waiting, .head _, rfl⟩
  | fail index =>
    cases step
    exact keys.frame rfl rfl (fun _ => id)
      (fun other member => keys.upstream other (List.mem_of_mem_eraseIdx member)) keys.saves
  | save index stores now ttlSeconds secretKey =>
    obtain ⟨pending, waiting, rfl | rfl⟩ := save_cases step
    · exact keys.frame rfl rfl (fun _ => id) keys.upstream
        (fun other member => keys.saves other (List.mem_of_mem_eraseIdx member))
    · exact keys.store waiting index now ttlSeconds secretKey

theorem keysMatch_empty : KeysMatch digests {} where
  upstream _ member := nomatch member
  saves _ member := nomatch member
  rows _ member := nomatch member
  hits _ member := nomatch member

/-- Digests are not empty, so a missing system prompt has a key of its own. -/
theorem digest_injective {sha256 : Str → Str} (collisionFree : Function.Injective sha256)
    (nonempty : ∀ text, sha256 text ≠ []) {first second : Option Str}
    (same : (first.map sha256).getD [] = (second.map sha256).getD []) : first = second := by
  match first, second with
  | none, none => rfl
  | some text, none => exact absurd same (nonempty text)
  | none, some text => exact absurd same.symm (nonempty text)
  | some text, some other => exact congrArg some (collisionFree same)

/-- Whatever requests pass through the proxy, and in whatever order the answers are saved: an exact
    hit serves what was answered to a request of the same customer, with the system prompt and the
    query text that is found in either, up to the case of the text's ASCII letters. -/
theorem exact_hit_sound (events : List CacheEvent)
    (collisionFree : Function.Injective digests.sha256)
    (nonempty : ∀ text, digests.sha256 text ≠ [])
    (ran : (semanticCache digests).run {} events = some s) : ∀ hit ∈ s.hits, hit.Sound digests s := by
  intro hit served
  have keys : KeysMatch digests s := (semanticCache digests).run_invariant
    (fun _ event _ keys step => semanticCache_keeps event keys step) keysMatch_empty ran
  obtain ⟨own, genuine, now, selected⟩ := keys.hits hit served
  simp only [CacheRow.selected, own, Bool.and_eq_true, decide_eq_true_eq] at selected
  obtain ⟨⟨⟨system, query⟩, customer⟩, -⟩ := selected
  exact {
    genuine
    customer := Option.map_injective collisionFree customer
    system _ := digest_injective collisionFree nonempty system
    query _ := query }

/-! ## Requests that share an answer -/

def chatMessage (role content : Str) : Json := .obj [("role", .str role), ("content", .str content)]

def chatCompletion (model : Str) (messages : List Json) : Request where
  path := "/proxy/openai/v1/chat/completions"
  query := []
  method := "POST"
  headers := []
  body := ⟨[], some (.obj [("model", .str model), ("messages", .arr messages)])⟩

def cachingEnv : Env := bareEnv { cacheEnabled := true } fun _ => []

def plainDigests : Digests where
  sha256 text := '#' :: text
  sha256Bytes _ := "digest"
  hmac _ _ := "signature"
  dumps _ := []
  lower := sqliteLower

def repeatedQuestion (later : Request) : List CacheEvent :=
  [.forward cachingEnv .openai (chatCompletion "gpt-4o" [chatMessage "user" "Yes?"]),
    .respond 0 200 [123, 125], .save 0 true 0 3600 none, .hit cachingEnv .openai later none 0]

theorem exact_hit_sound_repeated :
    ∃ s, (semanticCache plainDigests).run {}
        (repeatedQuestion (chatCompletion "gpt-4o" [chatMessage "user" "YES?"])) = some s ∧
      ∃ hit ∈ s.hits, hit.Sound plainDigests s := by
  have ran : ∃ s, (semanticCache plainDigests).run {}
      (repeatedQuestion (chatCompletion "gpt-4o" [chatMessage "user" "YES?"])) = some s ∧
      ∃ hit, s.hits = [hit] := ⟨_, rfl, _, rfl⟩
  obtain ⟨s, ran, hit, served⟩ := ran
  refine ⟨s, ran, hit, served ▸ .head _, ?_⟩
  exact exact_hit_sound _ (fun _ _ same => (List.cons.inj same).2) (fun _ => List.cons_ne_nil _ _) ran hit
    (served ▸ .head _)

def otherConversation : Request :=
  chatCompletion "gpt-4o-mini" [chatMessage "user" "Shall I delete it?",
    chatMessage "assistant" "Are you sure?", chatMessage "user" "yes?"]

/-- An exact hit serves the answer of another model in another conversation. -/
theorem other_conversation_served :
    ∃ s hit, (semanticCache plainDigests).run {} (repeatedQuestion otherConversation) = some s ∧
      hit ∈ s.hits ∧ hit.origin.request = otherConversation ∧
      hit.row.savedFor.request = chatCompletion "gpt-4o" [chatMessage "user" "Yes?"] ∧
      hit.row.model = .str "gpt-4o" ∧
      hit.origin.provider.extractModel hit.origin.environ hit.origin.request.body.fields [] =
        .ok (.str "gpt-4o-mini") :=
  ⟨_, _, rfl, .head _, rfl, rfl, rfl, rfl⟩

end BurnLens.Cache
