import BurnLens.Library.JsonLoads
import BurnLens.Proxy.Interceptor

/-! # The virtual keys of a gateway

`virtual_keys.py` keeps the hash of a token and the text of an allowlist.  Each call is one
statement, so what a gate can find is what the calls before it have left.
-/

namespace BurnLens.Proxy

open Library Providers

/-! ## The table -/

structure VirtualKeyRow where
  -- the primary key
  label : Str
  team : Str
  provider : Str
  upstreamKeyEnv : Str
  tokenHash : Str
  tokenPrefix : Str
  allowedModels : Option Str
  monthlyBudgetUsd : Option Usd
  createdAt : Str
  revokedAt : Option Str := none

def virtualPrefix : Str := "bl-sk-"

/-- The arguments of `issue_key`; no list of models is the empty one. -/
structure KeyRequest where
  label : Str
  team : Str
  provider : Str
  upstreamKeyEnv : Str
  allowedModels : List Str := []
  monthlyBudgetUsd : Option Usd := none

def KeyRequest.complete (request : KeyRequest) : Bool :=
  request.label ≠ [] && request.team ≠ [] && request.provider ≠ [] && request.upstreamKeyEnv ≠ []

def modelsText (models : List Str) : Option Str :=
  if models = [] then none else some (dumps floatText (.arr (models.map .str)))

/-- `generate_token`, of what `secrets.token_urlsafe` draws. -/
def generateToken (drawn : Str) : Str := virtualPrefix ++ drawn

section

variable (sha256 : Str → Str)

def KeyRequest.row (request : KeyRequest) (rawToken createdAt : Str) : VirtualKeyRow where
  label := request.label
  team := request.team
  provider := request.provider
  upstreamKeyEnv := request.upstreamKeyEnv
  tokenHash := sha256 rawToken
  tokenPrefix := rawToken.take (virtualPrefix.length + 6)
  allowedModels := modelsText request.allowedModels
  monthlyBudgetUsd := request.monthlyBudgetUsd
  createdAt

/-- `issue_key`: the table, the token and its prefix. -/
def issueKey (rows : List VirtualKeyRow) (request : KeyRequest) (drawn now : Str) :
    Except Raised (List VirtualKeyRow × Str × Str) :=
  if !request.complete then
    .error ⟨"ValueError", "label, team, provider, and upstream_key_env are all required"⟩
  else if rows.any fun row => row.label = request.label then
    .error ⟨"VirtualKeyExists", "label '" ++ request.label ++ "' already in use"⟩
  else
    let row := request.row sha256 (generateToken drawn) now
    .ok (rows ++ [row], generateToken drawn, row.tokenPrefix)

/-- `revoke_key`, and whether it revoked a live key. -/
def revokeKey (rows : List VirtualKeyRow) (label now : Str) : List VirtualKeyRow × Bool :=
  let where_ := fun row : VirtualKeyRow => row.label = label && row.revokedAt.isNone
  (rows.map fun row => if where_ row then { row with revokedAt := some now } else row, rows.any where_)

def VirtualKeyRow.key (row : VirtualKeyRow) (allowedModels : List Str) : VirtualKey where
  label := row.label
  team := row.team
  provider := row.provider
  upstreamKeyEnv := row.upstreamKeyEnv
  allowedModels
  monthlyBudgetUsd := row.monthlyBudgetUsd

/-- The strings of a list; nothing else is equal to the name of a model. -/
def strings (items : List Json) : List Str :=
  items.filterMap fun
    | .str s => some s
    | _ => none

def resolve (rows : List VirtualKeyRow) (tokenHash : Str) : Except PyError (Option VirtualKey) :=
  match rows.find? fun row => row.tokenHash = tokenHash && row.revokedAt.isNone with
  | none => .ok none
  | some row =>
    match row.allowedModels with
    | none | some [] => .ok (some (row.key []))
    | some text =>
      match loads text with
      | some (.arr items) => .ok (some (row.key (strings items)))
      | _ => .error .valueError

inductive KeyCall where
  | issue (request : KeyRequest) (drawn now : Str)
  | revoke (label now : Str)

/-- The table after some calls, the newest first; one that raises leaves it as it was. -/
def keysAfter : List KeyCall → List VirtualKeyRow
  | [] => []
  | .issue request drawn now :: earlier =>
    match issueKey sha256 (keysAfter earlier) request drawn now with
    | .ok (rows, _) => rows
    | .error _ => keysAfter earlier
  | .revoke label now :: earlier => (revokeKey (keysAfter earlier) label now).1

end

/-- A key as it was handed out. -/
structure IssuedKey where
  token : Str
  request : KeyRequest
  createdAt : Str

def KeyCall.issues (label : Str) : KeyCall → Bool
  | .issue request _ _ => request.complete && request.label = label
  | .revoke _ _ => false

/-- The keys that are handed out and not revoked, the oldest first.  A label is used once. -/
def keysInForce : List KeyCall → List IssuedKey
  | [] => []
  | .issue request drawn now :: earlier =>
    if request.complete && !earlier.any (KeyCall.issues request.label) then
      keysInForce earlier ++ [⟨generateToken drawn, request, now⟩]
    else keysInForce earlier
  | .revoke label _ :: earlier => (keysInForce earlier).filter fun key => key.request.label ≠ label

def IssuedKey.key (key : IssuedKey) : VirtualKey where
  label := key.request.label
  team := key.request.team
  provider := key.request.provider
  upstreamKeyEnv := key.request.upstreamKeyEnv
  allowedModels := key.request.allowedModels
  monthlyBudgetUsd := key.request.monthlyBudgetUsd

/-! ## The table keeps the keys -/

section

variable {sha256 : Str → Str} {calls : List KeyCall}

theorem areValues_strings (models : List Str) : Json.AreValues (models.map .str) := by
  induction models with
  | nil => trivial
  | cons model models inductionHypothesis => exact ⟨trivial, inductionHypothesis⟩

theorem strings_map_str (models : List Str) : strings (models.map .str) = models := by
  rw [strings, List.filterMap_map]
  exact List.filterMap_some

theorem loads_modelsText (models : List Str) :
    loads (dumps floatText (.arr (models.map .str))) = some (.arr (models.map .str)) := by
  have read := @loads_dumps (.arr (models.map .str)) (areValues_strings models) [] (by simp)
  rwa [List.append_nil] at read

def IssuedKey.row (sha256 : Str → Str) (key : IssuedKey) : VirtualKeyRow :=
  key.request.row sha256 key.token key.createdAt

theorem resolve_row (key : IssuedKey) {rows : List VirtualKeyRow} {tokenHash : Str}
    (found : rows.find? (fun row => row.tokenHash = tokenHash && row.revokedAt.isNone) =
      some (key.row sha256)) : resolve rows tokenHash = .ok (some key.key) := by
  rw [resolve, found]
  simp only [IssuedKey.row, KeyRequest.row, modelsText]
  by_cases none : key.request.allowedModels = []
  · simp only [none, if_true]
    rw [IssuedKey.key, none]
    rfl
  · obtain ⟨c, text, written, -⟩ := head_dumps (.arr (key.request.allowedModels.map .str)) []
    rw [List.append_nil] at written
    have read := loads_modelsText key.request.allowedModels
    simp only [none, if_false, written] at read ⊢
    rw [read]
    simp only [strings_map_str]
    rfl

/-- The live rows are the keys in force, and a label is taken from its first issue on. -/
structure Kept (sha256 : Str → Str) (calls : List KeyCall) : Prop where
  live : (keysAfter sha256 calls).filter (fun row => row.revokedAt.isNone) =
    (keysInForce calls).map (IssuedKey.row sha256)
  taken : ∀ label, (keysAfter sha256 calls).any (fun row => row.label = label) =
    calls.any (KeyCall.issues label)

theorem keysAfter_issue (request : KeyRequest) (drawn now : Str) (earlier : List KeyCall) :
    keysAfter sha256 (.issue request drawn now :: earlier) =
      if request.complete && !(keysAfter sha256 earlier).any fun row => row.label = request.label then
        keysAfter sha256 earlier ++ [request.row sha256 (generateToken drawn) now]
      else keysAfter sha256 earlier := by
  simp only [keysAfter, issueKey]
  cases request.complete <;>
    cases (keysAfter sha256 earlier).any fun row => row.label = request.label <;> rfl

/-- A revocation takes the row of its label from those that are live. -/
theorem live_revokeKey (rows : List VirtualKeyRow) (label now : Str) :
    (revokeKey rows label now).1.filter (fun row => row.revokedAt.isNone) =
      (rows.filter fun row => row.revokedAt.isNone).filter fun row => row.label ≠ label := by
  have stays : ∀ row : VirtualKeyRow,
      (if row.label = label && row.revokedAt.isNone then { row with revokedAt := some now } else row).revokedAt.isNone =
        (decide (row.label ≠ label) && row.revokedAt.isNone) := by
    intro row
    by_cases its : row.label = label <;> cases live : row.revokedAt.isNone <;> simp [its, live]
  rw [revokeKey, List.filter_map, List.filter_filter]
  simp only [Function.comp_def, stays]
  refine (List.map_congr_left fun row member => ?_).trans (List.map_id _)
  obtain ⟨other, -⟩ := Bool.and_eq_true_iff.mp (List.mem_filter.mp member).2
  rw [if_neg fun both => of_decide_eq_true other (of_decide_eq_true (Bool.and_eq_true_iff.mp both).1)]
  rfl

theorem kept (sha256 : Str → Str) (calls : List KeyCall) : Kept sha256 calls := by
  induction calls with
  | nil => exact ⟨rfl, fun _ => rfl⟩
  | cons call earlier kept =>
    obtain ⟨live, taken⟩ := kept
    cases call with
    | issue request drawn now =>
      have issued := @keysAfter_issue sha256 request drawn now earlier
      rw [taken request.label] at issued
      refine ⟨?_, fun label => ?_⟩
      · rw [issued, keysInForce]
        split
        · rw [List.filter_append, live, List.map_append]
          rfl
        · exact live
      · rw [issued, List.any_cons, KeyCall.issues, ← taken label]
        split
        · next fresh =>
          rw [(Bool.and_eq_true_iff.mp fresh).1, Bool.true_and, List.any_append, Bool.or_comm]
          simp [KeyRequest.row]
        · next refused =>
          -- an incomplete request issues nothing, and a label that is taken stays so
          cases complete : request.complete with
          | false => rfl
          | true =>
            rw [complete, Bool.true_and, Bool.not_eq_true', Bool.not_eq_false] at refused
            by_cases same : request.label = label
            · rw [← same, taken request.label, refused]
              simp
            · simp [same]
    | revoke label now =>
      refine ⟨?_, fun other => ?_⟩
      · rw [keysAfter, live_revokeKey, live, keysInForce, List.filter_map]
        rfl
      · rw [List.any_cons, KeyCall.issues, Bool.false_or, ← taken other, keysAfter, revokeKey, List.any_map]
        congr 1
        funext row
        show decide ((if _ then _ else row : VirtualKeyRow).label = other) = _
        split <;> rfl

theorem resolve_keysAfter (sha256 : Str → Str) (calls : List KeyCall) (tokenHash : Str) :
    resolve (keysAfter sha256 calls) tokenHash =
      .ok (((keysInForce calls).find? fun key => sha256 key.token = tokenHash).map IssuedKey.key) := by
  have found : (keysAfter sha256 calls).find? (fun row => row.tokenHash = tokenHash && row.revokedAt.isNone) =
      ((keysInForce calls).find? fun key => sha256 key.token = tokenHash).map (IssuedKey.row sha256) := by
    calc (keysAfter sha256 calls).find? (fun row => row.tokenHash = tokenHash && row.revokedAt.isNone)
        = ((keysAfter sha256 calls).filter fun row => row.revokedAt.isNone).find? fun row =>
            row.tokenHash = tokenHash := by
          rw [List.find?_filter]
          refine congrArg (List.find? · _) (funext fun row => ?_)
          rw [Bool.decide_and, Bool.decide_eq_true, Bool.decide_eq_true, Bool.and_comm]
      _ = _ := by
          rw [(kept sha256 calls).live, List.find?_map]
          rfl
  cases key : (keysInForce calls).find? fun key => sha256 key.token = tokenHash with
  | none =>
    rw [key] at found
    rw [resolve, found]
    rfl
  | some key' =>
    rw [key] at found
    exact resolve_row key' found

theorem nodup_labels (calls : List KeyCall) :
    ((keysInForce calls).map fun key => key.request.label).Nodup ∧
      ∀ key ∈ keysInForce calls, calls.any (KeyCall.issues key.request.label) = true := by
  induction calls with
  | nil => exact ⟨List.nodup_nil, List.forall_mem_nil _⟩
  | cons call earlier inductionHypothesis =>
    obtain ⟨distinct, issued⟩ := inductionHypothesis
    cases call with
    | issue request drawn now =>
      have later : ∀ key ∈ keysInForce earlier,
          (KeyCall.issue request drawn now :: earlier).any (KeyCall.issues key.request.label) = true := by
        intro key member
        rw [List.any_cons, issued key member, Bool.or_true]
      rw [keysInForce]
      split
      · next fresh =>
        obtain ⟨complete, unused⟩ := Bool.and_eq_true_iff.mp fresh
        refine ⟨?_, ?_⟩
        · rw [List.map_append]
          refine List.nodup_append.mpr ⟨distinct, List.nodup_singleton _, ?_⟩
          intro label member other there same
          obtain ⟨key, earlier_, rfl⟩ := List.mem_map.mp member
          have used := issued key earlier_
          rw [same, List.mem_singleton.mp there] at used
          simp [used] at unused
        · rw [List.forall_mem_append, List.forall_mem_singleton]
          exact ⟨later, by simp [KeyCall.issues, complete]⟩
      · exact ⟨distinct, later⟩
    | revoke label now =>
      refine ⟨distinct.sublist (List.filter_sublist.map _), fun key member => ?_⟩
      rw [List.any_cons, issued key (List.mem_of_mem_filter member), Bool.or_true]

/-- A revoked label is in force no more, whatever is issued later. -/
theorem not_inForce_of_revoked {before after : List KeyCall} {label now : Str}
    (issued : before.any (KeyCall.issues label) = true) :
    ∀ key ∈ keysInForce (after ++ .revoke label now :: before), key.request.label ≠ label := by
  induction after with
  | nil =>
    intro key member
    exact of_decide_eq_true (List.mem_filter.mp member).2
  | cons call after inductionHypothesis =>
    rw [List.cons_append]
    cases call with
    | issue request drawn now' =>
      rw [keysInForce]
      split
      · next fresh =>
        obtain ⟨-, unused⟩ := Bool.and_eq_true_iff.mp fresh
        rw [List.forall_mem_append, List.forall_mem_singleton]
        refine ⟨inductionHypothesis, ?_⟩
        rintro rfl
        simp [issued] at unused
      · exact inductionHypothesis
    | revoke other now' => exact fun key member => inductionHypothesis key (List.mem_of_mem_filter member)

end

/-- The gateway, over the table that the calls have left. -/
def Env.withKeys (env : Env) (calls : List KeyCall) : Env :=
  { env with virtualKey := resolve (keysAfter env.sha256 calls) }

/-- The gate knows the keys in force and no others.  After any calls, a token is resolved to the
oldest key in force with its hash, with the allowlist it was issued with; labels are not used twice,
and a revoked one is never in force again.  So a request that is forwarded for a virtual key has the
hash of a key in force, goes to its provider, allows the model that the proxy identifies, and has the
operator's key that it names in its header. -/
theorem virtual_keys_in_force (env : Env) (calls : List KeyCall) :
    (∀ tokenHash, resolve (keysAfter env.sha256 calls) tokenHash =
      .ok (((keysInForce calls).find? fun key => env.sha256 key.token = tokenHash).map IssuedKey.key)) ∧
    ((keysInForce calls).map fun key => key.request.label).Nodup ∧
    (∀ after label now before, calls = after ++ .revoke label now :: before →
      before.any (KeyCall.issues label) = true → ∀ key ∈ keysInForce calls, key.request.label ≠ label) ∧
    ∀ provider request forwarded token name,
      handleRequest (env.withKeys calls) provider request = .ok forwarded →
      extractAuthToken request.headers = some (token, name) → looksLikeVirtualKey token = true →
      ∃ key ∈ keysInForce calls, env.sha256 key.token = env.sha256 token ∧
        key.request.provider = provider.name ∧
        (∃ identified, identify (env.withKeys calls) provider request = .ok identified ∧
          (key.request.allowedModels = [] ∨
            modelAllowed identified.model key.request.allowedModels = true)) ∧
        ∃ realKey, env.environ key.request.upstreamKeyEnv = some realKey ∧
          forwarded.headers = swapHeader (cleanRequestHeaders request.headers) name realKey := by
  refine ⟨resolve_keysAfter env.sha256 calls, (nodup_labels calls).1, ?_, ?_⟩
  · rintro after label now before rfl issued
    exact not_inForce_of_revoked issued
  · intro provider request forwarded token name handled picked virtual
    obtain ⟨admitted, passed, -, sameHeaders, -⟩ := handleRequest_ok handled
    obtain ⟨identified, gated, identifies, gate, -, -, -, -, headers, -⟩ := admitRequest_ok passed
    rw [sameHeaders, headers]
    obtain ⟨accepted, rfl⟩ | ⟨plain, -⟩ := virtualKeyGate_ok gate
    · obtain ⟨token', name', key, realKey, picked', -, found, sameProvider, allowed, real⟩ := accepted
      rw [picked] at picked'
      cases picked'
      have resolved := (resolve_keysAfter env.sha256 calls (env.sha256 token)).symm.trans found
      obtain ⟨issued, first, rfl⟩ := Option.map_eq_some_iff.mp (Except.ok.inj resolved)
      exact ⟨issued, List.mem_of_find?_eq_some first, of_decide_eq_true (List.find?_some first :),
        sameProvider, ⟨identified, identifies, allowed⟩, realKey, real, rfl⟩
    · have no := plain token name picked
      rw [virtual] at no
      cases no

end BurnLens.Proxy
