import BurnLens.Providers.Registry

/-! # Request headers

What the proxy reads from the headers of a request (tags, the auth token) and which of them it
forwards.  A header map is a list of pairs; names are compared in lower case, and of two
spellings of one name the later is read.
-/

namespace BurnLens.Proxy

open Library Providers

abbrev Headers := List (Str × Str)

/-- `{k.lower(): v for k, v in headers.items()}.get(name)`. -/
def lowerGet (headers : Headers) (name : Str) : Option Str :=
  (headers.reverse.find? fun header => lower header.1 = name).map Prod.snd

def allowedTags : List Str :=
  ["team", "feature", "app_id", "env", "repo", "branch", "commit_sha",
   "workspace_id", "org_id", "trace_id", "customer", "key_label", "service",
   "dev", "pr", "agent_id", "workflow_id", "session",
   "workflow_run_id", "run_id", "task_id", "action_id", "parent_run_id", "root_run_id"]

/-- The tag that a header sets: hyphens of the name normalise to underscores. -/
def tagName (header : Str) : Option Str :=
  let header := lower header
  if startsWith "x-burnlens-tag-" header then
    some ((removePrefix "x-burnlens-tag-" header).map fun c => if c = '-' then '_' else c)
  else none

def tagValue (value : Str) : Str := (strip value).take 100

abbrev Tags := Str → Option Str

def headerTag (headers : Headers) (tag : Str) : Option Str :=
  (headers.reverse.find? fun header => tagName header.1 = some tag).map
    fun header => tagValue header.2

def environTag (environ : Environ) (tag : Str) : Option Str :=
  match environ ("BURNLENS_TAG_" ++ tag.map Char.toUpper) with
  | some [] | none => none
  | some value => some (tagValue value)

/-- `_extract_tags`: headers first, the environment for the allowed tags they leave out. -/
def extractTags (environ : Environ) (headers : Headers) : Tags := fun tag =>
  if tag ∈ allowedTags then (headerTag headers tag).or (environTag environ tag) else none

def Tags.set (tags : Tags) (tag value : Str) : Tags := fun name =>
  if name = tag then some value else tags name

def Tags.setDefault (tags : Tags) (tag value : Str) : Tags := fun name =>
  if name = tag then (tags name).or (some value) else tags name

@[simp] theorem Tags.set_self (tags : Tags) (tag value : Str) : tags.set tag value tag = some value :=
  if_pos rfl

theorem Tags.set_of_ne (tags : Tags) {tag name : Str} (value : Str) (other : name ≠ tag) :
    tags.set tag value name = tags name :=
  if_neg other

@[simp] theorem Tags.setDefault_self (tags : Tags) (tag value : Str) :
    tags.setDefault tag value tag = (tags tag).or (some value) :=
  if_pos rfl

/-- `auth.removeprefix("Bearer ").removeprefix("bearer ").strip()`. -/
def bearerToken (auth : Str) : Str :=
  strip (removePrefix "bearer " (removePrefix "Bearer " auth))

def valueToken (name value : Str) : Str :=
  if name = "authorization" then bearerToken value else strip value

def headerToken (headers : Headers) (name : Str) : Option (Str × Str) :=
  match lowerGet headers name with
  | some value => if valueToken name value = [] then none else some (valueToken name value, name)
  | none => none

def authHeaders : List Str := ["authorization", "x-api-key", "x-goog-api-key"]

/-- `_extract_auth_token`: the token and the lowercased header it arrived in. -/
def extractAuthToken (headers : Headers) : Option (Str × Str) :=
  authHeaders.findSome? (headerToken headers)

/-- `_extract_api_key_hash`: the hash of the same token. -/
def extractApiKeyHash (sha256 : Str → Str) (headers : Headers) : Option Str :=
  (extractAuthToken headers).map fun token => sha256 token.1

example : extractAuthToken [("X-Api-Key", "k"), ("Authorization", "Bearer t ")] =
    some ("t".toList, "authorization".toList) := by decide

def stripRequestHeaders : List Str :=
  ["host", "content-length", "transfer-encoding", "connection", "keep-alive", "te", "trailers",
   "upgrade", "accept-encoding"]

def stripResponseHeaders : List Str := stripRequestHeaders ++ [("content-encoding" : Str)]

def forwards (name : Str) : Bool :=
  lower name ∉ stripRequestHeaders && lower name ∉ headersToStrip.map lower &&
    !startsWith "x-burnlens-" (lower name)

def cleanRequestHeaders (headers : Headers) : Headers := headers.filter fun header => forwards header.1

def authValue (name key : Str) : Str := if name = "authorization" then "Bearer " ++ key else key

/-- The swap of a virtual key: every spelling of the header goes, and the real key comes. -/
def swapHeader (headers : Headers) (name realKey : Str) : Headers :=
  headers.filter (fun header => lower header.1 ≠ name) ++ [(name, authValue name realKey)]

theorem forwards_of_auth {name : Str} (auth : lower name ∈ authHeaders) : forwards name = true := by
  have kept : ∀ header ∈ authHeaders,
      (header ∉ stripRequestHeaders && header ∉ headersToStrip.map lower &&
        !startsWith "x-burnlens-" header) = true := by decide
  exact kept (lower name) auth

theorem lower_authHeader {name : Str} (auth : name ∈ authHeaders) : lower name = name := by
  have lowered : ∀ header ∈ authHeaders, lower header = header := by decide
  exact lowered name auth

theorem extractAuthToken_mem {headers : Headers} {token name : Str}
    (found : extractAuthToken headers = some (token, name)) : name ∈ authHeaders := by
  obtain ⟨header, member, read⟩ := List.exists_of_findSome?_eq_some found
  simp only [headerToken] at read
  split at read
  · split at read
    · cases read
    · cases read; exact member
  · cases read

end BurnLens.Proxy
