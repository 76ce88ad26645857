import BurnLens.Proxy.Interceptor

/-! # The semantic cache

What the key of a cached answer is read from (`extract_query_text`, `_hash_system_prompt`), the
rows of `semantic_cache`, and `lookup_exact` and `save` of the manager.
-/

namespace BurnLens.Cache

open Library Providers Proxy

/-! ## The query text -/

/-- The items that a `for` loop takes from a value, nothing where it raises. -/
def iterate : Json → Option (List Json)
  | .arr items => some items
  | .str s => some (s.map fun c => .str [c])
  | .obj fields => some (fields.map fun field => .str field.1)
  | _ => none

def joinTexts : List Json → Option Str
  | [] => some []
  | .str s :: items => (joinTexts items).map (s ++ ·)
  | _ :: _ => none

def partTexts (text : Fields → Option Json) (parts : List Json) : List Json :=
  parts.filterMap fun
    | .obj part => text part
    | _ => none

/-- The text of the last content, as the Google branch reads it. -/
def lastContentText (data : Fields) : Option Str :=
  match (Fields.getD data "contents" .null).orElse (.arr []) with
  | .arr [] => some []
  | .arr (content :: contents) =>
    match (content :: contents).getLast (List.cons_ne_nil _ _) with
    | .obj last => do
      let parts ← iterate ((Fields.getD last "parts" .null).orElse (.arr []))
      joinTexts (partTexts (fun part => part.get? "text") parts)
    | _ => none
  | _ => none

def userText : Json → Option (Option Str)
  | .obj message =>
    if Json.isText "user" (Fields.getD message "role" .null) then
      match Fields.getD message "content" .null with
      | .str content => some (some content)
      | .arr parts =>
        some (joinTexts (partTexts (fun part =>
          if Json.isText "text" (part.getD "type" .null) then some (part.getD "text" (.str [])) else none)
          parts))
      | _ => none
    else none
  | _ => none

def lastMessageText : Json → Option Str
  | .arr [] => some []
  | .arr (message :: messages) =>
    match (message :: messages).getLast (List.cons_ne_nil _ _) with
    | .obj last =>
      match Fields.getD last "content" .null with
      | .str content => some content
      | _ => some []
    | _ => none
  | _ => none

def lastUserText (data : Fields) : Option Str :=
  let messages := (Fields.getD data "messages" .null).orElse (.arr [])
  match iterate messages with
  | some items =>
    match items.reverse.findSome? userText with
    | some text => text
    | none => lastMessageText messages
  | none => none

/-- `extract_query_text`: every exception leaves the empty text, as does a body that is not JSON. -/
def extractQueryText (body : Body) (provider : Str) : Str :=
  match body.json with
  | some (.obj data) =>
    (if provider = "google" then lastContentText data else lastUserText data).getD []
  | _ => []

/-- The content of the first system message that is a string or a list; nothing where an item or
    a text raises. -/
def systemMessage : List Json → Option (Option Str)
  | [] => some none
  | .obj message :: messages =>
    if Json.isText "system" (Fields.getD message "role" .null) then
      match Fields.getD message "content" (.str []) with
      | .str content => some (some content)
      | .arr parts =>
        (joinTexts (partTexts (fun part => some (part.getD "text" (.str []))) parts)).map some
      | _ => systemMessage messages
    else systemMessage messages
  | _ :: _ => none

/-- The text that `_hash_system_prompt` hashes; `dumps` is `json.dumps`. -/
def systemText (dumps : Json → Str) (body : Body) : Option Str :=
  match body.json with
  | some (.obj data) => do
    let messages ← iterate ((Fields.getD data "messages" .null).orElse (.arr []))
    match ← systemMessage messages with
    | some text => some text
    | none =>
      let system := Fields.getD data "system" .null
      match system with
      | .str [] => none
      | .str text => some text
      | system => if system.truthy then some (dumps system) else none
  | _ => none

/-! ## Rows -/

structure Digests where
  sha256 : Str → Str
  sha256Bytes : List UInt8 → Str
  hmac : Str → List UInt8 → Str
  dumps : Json → Str
  lower : Str → Str

structure CacheKey where
  systemPromptHash : Str
  queryText : Str
  customerHash : Option Str
deriving DecidableEq

structure Origin where
  provider : Provider
  request : Request
  environ : Environ

/-- A row of `semantic_cache`, and the request that it was saved for. -/
structure CacheRow where
  id : Str
  key : CacheKey
  provider : Str
  model : Json
  responseBody : List UInt8
  responseHash : Option Str
  signature : Option Str
  expiresAt : Option Time
  savedFor : Origin

/-- `LOWER` of SQLite, which leaves all but the ASCII letters alone. -/
def sqliteLower (s : Str) : Str :=
  s.map fun c => if 'A' ≤ c ∧ c ≤ 'Z' then Char.ofNat (c.toNat + 32) else c

/-- `customer_hash`: a customer that is missing or empty has none. -/
def customerHash (digests : Digests) (tags : Tags) : Option Str :=
  (firstNonempty [tags "customer"]).map digests.sha256

/-- What a lookup and a save of a request are made with. -/
def cacheKey (digests : Digests) (provider : Provider) (tags : Tags) (hashed body : Body) :
    CacheKey where
  systemPromptHash := ((systemText digests.dumps hashed).map digests.sha256).getD []
  queryText := extractQueryText body provider.name
  customerHash := customerHash digests tags

/-- The `WHERE` clause of `lookup_exact`; `datetime` drops the fraction of a second. -/
def CacheRow.selected (row : CacheRow) (key : CacheKey) (now : Time) : Bool :=
  row.key.systemPromptHash = key.systemPromptHash &&
    sqliteLower row.key.queryText = sqliteLower key.queryText &&
    row.key.customerHash = key.customerHash &&
    match row.expiresAt with
    | none => true
    | some expiresAt => decide (now / 1000000 < expiresAt / 1000000)

/-- `_verify_integrity`. -/
def CacheRow.verifies (row : CacheRow) (digests : Digests) (secretKey : Option Str) : Bool :=
  row.responseBody ≠ [] &&
    (match row.responseHash with
    | none | some [] => true
    | some stored => digests.sha256Bytes row.responseBody = stored) &&
    match secretKey, row.signature with
    | some (c :: secret), some (s :: signature) =>
      s :: signature = digests.hmac (c :: secret) row.responseBody
    | _, _ => true

def CacheKey.id (key : CacheKey) (digests : Digests) : Str :=
  digests.sha256 (key.systemPromptHash ++ ':' :: key.customerHash.getD [] ++
    ':' :: digests.lower key.queryText)

def insertOrReplace (rows : List CacheRow) (row : CacheRow) : List CacheRow :=
  rows.filter (fun other => other.id ≠ row.id) ++ [row]

end BurnLens.Cache
