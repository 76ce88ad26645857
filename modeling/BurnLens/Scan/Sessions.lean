import BurnLens.Cost.Calculator
import BurnLens.Library.Numeral

/-! # Session logs

What the importers read in the session files of Claude Code, Codex and Gemini CLI: the billable
entries, in order, each under an identifier that is meant to be the same in every scan.
-/

namespace BurnLens.Scan

open Library

/-! ## The language -/

/-- `json.loads`, `str` of a value, and `int` of a text.  A text from `json.loads` may have a lone
    surrogate, which UTF-8 does not encode. -/
structure Python where
  loads : Str → Option Json
  -- what `json.loads` raises on an integer of too many digits, or on values nested too deep
  loadsRaises : Str → Option PyError := fun _ => none
  str : Json → Str
  parseInt : Str → Option Int
  empty : loads [] = none ∧ loadsRaises [] = none
  encodes : Str → Bool := fun _ => true
  -- `Path.exists` and `Path.is_dir`, on a component of the path that is too long
  directoryRaises : Str → Option PyError := fun _ => none
  -- the name of the repository there
  directoryEncodes : Str → Bool := fun _ => true

namespace Python

variable (py : Python)

/-- `json.loads(text)`, in a `try` that catches `JSONDecodeError`. -/
def load (text : Str) : Except PyError (Option Json) :=
  match py.loadsRaises text with
  | some error => .error error
  | none => .ok (py.loads text)

def int : Json → Except PyError Int
  | .bool b => .ok b.toInt
  | .int n => .ok n
  | .float (.fin x) => .ok (x.num.tdiv x.den)
  | .float (.inf _) => .error .overflowError
  | .float .nan => .error .valueError
  | .str s =>
    match py.parseInt s with
    | some n => .ok n
    | none => .error .valueError
  | _ => .error .typeError

/-- `int(fields.get(name, 0) or 0)`. -/
def count (fields : Fields) (name : Str) : Except PyError Int :=
  py.int ((fields.getD name (.int 0)).orElse (.int 0))

def encodable (values : List Json) : Bool :=
  values.all fun
    | .str text => py.encodes text
    | _ => true

/-- The identities of a developer and of a repository are looked up in a directory; what is no text
    has no last component. -/
def checkDirectory : Json → Except PyError Unit
  | .str path =>
    match py.directoryRaises path with
    | some error => .error error
    | none => .ok ()
  | _ => .error .attributeError

def directoryEncodable : Json → Bool
  | .str path => py.directoryEncodes path
  | _ => true

end Python

def get (fields : Fields) (name : Str) : Json := fields.getD name .null

/-- `_parse_timestamp`, which reads any text, and nothing else. -/
def checkTimestamp (value : Json) : Except PyError Unit :=
  if !value.truthy then .ok ()
  else match value with
  | .str _ => .ok ()
  | _ => .error .attributeError

/-- What is billed of an entry. -/
structure Billable where
  requestId : Str
  model : Json
  inputTokens : Int
  outputTokens : Int
  reasoningTokens : Int := 0
  cacheReadTokens : Int
  cacheWriteTokens : Int := 0
  -- what is stored of the texts of the entry
  encodable : Bool := true

/-- An entry that is read: skipped, billable, or one that makes the reader raise. -/
abbrev ReadEntry := Except PyError (Option Billable)

/-- The items that an iterator yields for it. -/
def yields : ReadEntry → List (Except PyError Billable)
  | .ok none => []
  | .ok (some billable) => [.ok billable]
  | .error error => [.error error]

def claudeEntry (py : Python) (entry : Fields) : ReadEntry :=
  if !(get entry "type").isText "assistant" then .ok none
  else match get entry "message" with
  | .obj message =>
    let model := get message "model"
    match get message "usage" with
    | .obj usage =>
      let requestId := get message "id"
      if !model.truthy || model.isText "<synthetic>" || !requestId.truthy then .ok none
      else do
        let inputTokens ← py.count usage "input_tokens"
        let outputTokens ← py.count usage "output_tokens"
        let cacheReadTokens ← py.count usage "cache_read_input_tokens"
        let cacheWriteTokens ← py.count usage "cache_creation_input_tokens"
        checkTimestamp (get entry "timestamp")
        return some
          { requestId := py.str requestId, model, inputTokens, outputTokens, cacheReadTokens
            cacheWriteTokens
            encodable := py.encodable [.str (py.str requestId), model] }
    | _ => .ok none
  | _ => .ok none

/-! ## Codex -/

structure CodexState where
  cwd : Option Json := none
  model : Option Json := none
  ordinal : Nat := 0

def CodexState.checkCwd (py : Python) (s : CodexState) : Except PyError Unit :=
  match s.cwd with
  | none => .ok ()
  | some cwd => py.checkDirectory cwd

/-- The model and the name of the working directory can be stored. -/
def CodexState.encodable (py : Python) (s : CodexState) : Bool :=
  py.encodable s.model.toList && s.cwd.toList.all py.directoryEncodable

/-- A `token_count` event. -/
def tokenCount (py : Python) (sessionId : Str) (s : CodexState) (entry payload : Fields) :
    ReadEntry :=
  match get payload "info" with
  | .obj info =>
    if List.isEmpty info then .ok none
    else match (get info "last_token_usage").orElse (.obj []) with
    | .obj last => do
      let inputTokens ← py.count last "input_tokens"
      let outputTokens ← py.count last "output_tokens"
      let cacheReadTokens ← py.count last "cached_input_tokens"
      let reasoningTokens ← py.count last "reasoning_output_tokens"
      if inputTokens + outputTokens + reasoningTokens = 0 then return none
      match s.model with
      | none => return none
      | some model => do
        s.checkCwd py
        checkTimestamp (get entry "timestamp")
        return some
          { requestId := sessionId ++ ":" ++ decimal s.ordinal, model, inputTokens
            outputTokens := max 0 (outputTokens - reasoningTokens), reasoningTokens
            cacheReadTokens
            encodable := s.encodable py }
    | _ => .ok none
  | _ => .ok none

def codexEntry (py : Python) (sessionId : Str) (s : CodexState) (entry : Fields) :
    CodexState × ReadEntry :=
  let event := Fields.getD entry "type" (.str [])
  let payload := (get entry "payload").orElse (.obj [])
  if event.isText "session_meta" && s.cwd.isNone then
    match payload with
    | .obj payload =>
      let cwd := get payload "cwd"
      ({ s with cwd := if cwd.truthy then some cwd else none }, .ok none)
    | _ => (s, .error .attributeError)
  else if event.isText "turn_context" then
    match payload with
    | .obj payload =>
      let model := get payload "model"
      (if model.truthy then { s with model := some model } else s, .ok none)
    | _ => (s, .error .attributeError)
  else if event.isText "event_msg" then
    match payload with
    | .obj payload =>
      if (get payload "type").isText "token_count" then
        ({ s with ordinal := s.ordinal + 1 }, tokenCount py sessionId s entry payload)
      else (s, .ok none)
    | _ => (s, .error .attributeError)
  else (s, .ok none)

/-- `_record_from_gemini_message`, but for its cost. -/
def geminiMessage (py : Python) (sessionId : Str) (turnOrdinal : Nat) (msg : Fields) : ReadEntry :=
  match get msg "tokens" with
  | .obj tokens => do
    let model := get msg "model"
    if !model.truthy then return none
    let inputTokens ← py.count tokens "input"
    let outputTokens ← py.count tokens "output"
    let cacheReadTokens ← py.count tokens "cached"
    let reasoningTokens ← py.count tokens "thoughts"
    if inputTokens + outputTokens + reasoningTokens = 0 then return none
    checkTimestamp (get msg "timestamp")
    let messageId := (get msg "id").orElse (.str (decimal turnOrdinal))
    return some
      { requestId := sessionId ++ ":" ++ py.str messageId, model, inputTokens, outputTokens
        reasoningTokens, cacheReadTokens
        encodable := py.encodable [.str (py.str messageId), model] }
  | _ => .ok none

/-- A line of the newer format; only records are counted. -/
def geminiEntry (py : Python) (sessionId : Str) (ordinal : Nat) (entry : Fields) :
    Nat × ReadEntry :=
  if entry.has "$set" || !(get entry "type").isText "gemini" then (ordinal, .ok none)
  else
    let read := geminiMessage py sessionId ordinal entry
    match read with
    | .ok (some _) => (ordinal + 1, read)
    | _ => (ordinal, read)

/-- The messages of the older format, which are all counted. -/
def geminiMessages (py : Python) (sessionId : Str) (messages : Json) :
    List (Except PyError Billable) :=
  match messages with
  | .arr items =>
    items.zipIdx.flatMap fun (msg, ordinal) =>
      match msg with
      | .obj msg =>
        if (get msg "type").isText "gemini" then yields (geminiMessage py sessionId ordinal msg)
        else []
      | _ => []
  | .str _ | .obj _ => []
  | _ => [.error .typeError]

/-! ## Files -/

/-- A session file: its lines, and what is there of the next one. -/
structure SessionFile where
  sessionId : Str
  -- the older format of Gemini CLI, which is one document
  isJson : Bool := false
  lines : List Str := []
  torn : Str := []

namespace SessionFile

variable (py : Python) (file : SessionFile)

def texts : List Str := file.lines ++ [file.torn]

/-- What a line is to all readers of lines: an object, or nothing. -/
def readEntry (line : Str) : Except PyError (Option Fields) :=
  let text := strip line
  if text = [] then .ok none
  else match py.load text with
  | .error error => .error error
  | .ok (some (.obj entry)) => .ok (some entry)
  | .ok _ => .ok none

def readLine (line : Str) : Option (Except PyError Fields) :=
  match readEntry py line with
  | .error error => some (.error error)
  | .ok entry => entry.map .ok

def entries : List (Except PyError Fields) := file.texts.filterMap (readLine py)

/-- A reader with a state, over the entries. -/
def readEntries {σ : Type} (read : σ → Fields → σ × ReadEntry) :
    σ → List (Except PyError Fields) → List (Except PyError Billable)
  | _, [] => []
  | _, .error error :: _ => [.error error]
  | s, .ok entry :: entries =>
    let (s', its) := read s entry
    yields its ++ readEntries read s' entries

/-- `_parse_json`. -/
def geminiDocument : List (Except PyError Billable) :=
  match py.load file.texts.flatten with
  | .error error => [.error error]
  | .ok (some (.obj data)) =>
    geminiMessages py file.sessionId ((get data "messages").orElse (.arr []))
  | .ok _ => []

end SessionFile

inductive Tool where
  | claude
  | codex
  | gemini
deriving DecidableEq

namespace Tool

def source : Tool → Str
  | claude => "scan_claude"
  | codex => "scan_codex"
  | gemini => "scan_gemini"

def provider : Tool → Str
  | claude => "anthropic"
  | codex => "openai"
  | gemini => "google"

def requestPath : Tool → Str
  | claude => "/v1/messages"
  | codex => "/codex/session"
  | gemini => "/gemini/session"

/-- `parse_session`, but for the costs. -/
def items (py : Python) (tool : Tool) (file : SessionFile) : List (Except PyError Billable) :=
  match tool with
  | claude =>
    SessionFile.readEntries (fun s entry => (s, claudeEntry py entry)) () (file.entries py)
  | codex => SessionFile.readEntries (codexEntry py file.sessionId) {} (file.entries py)
  | gemini =>
    if file.isJson then file.geminiDocument py
    else SessionFile.readEntries (geminiEntry py file.sessionId) 0 (file.entries py)

end Tool

/-! ## Growth -/

/-- The text is no object, or not yet. -/
structure Python.Passes (py : Python) (text : Str) : Prop where
  loads : py.loadsRaises text = none
  noObject : ∀ entry, py.loads text ≠ some (.obj entry)

/-- Not yet an object. -/
structure Unfinished (py : Python) (text : Str) : Prop where
  line : py.Passes (strip text)
  document : py.Passes text

variable {py : Python} {tool : Tool} {file : SessionFile} {line : Str}

theorem readEntries_append {σ : Type} {read : σ → Fields → σ × ReadEntry} (s : σ)
    (before after : List (Except PyError Fields)) :
    SessionFile.readEntries read s before <+:
      SessionFile.readEntries read s (before ++ after) := by
  induction before generalizing s with
  | nil => exact List.nil_prefix
  | cons entry before inductionHypothesis =>
    cases entry with
    | error error => exact List.prefix_refl _
    | ok entry =>
      simp only [SessionFile.readEntries, List.cons_append]
      exact (List.prefix_append_right_inj _).mpr (inductionHypothesis _)

theorem Python.Passes.load {text : Str} (passes : py.Passes text) :
    py.load text = .ok (py.loads text) := by
  rw [Python.load, passes.loads]

theorem readLine_unfinished (unfinished : Unfinished py line) : SessionFile.readLine py line = none := by
  simp only [SessionFile.readLine, SessionFile.readEntry, unfinished.line.load]
  by_cases blank : strip line = []
  · rw [if_pos blank]
    rfl
  · rw [if_neg blank]
    cases loaded : py.loads (strip line) with
    | none => rfl
    | some value =>
      cases value with
      | obj entry => exact absurd loaded (unfinished.line.noObject entry)
      | _ => rfl

theorem passes_nil : py.Passes [] := by
  refine ⟨py.empty.2, fun entry loaded => ?_⟩
  rw [py.empty.1] at loaded
  cases loaded

theorem unfinished_nil : Unfinished py [] := ⟨passes_nil, passes_nil⟩

theorem entries_unfinished (unfinished : Unfinished py file.torn) :
    file.entries py = file.lines.filterMap (SessionFile.readLine py) := by
  simp [SessionFile.entries, SessionFile.texts, readLine_unfinished unfinished]

def SessionFile.appendLine (file : SessionFile) (line : Str) : SessionFile :=
  { file with lines := file.lines ++ [line], torn := [] }

theorem entries_appendLine (unfinished : Unfinished py file.torn) (line : Str) :
    (file.appendLine line).entries py =
      file.entries py ++ [line].filterMap (SessionFile.readLine py) := by
  rw [entries_unfinished unfinished, entries_unfinished unfinished_nil,
    SessionFile.appendLine, List.filterMap_append]

theorem geminiDocument_unfinished (unfinished : Unfinished py file.torn) (empty : file.lines = []) :
    file.geminiDocument py = [] := by
  simp only [SessionFile.geminiDocument, SessionFile.texts, empty, List.nil_append,
    List.flatten_cons, List.flatten_nil, List.append_nil, unfinished.document.load]
  split
  · next raised => cases raised
  · next data decoded => exact absurd (Except.ok.inj decoded) (unfinished.document.noObject data)
  · rfl

/-- A line that is appended leaves what was read, its torn part having been nothing. -/
theorem items_appendLine (unfinished : Unfinished py file.torn)
    (single : file.isJson = true → file.lines = []) :
    tool.items py file <+: tool.items py (file.appendLine line) := by
  have longer := entries_appendLine unfinished line
  cases tool with
  | claude =>
    simp only [Tool.items, longer]
    exact readEntries_append ..
  | codex =>
    simp only [Tool.items, longer]
    exact readEntries_append ..
  | gemini =>
    simp only [Tool.items]
    split
    · next document =>
      rw [geminiDocument_unfinished unfinished (single document)]
      exact List.nil_prefix
    · next lines =>
      have still : ¬ (file.appendLine line).isJson = true := lines
      rw [if_neg still, longer]
      exact readEntries_append ..

theorem items_torn {torn : Str} (unfinished : Unfinished py file.torn)
    (unfinished' : Unfinished py torn) (single : file.isJson = true → file.lines = []) :
    tool.items py { file with torn } = tool.items py file := by
  have same : SessionFile.entries py { file with torn } = file.entries py := by
    rw [entries_unfinished unfinished, entries_unfinished unfinished']
  cases tool with
  | claude => simp only [Tool.items, same]
  | codex => simp only [Tool.items, same]
  | gemini =>
    simp only [Tool.items, same]
    split
    · next document =>
      rw [geminiDocument_unfinished unfinished (single document)]
      exact geminiDocument_unfinished unfinished' (single document)
    · rfl

theorem zeros_injective : Function.Injective fun i => List.replicate i '0' :=
  List.replicate_left_injective _

end BurnLens.Scan
