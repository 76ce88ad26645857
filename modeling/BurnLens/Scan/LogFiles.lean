import BurnLens.Library.Tolerance
import BurnLens.Library.Utf8
import BurnLens.Scan.Importer

/-! # Session files as they are on disk

The scan of the session files, line by line as bytes.  Reading raises at what is not UTF-8, and
`json.loads` may raise something else than a `JSONDecodeError`.
-/

namespace BurnLens.Scan

open Library Cost Storage

/-- What the scans compute with. -/
structure LogImporter where
  importer : Importer
  -- a text is its own `str`
  strText : ∀ text, importer.python.str (.str text) = text

def LogImporter.python (w : LogImporter) : Python := w.importer.python

theorem LogImporter.str_text (w : LogImporter) (text : Str) : w.python.str (.str text) = text :=
  w.strText text

/-- A session file: its lines with their ends. -/
structure LogFile where
  sessionId : Str
  -- the older format of Gemini CLI, which is one document
  isJson : Bool := false
  lines : List (List UInt8)
  -- the lines that are in the same buffer with one that is not UTF-8, and before it
  buffered : Nat := 0

namespace LogFile

variable (file : LogFile)

def Decodes : Prop := ∀ line ∈ file.lines, (decodeStrict line).isSome = true

instance : Decidable file.Decodes := inferInstanceAs (Decidable (∀ _ ∈ _, _))

/-- The lines that are given out, up to where the reading raises. -/
def texts : List Str :=
  if file.Decodes then file.lines.filterMap decodeStrict
  else
    let before := (file.lines.takeWhile fun line => (decodeStrict line).isSome).filterMap decodeStrict
    before.take (before.length - file.buffered)

/-- A `UnicodeDecodeError`, which is a `ValueError`. -/
def failure : List (Except PyError Billable) :=
  if file.Decodes then [] else [.error .valueError]

end LogFile

/-- A reader of entries, as a reader of lines; a blank line is nobody's entry. -/
def LogImporter.lines {σ : Type} (w : LogImporter) (reader : EntryReader σ Fields Billable) :
    EntryReader σ Str Billable :=
  reader.decoding (SessionFile.readEntry w.python) fun line => strip line = []

/-! ## Well-formed entries -/

/-- The number of tokens that a field gives, where it is a number or missing. -/
def tokenNumber : Json → Option Int
  | .null => some 0
  | .int n => some n
  | .float (.fin x) => some (x.num.tdiv x.den)
  | _ => none

def isPlain : Json → Bool
  | .null | .str _ => true
  | _ => false

/-- Numbers of tokens under these names, or nothing. -/
def areTokens (names : List Str) : Json → Bool
  | .null => true
  | .obj fields => names.all fun name => (tokenNumber (get fields name)).isSome
  | _ => false

def claudeCounts : List Str :=
  ["input_tokens", "output_tokens", "cache_read_input_tokens", "cache_creation_input_tokens"]

def codexCounts : List Str :=
  ["input_tokens", "output_tokens", "cached_input_tokens", "reasoning_output_tokens"]

def geminiCounts : List Str := ["input", "output", "cached", "thoughts"]

/-- An entry of Claude Code; of the entries of other types, nothing is asked. -/
def claudeWellFormed (entry : Fields) : Bool :=
  !(get entry "type").isText "assistant" ||
    match get entry "message" with
    | .obj message =>
      isPlain (get message "model") && isPlain (get message "id") &&
        areTokens claudeCounts (get message "usage") && isPlain (get entry "timestamp")
    | _ => false

/-- The payload of a `token_count` event. -/
def tokenCountWellFormed (entry payload : Fields) : Bool :=
  match get payload "info" with
  | .null => true
  | .obj info => areTokens codexCounts (get info "last_token_usage") && isPlain (get entry "timestamp")
  | _ => false

def codexWellFormed (entry : Fields) : Bool :=
  let event := Fields.getD entry "type" (.str [])
  if event.isText "session_meta" || event.isText "turn_context" || event.isText "event_msg" then
    match get entry "payload" with
    | .null => true
    | .obj payload =>
      if event.isText "session_meta" then isPlain (get payload "cwd")
      else if event.isText "turn_context" then isPlain (get payload "model")
      else !(get payload "type").isText "token_count" || tokenCountWellFormed entry payload
    | _ => false
  else true

def geminiMessageWellFormed (msg : Fields) : Bool :=
  areTokens geminiCounts (get msg "tokens") && isPlain (get msg "model") &&
    isPlain (get msg "timestamp") && isPlain (get msg "id")

def geminiWellFormed (entry : Fields) : Bool :=
  entry.has "$set" || !(get entry "type").isText "gemini" || geminiMessageWellFormed entry

/-! ## Readers -/

def claudeReader (py : Python) : EntryReader Unit Fields Billable where
  step s entry := (s, claudeEntry py entry)
  wellFormed := claudeWellFormed

def codexReader (py : Python) (sessionId : Str) : EntryReader CodexState Fields Billable where
  step := codexEntry py sessionId
  wellFormed := codexWellFormed

def geminiReader (py : Python) (sessionId : Str) : EntryReader Nat Fields Billable where
  step := geminiEntry py sessionId
  wellFormed := geminiWellFormed

/-- The messages of a document, with their index. -/
def messageReader (py : Python) (sessionId : Str) : EntryReader Nat Json Billable where
  step ordinal message :=
    (ordinal + 1, match message with
      | .obj msg =>
        if (get msg "type").isText "gemini" then geminiMessage py sessionId ordinal msg
        else .ok none
      | _ => .ok none)
  wellFormed
    | .obj msg => !(get msg "type").isText "gemini" || geminiMessageWellFormed msg
    | _ => false

namespace LogFile

variable (w : LogImporter) (file : LogFile)

/-- What `_parse_json` reads. -/
def document : Except PyError (Option Json) :=
  if file.Decodes then w.python.load file.texts.flatten else .error .valueError

/-- The value of `data.get("messages") or []`. -/
def messages (data : Fields) : Json := (get data "messages").orElse (.arr [])

def documentItems : List (Except PyError Billable) :=
  match file.document w with
  | .error error => [.error error]
  | .ok (some (.obj data)) => geminiMessages w.python file.sessionId (messages data)
  | .ok _ => []

/-- `parse_session`, but for the costs. -/
def items (tool : Tool) : List (Except PyError Billable) :=
  match tool with
  | .claude => (w.lines (claudeReader w.python)).run () file.texts ++ file.failure
  | .codex => (w.lines (codexReader w.python file.sessionId)).run {} file.texts ++ file.failure
  | .gemini =>
    if file.isJson then file.documentItems w
    else (w.lines (geminiReader w.python file.sessionId)).run 0 file.texts ++ file.failure

/-! ## Without the corrupt entries -/

/-- The file with the lines that are no corrupt entries. -/
def keeping {σ : Type} (reader : EntryReader σ Str Billable) : LogFile :=
  { file with
    lines := file.lines.filter fun line =>
      match decodeStrict line with
      | some text => reader.wellFormed text
      | none => false }

/-- What is read of the file without its corrupt entries; of a document that is no list of
    messages, nothing. -/
def soundItems (tool : Tool) : List (Except PyError Billable) :=
  match tool with
  | .claude => (file.keeping (w.lines (claudeReader w.python))).items w tool
  | .codex => (file.keeping (w.lines (codexReader w.python file.sessionId))).items w tool
  | .gemini =>
    if file.isJson then
      match file.document w with
      | .ok (some (.obj data)) =>
        match messages data with
        | .arr items =>
          geminiMessages w.python file.sessionId
            (.arr ((messageReader w.python file.sessionId).sound items))
        | _ => []
      | _ => []
    else (file.keeping (w.lines (geminiReader w.python file.sessionId))).items w tool

end LogFile

/-- `scan_claude_code`, `scan_codex` and `scan_gemini_cli`. -/
def LogImporter.scan (w : LogImporter) (today : Date) (tool : Tool) (files : List LogFile)
    (rows : List ScanRow) (drawn : Nat) : ScanState × Option PyError :=
  w.importer.importItems today tool { rows, drawn, result := { sessionsFound := files.length } }
    (files.flatMap fun file => file.items w tool)

/-- The same record; the ordinal in a request id of Codex may be another one. -/
def Tool.same : Tool → Billable → Billable → Prop
  | .codex, b, b' => { b with requestId := b'.requestId } = b'
  | _, b, b' => b = b'

/-- The scan does not raise, and every file gives the records that it gives without its corrupt
    entries. -/
structure Unblocked (w : LogImporter) (today : Date) (tool : Tool) (files : List LogFile)
    (rows : List ScanRow) (drawn : Nat) : Prop where
  runs : (w.scan today tool files rows drawn).2 = none
  imports : ∀ file ∈ files, List.Forall₂
    (fun item item' => ∃ b b', item = .ok b ∧ item' = .ok b' ∧ tool.same b b')
    (file.items w tool) (file.soundItems w tool)

end BurnLens.Scan
