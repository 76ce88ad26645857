import BurnLens.Cache.StreamReplay
import BurnLens.Library.SentEvents
import BurnLens.Proxy.SseFraming

/-! # Text through the cache

The text that a client assembles from a stream, and from the stream that is made of the body that is
cached for it.
-/

namespace BurnLens.Cache

open Library Providers Proxy

def field (key : Str) : Json → Json
  | .obj fields => Fields.getD fields key .null
  | _ => .null

def items : Json → List Json
  | .arr items => items
  | _ => []

def textOf : Json → Str
  | .str s => s
  | _ => []

/-- The texts that an event adds to an answer, one for each part of it. -/
def textParts (provider : Provider) (data : Json) : List Str :=
  match provider with
  | .openai =>
    [textOf (field "content" (field "delta" ((items (field "choices" data)).headD .null)))]
  | .anthropic =>
    if Json.isText "content_block_delta" (field "type" data) then
      [textOf (field "text" (field "delta" data))]
    else []
  | .google =>
    (items (field "parts" (field "content" ((items (field "candidates" data)).headD .null)))).map
      fun part => textOf (field "text" part)
  | _ => []

section

variable (json : JsonModule) (provider : Provider)

def eventParts (event : List Str) : List Str :=
  match eventJson json.loads event with
  | some data => textParts provider data
  | none => []

/-- What a client assembles from a stream that it reads as the standard does. -/
def clientText (text : Str) : Str :=
  (streamEvents text).flatMap fun event => (eventParts json provider event).flatten

/-- The body that `_log_streaming_usage` caches for a stream. -/
def cachedBody (text : Str) : Str :=
  reconstructCompleteResponseFromChunks json provider (splitSseEvents provider text)

def replayed (now : Int) (text : Str) : Str :=
  (reconstructStreamingChunks json now provider (cachedBody json provider text)).flatten

/-- The values in the events of the replayed stream, with the names of the events. -/
def replayedValues (now : Int) (res : Fields) (text : Str) : List (Option Str × Json) :=
  match provider with
  | .openai => (openaiChunks now res (.str text)).map fun chunk => (none, chunk)
  | .anthropic => (anthropicEvents res (.str text)).map fun event => (some event.1, event.2)
  | .google => [(none, googleChunk (.str text))]
  | _ => []

/-- The values that are written for a text: the body, and what its stream is made of. -/
def written (now : Int) (text : Str) : List Json :=
  match completeResponse provider text with
  | some res => .obj res :: (replayedValues provider now res text).map Prod.snd
  | none => []

/-- Does the event begin with its data, pass the gate for usage and stand in a piece of its own? -/
def reaches (stream : SentStream) (event : SentEvent) : Bool :=
  event.name.isNone && shouldBufferChunk provider event.dataLine &&
    (stream.lineEnd = ['\n'] || stream.events.length = 1)

/-- The text of the event is what its first part adds, and the event is read. -/
structure TextKept (stream : SentStream) (event : SentEvent) : Prop where
  reached : reaches provider stream event = true
  single : ∀ part ∈ (eventParts json provider event.lines).tail, part = []

end

/-! ## One event -/

section

variable {json : JsonModule} {provider : Provider}

/-- The text that is read where nothing raises. -/
def readText : Except PyError Json → Str
  | .ok value => textOf value
  | .error _ => []

theorem addText_eq (fullContent : Str) (read : Except PyError Json) :
    addText fullContent read = fullContent ++ readText read := by
  cases read with
  | error error => exact (List.append_nil _).symm
  | ok value =>
    cases value with
    | str text => rfl
    | _ => exact (List.append_nil _).symm

theorem readText_getKey (value : Json) (key : Str) :
    readText (getKey value key (.str [])) = textOf (field key value) := by
  cases value with
  | obj fields =>
    show textOf ((Fields.get? fields key).getD (.str [])) = textOf ((Fields.get? fields key).getD .null)
    cases Fields.get? fields key <;> rfl
  | _ => rfl

theorem field_orElse (value : Json) (key : Str) :
    field key (value.orElse (.obj [])) = field key value := by
  rw [Json.orElse]
  split
  · rfl
  · next falsy =>
    cases value with
    | obj fields =>
      cases fields with
      | nil => rfl
      | cons first fields => exact absurd rfl falsy
    | _ => rfl

/-- A text that is read from the first item of a list, if there is one. -/
theorem readText_first {value : Json} {read : Json → Except PyError Json} {f : Json → Str}
    (none : f .null = []) (chars : ∀ c, readText (read (.str [c])) = [])
    (first : ∀ item, readText (read item) = f item) :
    readText (if value.truthy then firstItem value >>= read else .ok (.str [])) =
      f ((items value).headD .null) := by
  cases value with
  | arr elements =>
    cases elements with
    | nil => exact none.symm
    | cons item elements => exact first item
  | str s =>
    cases s with
    | nil => exact none.symm
    | cons c s => exact (chars c).trans none.symm
  | _ =>
    refine Eq.trans ?_ none.symm
    split <;> rfl

theorem readText_getKey_bind {value : Json} {key : Str} {default : Json}
    {read : Json → Except PyError Json} {f : Json → Str} (none : f .null = []) (missing : readText (read default) = [])
    (found : ∀ item, readText (read item) = f item) :
    readText (getKey value key default >>= read) = f (field key value) := by
  cases value with
  | obj fields =>
    show readText (read ((Fields.get? fields key).getD default)) = f ((Fields.get? fields key).getD .null)
    cases Fields.get? fields key with
    | none => exact missing.trans none.symm
    | some item => exact found item
  | _ => exact none.symm

theorem readText_openai (data : Json) : readText (openaiDelta data) =
    textOf (field "content" (field "delta" ((items (field "choices" data)).headD .null))) := by
  have content : ∀ item, readText (getKey item "delta" .null >>= fun delta =>
      getKey (delta.orElse (.obj [])) "content" (.str [])) =
        textOf (field "content" (field "delta" item)) := by
    intro item
    apply readText_getKey_bind (f := fun delta => textOf (field "content" delta)) rfl rfl
    intro delta
    rw [readText_getKey, field_orElse]
  apply readText_getKey_bind
    (f := fun choices => textOf (field "content" (field "delta" ((items choices).headD .null)))) rfl rfl
  intro choices
  exact readText_first (f := fun choice => textOf (field "content" (field "delta" choice))) rfl
    (fun c => rfl) content

theorem readText_anthropic (data : Json) : readText (anthropicDelta data) =
    if Json.isText "content_block_delta" (field "type" data) then textOf (field "text" (field "delta" data))
    else [] := by
  apply readText_getKey_bind (f := fun type => if Json.isText "content_block_delta" type then
    textOf (field "text" (field "delta" data)) else []) rfl rfl
  intro type
  split
  · apply readText_getKey_bind (f := fun delta => textOf (field "text" delta)) rfl rfl
    intro delta
    rw [readText_getKey, field_orElse]
  · rfl

theorem readText_google (data : Json) : readText (googleDelta data) =
    textOf (field "text" ((items (field "parts" (field "content"
      ((items (field "candidates" data)).headD .null)))).headD .null)) := by
  have parts : ∀ parts : Json, readText (if parts.truthy then firstItem parts >>= fun part =>
      getKey part "text" (.str []) else .ok (.str [])) =
        textOf (field "text" ((items parts).headD .null)) := fun parts =>
    readText_first (f := fun part => textOf (field "text" part)) rfl (fun c => rfl) fun part =>
      readText_getKey part "text"
  have content : ∀ content : Json, readText (getKey content "parts" .null >>= fun parts =>
      if parts.truthy then firstItem parts >>= fun part => getKey part "text" (.str [])
      else .ok (.str [])) = textOf (field "text" ((items (field "parts" content)).headD .null)) :=
    fun content => readText_getKey_bind
      (f := fun parts => textOf (field "text" ((items parts).headD .null))) rfl rfl parts
  have candidate : ∀ item : Json, readText (getKey item "content" (.obj []) >>= fun content =>
      getKey content "parts" .null >>= fun parts =>
        if parts.truthy then firstItem parts >>= fun part => getKey part "text" (.str [])
        else .ok (.str [])) =
      textOf (field "text" ((items (field "parts" (field "content" item))).headD .null)) :=
    fun item => readText_getKey_bind
      (f := fun content => textOf (field "text" ((items (field "parts" content)).headD .null))) rfl rfl
      content
  apply readText_getKey_bind (f := fun candidates => textOf (field "text" ((items (field "parts"
    (field "content" ((items candidates).headD .null)))).headD .null))) rfl rfl
  intro candidates
  exact readText_first (f := fun candidate => textOf (field "text" ((items (field "parts"
    (field "content" candidate))).headD .null))) rfl (fun c => rfl) candidate

/-- The reconstruction takes the first part of what an event adds. -/
theorem readText_delta (data : Json) :
    readText (delta provider data) = (textParts provider data).headD [] := by
  cases provider with
  | openai => exact readText_openai data
  | anthropic =>
    refine (readText_anthropic data).trans ?_
    rw [textParts]
    split <;> rfl
  | google =>
    refine (readText_google data).trans ?_
    rw [textParts]
    cases items (field "parts" (field "content" ((items (field "candidates" data)).headD .null))) <;> rfl
  | _ => rfl

/-! ## One piece of a stream -/

variable (json provider)

def jsonParts : Option Json → List Str
  | some data => textParts provider data
  | none => []

def payloadParts (payload : Str) : List Str :=
  if payload = [] ∨ payload = "[DONE]" then [] else jsonParts provider (json.loads payload)

/-- What the reconstruction takes from a stripped chunk. -/
def chunkText (chunk : Str) : Str :=
  if startsWith "data:" chunk then (payloadParts json provider (strip (chunk.drop 5))).headD [] else []

/-- What it takes from a piece between blank lines, which may not pass the gate. -/
def pieceText (piece : Str) : Str :=
  if shouldBufferChunk provider (strip piece) then chunkText json provider (strip piece) else []

variable {json provider}

theorem eventParts_eq (event : List Str) :
    eventParts json provider event = payloadParts json provider (strip (eventData event)) := by
  have read : eventParts json provider event = jsonParts provider (eventJson json.loads event) := by
    rw [eventParts]
    cases eventJson json.loads event <;> rfl
  rw [read, eventJson, payloadParts]
  exact apply_ite (jsonParts provider) _ none _

theorem readChunkLine_eq (fullContent chunkLine : Str) :
    readChunkLine json provider fullContent chunkLine =
      fullContent ++ chunkText json provider (strip chunkLine) := by
  simp only [readChunkLine, chunkText, payloadParts]
  split
  · split
    · exact (List.append_nil _).symm
    · cases json.loads (strip ((strip chunkLine).drop 5)) with
      | some data => exact (addText_eq _ _).trans (by rw [readText_delta]; rfl)
      | none => exact (List.append_nil _).symm
  · exact (List.append_nil _).symm

theorem fullContent_eq (chunks : List Str) :
    fullContent json provider chunks = chunks.flatMap fun chunk => chunkText json provider (strip chunk) := by
  have run : ∀ front : Str, chunks.foldl (readChunkLine json provider) front =
      front ++ chunks.flatMap fun chunk => chunkText json provider (strip chunk) := by
    induction chunks with
    | nil => exact fun front => (List.append_nil front).symm
    | cons chunk chunks inductionHypothesis =>
      intro front
      rw [List.foldl_cons, inductionHypothesis, readChunkLine_eq, List.append_assoc, List.flatMap_cons]
  exact run []

theorem fullContent_splitSseEvents (text : Str) :
    fullContent json provider (splitSseEvents provider text) =
      (splitBlank text).flatMap (pieceText json provider) := by
  rw [fullContent_eq, splitSseEvents, List.flatMap_map]
  have trimmed : ∀ piece : Str, strip (strip piece ++ ['\n', '\n']) = strip piece := by
    have spaces : ∀ c ∈ ['\n', '\n'], isSpace c = true := List.all_eq_true.mp (by decide)
    intro piece
    rw [strip_append_spaces spaces, strip_strip]
  induction splitBlank text with
  | nil => rfl
  | cons piece pieces inductionHypothesis =>
    rw [List.map_cons, List.filter_cons, List.flatMap_cons, ← inductionHypothesis, pieceText]
    by_cases gate : shouldBufferChunk provider (strip piece) = true
    · by_cases blank : strip piece = []
      · rw [blank, if_neg (by rw [Bool.and_eq_true]; exact fun passed => Bool.noConfusion passed.1)]
        exact (List.nil_append _).symm.trans (congrArg (· ++ _) (ite_self _).symm)
      · have filled : (!(strip piece).isEmpty) = true := by
          rw [Bool.not_eq_true', List.isEmpty_eq_false_iff]
          exact blank
        rw [if_pos gate, if_pos (by rw [filled, gate]; rfl), List.flatMap_cons, trimmed]
    · rw [if_neg gate, if_neg]
      · rfl
      · rw [Bool.and_eq_true]
        exact fun passed => gate passed.2

/-! ## One event -/

theorem eventData_lines (event : SentEvent) : strip (eventData event.lines) = strip event.value := by
  have named : dataLines event.nameLines = [] := by
    rw [SentEvent.nameLines]
    split <;> rfl
  have single : dataLines event.lines = [event.dataLine] := by
    rw [SentEvent.lines, dataLines, List.filter_append, ← dataLines, named]
    rfl
  rw [eventData, single, List.map_singleton, List.intercalate_singleton]
  exact strip_dropSpace event.value

theorem eventParts_lines (event : SentEvent) :
    eventParts json provider event.lines = payloadParts json provider (strip event.value) := by
  rw [eventParts_eq, eventData_lines]

def Visible (s : Str) : Prop := ∀ c ∈ s, isSpace c = false

instance (s : Str) : Decidable (Visible s) := List.decidableBAll (fun c => isSpace c = false) s

theorem visible_fields : ∀ field ∈ ["data:".toList, "event:".toList], Visible field ∧ field ≠ [] := by
  decide

theorem pieceText_data (value : Str) :
    pieceText json provider ("data:".toList ++ value) =
      if shouldBufferChunk provider ("data:".toList ++ value) then
        (payloadParts json provider (strip value)).headD []
      else [] := by
  obtain ⟨visible, filled⟩ := visible_fields _ (.head _)
  obtain ⟨rest, trail, same, trailing, trimmed⟩ := strip_visible_append visible filled value
  have payload : strip rest = strip value := by
    rw [same, strip_append_spaces trailing]
  have read : chunkText json provider (strip ("data:".toList ++ value)) =
      (payloadParts json provider (strip value)).headD [] := by
    rw [trimmed, chunkText, if_pos (startsWith_append _ _), ← payload]
    rfl
  rw [pieceText, shouldBufferChunk_strip, read]

theorem pieceText_named (text : Str) : pieceText json provider ("event:".toList ++ text) = [] := by
  obtain ⟨visible, filled⟩ := visible_fields _ (.tail _ (.head _))
  obtain ⟨rest, -, -, -, trimmed⟩ := strip_visible_append visible filled text
  have unread : chunkText json provider (strip ("event:".toList ++ text)) = [] := by
    rw [trimmed]
    rfl
  rw [pieceText, unread, ite_self]

theorem pieceText_append_spaces {spaces : Str} (blank : ∀ c ∈ spaces, isSpace c = true) (text : Str) :
    pieceText json provider (text ++ spaces) = pieceText json provider text := by
  rw [pieceText, strip_append_spaces blank, ← pieceText]

/-- What is read of the lines of an event, where these are a piece of their own. -/
theorem pieceText_lines (lineEnd : Str) (event : SentEvent) :
    pieceText json provider (ended lineEnd event.nameLines ++ event.dataLine) =
      if event.name.isNone && shouldBufferChunk provider event.dataLine then
        (eventParts json provider event.lines).headD []
      else [] := by
  rw [SentEvent.nameLines, eventParts_lines]
  cases named : event.name with
  | none => exact pieceText_data event.value
  | some name =>
    have lines : ended lineEnd [("event:" : Str) ++ name] ++ event.dataLine =
        "event:" ++ (name ++ (lineEnd ++ event.dataLine)) := by
      simp only [ended, List.flatMap_cons, List.flatMap_nil, List.append_assoc, List.nil_append]
    simpa using (congrArg (pieceText json provider) lines).trans (pieceText_named _)

/-! ## The whole stream -/

theorem ended_cons (lineEnd line : Str) (lines : List Str) :
    ended lineEnd (line :: lines) = line ++ (lineEnd ++ ended lineEnd lines) := by
  rw [ended, List.flatMap_cons, List.append_assoc, ended]

theorem sentLines_cons (event : SentEvent) (events : List SentEvent) :
    sentLines (event :: events) = event.nameLines ++ event.dataLine :: [] :: sentLines events := by
  rw [sentLines, List.flatMap_cons, SentEvent.lines, List.append_assoc, List.append_assoc, sentLines]
  rfl

theorem ended_append (lineEnd : Str) (lines others : List Str) :
    ended lineEnd (lines ++ others) = ended lineEnd lines ++ ended lineEnd others :=
  List.flatMap_append

theorem begins_field (lineEnd : Str) (event : SentEvent) (events : List SentEvent) :
    ∃ field ∈ ["data:".toList, "event:".toList], ∃ rest,
      ended lineEnd (sentLines (event :: events)) = field ++ rest := by
  rw [sentLines_cons, SentEvent.nameLines]
  split
  · next name _ =>
    refine ⟨"event:".toList, .tail _ (.head _), ?_⟩
    rw [List.singleton_append, ended_cons, List.append_assoc]
    exact ⟨_, rfl⟩
  · refine ⟨"data:".toList, .head _, ?_⟩
    rw [List.nil_append, ended_cons, SentEvent.dataLine, List.append_assoc]
    exact ⟨_, rfl⟩

theorem pieceText_two {lineEnd : Str} (listed : lineEnd ∈ lineEnds) (event next : SentEvent)
    (events : List SentEvent) :
    pieceText json provider (ended lineEnd (sentLines (event :: next :: events))) = [] := by
  obtain ⟨field, fields, rest, following⟩ := begins_field lineEnd next events
  obtain ⟨visible, filled⟩ := visible_fields field fields
  have breaks : ∀ lineEnd ∈ lineEnds, lineEnd ≠ [] ∧ ∀ c ∈ lineEnd, c = '\r' ∨ c = '\n' := by
    simp [lineEnds]
  obtain ⟨nonempty, ends⟩ := breaks lineEnd listed
  rw [sentLines_cons, ended_append, ended_cons, ended_cons, following, List.nil_append,
    SentEvent.nameLines]
  split
  · next name _ =>
    rw [ended_cons, List.append_assoc, List.append_assoc, pieceText_named]
  · have moved : event.value ++ (lineEnd ++ (lineEnd ++ (field ++ rest))) =
        (event.value ++ (lineEnd ++ lineEnd)) ++ (field ++ rest) := by
      simp only [List.append_assoc]
    obtain ⟨lead, others, suffix, trimmed⟩ :=
      strip_append_field visible filled (event.value ++ (lineEnd ++ lineEnd)) rest
    have endsLine : ∀ c, lead.getLast? = some c → c = '\r' ∨ c = '\n' := by
      intro c last
      obtain ⟨front, same⟩ := suffix
      have final := congrArg List.getLast? same
      obtain ⟨d, found⟩ : ∃ d, lineEnd.getLast? = some d :=
        Option.ne_none_iff_exists'.mp (List.getLast?_eq_none_iff.not.mpr nonempty)
      rw [List.getLast?_append, last, List.getLast?_append, List.getLast?_append, found, Option.some_or,
        Option.some_or, Option.some_or] at final
      cases final
      exact ends c (List.mem_of_getLast? found)
    have rejected := json.rejects lead others endsLine field fields
    rw [SentEvent.dataLine]
    show pieceText json provider ([] ++ ("data:".toList ++ event.value ++ _)) = []
    rw [List.nil_append, List.append_assoc, pieceText_data, moved, trimmed, payloadParts, rejected]
    split <;> (try split) <;> rfl

theorem fullContent_stream (stream : SentStream) :
    fullContent json provider (splitSseEvents provider stream.text) =
      stream.events.flatMap fun event =>
        if reaches provider stream event then (eventParts json provider event.lines).headD [] else [] := by
  have nothing : pieceText json provider [] = [] := by
    rw [pieceText]
    split <;> rfl
  rw [fullContent_splitSseEvents, SentStream.text]
  by_cases feed : stream.lineEnd = ['\n']
  · have reached : ∀ event, reaches provider stream event =
        (event.name.isNone && shouldBufferChunk provider event.dataLine) := by
      intro event
      rw [reaches, decide_eq_true feed, Bool.true_or, Bool.and_true]
    rw [feed, splitBlank_feed, List.flatMap_append, List.flatMap_singleton, nothing, List.append_nil,
      List.flatMap_map]
    simp only [SentEvent.block, pieceText_lines, reached]
  · have others : ∀ event, reaches provider stream event =
        (event.name.isNone && shouldBufferChunk provider event.dataLine && stream.events.length = 1) := by
      intro event
      rw [reaches, decide_eq_false feed, Bool.false_or]
    rw [splitBlank_other stream.listed feed (unbroken_sentLines stream.events), List.flatMap_singleton]
    simp only [others]
    cases stream.events with
    | nil => exact nothing
    | cons event events =>
      cases events with
      | nil =>
        have spaces : ∀ lineEnd ∈ lineEnds, (lineEnd ++ lineEnd).all isSpace = true := by decide
        have cut : ended stream.lineEnd (sentLines [event]) =
            (ended stream.lineEnd event.nameLines ++ event.dataLine) ++
              (stream.lineEnd ++ stream.lineEnd) := by
          rw [sentLines_cons, ended_append, ended_cons, ended_cons, List.append_assoc]
          exact congrArg _ (congrArg _ (congrArg _ (List.append_nil _)))
        rw [cut, pieceText_append_spaces (List.all_eq_true.mp (spaces _ stream.listed)),
          pieceText_lines,
          List.flatMap_singleton, List.length_singleton, decide_eq_true rfl, Bool.and_true]
      | cons next events =>
        rw [pieceText_two stream.listed]
        simp

theorem clientText_stream (stream : SentStream) :
    clientText json provider stream.text =
      stream.events.flatMap fun event => (eventParts json provider event.lines).flatten := by
  rw [clientText, streamEvents_text, List.flatMap_map]

/-! ## The stream of a body -/

def sentText : Option Str × Str → Str
  | (some name, payload) => namedEvent name payload
  | (none, payload) => dataEvent payload

theorem Printable.unbroken {s : Str} (printable : Printable s) : Unbroken s := by
  have control : ('\r'.toNat < 32) ∧ '\n'.toNat < 32 := by decide
  intro c member
  have low := (printable c member).1
  constructor
  · rintro rfl
    omega
  · rintro rfl
    omega

theorem dataEvent_append (payload rest : Str) : dataEvent payload ++ rest =
    ("data:".toList ++ ' ' :: payload) ++ (['\n'] ++ ([] ++ (['\n'] ++ rest))) := by
  have label : "data: ".toList = "data:".toList ++ [' '] := rfl
  refine (congrArg (fun label => label ++ payload ++ ['\n', '\n'] ++ rest) label).trans ?_
  simp only [List.append_assoc, List.nil_append, List.cons_append]

theorem namedEvent_append (name payload rest : Str) : namedEvent name payload ++ rest =
    ended ['\n'] ["event:".toList ++ ' ' :: name] ++ (dataEvent payload ++ rest) := by
  have label : "event: ".toList = "event:".toList ++ [' '] := rfl
  refine (congrArg (fun label => label ++ name ++ '\n' :: dataEvent payload ++ rest) label).trans ?_
  rw [ended, List.flatMap_singleton]
  simp only [List.append_assoc, List.nil_append, List.cons_append]

theorem exists_sentEvents {sent : List (Option Str × Str)}
    (printable : ∀ event ∈ sent, Printable (event.1.getD []) ∧ Printable event.2) :
    ∃ events : List SentEvent, ended ['\n'] (sentLines events) = sent.flatMap sentText ∧
      events.map (fun event => strip event.value) = sent.map fun event => strip event.2 := by
  induction sent with
  | nil => exact ⟨[], rfl, rfl⟩
  | cons first sent inductionHypothesis =>
    obtain ⟨plain, printable⟩ := List.forall_mem_cons.mp printable
    obtain ⟨events, text, values⟩ := inductionHypothesis printable
    obtain ⟨name, payload⟩ := first
    have space : Unbroken [' '] := by decide
    have value : Unbroken (' ' :: payload) := space.append (Printable.unbroken plain.2)
    have names : ∀ label, name.map (' ' :: ·) = some label → Unbroken label := by
      intro label named
      obtain ⟨plainName, rfl, rfl⟩ := Option.map_eq_some_iff.mp named
      exact space.append (Printable.unbroken plain.1)
    refine ⟨⟨name.map (' ' :: ·), ' ' :: payload, names, value⟩ :: events, ?_, ?_⟩
    · have body := dataEvent_append payload (sent.flatMap sentText)
      rw [sentLines_cons, ended_append, ended_cons, ended_cons, text, List.flatMap_cons]
      cases name with
      | none =>
        rw [sentText, body]
        rfl
      | some name =>
        rw [sentText, namedEvent_append, body]
        rfl
    · rw [List.map_cons, List.map_cons, values, strip_cons (by decide)]

theorem clientText_sent {sent : List (Option Str × Str)}
    (printable : ∀ event ∈ sent, Printable (event.1.getD []) ∧ Printable event.2) :
    clientText json provider (sent.flatMap sentText) =
      sent.flatMap fun event => (payloadParts json provider (strip event.2)).flatten := by
  obtain ⟨events, text, values⟩ := exists_sentEvents printable
  have listed : ['\n'] ∈ lineEnds := by decide
  have whole := @clientText_stream json provider ⟨['\n'], events, listed⟩
  rw [← text]
  refine whole.trans ?_
  have moved := congrArg (List.flatMap fun payload => (payloadParts json provider payload).flatten) values
  rw [List.flatMap_map, List.flatMap_map] at moved
  simp only [eventParts_lines]
  exact moved

theorem strip_dumps (fields : Fields) : strip (json.dumps (.obj fields)) = json.dumps (.obj fields) := by
  have brace : strip ['}'] = ['}'] := by decide
  rw [JsonModule.dumps, dumps]
  exact strip_append (c := '{') (by decide) (dumpsFields json.floatText fields) brace
    (List.cons_ne_nil _ _)

theorem payloadParts_dumps {fields : Fields}
    (reads : json.loads (json.dumps (.obj fields)) = some (.obj fields)) :
    payloadParts json provider (strip (json.dumps (.obj fields))) = textParts provider (.obj fields) := by
  rw [strip_dumps, payloadParts, reads, if_neg]
  · rfl
  · rw [JsonModule.dumps, dumps]
    rintro (empty | finished)
    · cases empty
    · cases finished

/-- The events of a stream that is made of values. -/
def valueEvents (json : JsonModule) (values : List (Option Str × Json)) : List (Option Str × Str) :=
  values.map fun value => (value.1, json.dumps value.2)

theorem clientText_values {values : List (Option Str × Json)} {others : List (Option Str × Str)}
    (names : ∀ value ∈ values, Printable (value.1.getD []))
    (objects : ∀ value ∈ values, ∃ fields, value.2 = .obj fields)
    (reads : ∀ value ∈ values, json.loads (json.dumps value.2) = some value.2)
    (plain : ∀ event ∈ others, Printable (event.1.getD []) ∧ Printable event.2)
    (silent : ∀ event ∈ others, payloadParts json provider (strip event.2) = []) :
    clientText json provider ((valueEvents json values ++ others).flatMap sentText) =
      values.flatMap fun value => (textParts provider value.2).flatten := by
  rw [clientText_sent, List.flatMap_append, valueEvents, List.flatMap_map]
  · have read : (values.flatMap fun value =>
        (payloadParts json provider (strip (json.dumps value.2))).flatten) =
          values.flatMap fun value => (textParts provider value.2).flatten := by
      apply List.flatMap_congr
      intro value member
      obtain ⟨fields, object⟩ := objects value member
      have back := reads value member
      rw [object] at back ⊢
      rw [payloadParts_dumps back]
    have nothing : (others.flatMap fun event => (payloadParts json provider (strip event.2)).flatten) =
        [] := by
      rw [List.flatMap_eq_nil_iff]
      intro event member
      rw [silent event member, List.flatten_nil]
    rw [nothing, List.append_nil]
    exact read
  · apply List.forall_mem_append.mpr ⟨?_, plain⟩
    rw [valueEvents, List.forall_mem_map]
    exact fun value member => ⟨names value member, printable_dumps json.printable value.2⟩

def lastEvents : Provider → List (Option Str × Str)
  | .openai => [(none, "[DONE]")]
  | _ => []

theorem sendFields_ok {send : Fields → Except PyError (List Str)} {data : Fields} {chunks : List Str}
    (sent : send data = .ok chunks) : sendFields send (.obj data) = chunks := by
  rw [sendFields, sent]

theorem reconstruct_openai {now : Int} {text body : Str} {res : Fields}
    (reads : json.loads body = some (.obj res)) (content : openaiContent res = .ok (.str text)) :
    (reconstructStreamingChunks json now .openai body).flatten =
      (valueEvents json (replayedValues .openai now res text) ++ lastEvents .openai).flatMap
        sentText := by
  have sent := @sendFields_ok (fun data => do
    return ((openaiChunks now data (← openaiContent data)).map fun chunk =>
      dataEvent (json.dumps chunk)) ++ [dataEvent "[DONE]"]) res _ (by rw [content]; rfl)
  rw [reconstructStreamingChunks, reads]
  refine (congrArg List.flatten sent).trans ?_
  rw [List.flatten_append, List.flatMap_append, valueEvents, replayedValues, List.map_map,
    ← List.flatMap_def, List.flatMap_map]
  rfl

theorem reconstruct_anthropic {now : Int} {text body : Str} {res : Fields}
    (reads : json.loads body = some (.obj res)) (content : anthropicContent res = .ok (.str text)) :
    (reconstructStreamingChunks json now .anthropic body).flatten =
      (valueEvents json (replayedValues .anthropic now res text) ++ lastEvents .anthropic).flatMap
        sentText := by
  have sent := @sendFields_ok (fun data => do
    return (anthropicEvents data (← anthropicContent data)).map fun event =>
      namedEvent event.1 (json.dumps event.2)) res _ (by rw [content]; rfl)
  rw [reconstructStreamingChunks, reads]
  refine (congrArg List.flatten sent).trans ?_
  rw [List.flatMap_append, valueEvents, replayedValues, List.map_map, ← List.flatMap_def,
    List.flatMap_map]
  exact (List.append_nil _).symm

theorem reconstruct_google {now : Int} {text body : Str} {res : Fields}
    (reads : json.loads body = some (.obj res)) (content : googleContent res = .ok (.str text)) :
    (reconstructStreamingChunks json now .google body).flatten =
      (valueEvents json (replayedValues .google now res text) ++ lastEvents .google).flatMap
        sentText := by
  have sent := @sendFields_ok (fun data => do
    return [dataEvent (json.dumps (googleChunk (← googleContent data)))]) res _
    (by rw [content]; rfl)
  rw [reconstructStreamingChunks, reads]
  exact congrArg List.flatten sent

theorem reconstruct_eq {now : Int} {text : Str} {res : Fields}
    (complete : completeResponse provider text = some res)
    (reads : json.loads (json.dumps (.obj res)) = some (.obj res)) :
    (reconstructStreamingChunks json now provider (json.dumps (.obj res))).flatten =
      (valueEvents json (replayedValues provider now res text) ++ lastEvents provider).flatMap
        sentText := by
  cases provider with
  | openai =>
    refine reconstruct_openai reads ?_
    cases complete
    rfl
  | anthropic =>
    refine reconstruct_anthropic reads ?_
    cases complete
    rfl
  | google =>
    refine reconstruct_google reads ?_
    cases complete
    rfl
  | _ => cases complete

theorem openaiChunk_obj {now : Int} {data delta : Fields} {finishReason : Json} :
    ∃ fields, openaiChunk now data delta finishReason = .obj fields := ⟨_, rfl⟩

theorem replayedValues_plain {now : Int} {text : Str} {res : Fields}
    (complete : completeResponse provider text = some res) :
    ∀ value ∈ replayedValues provider now res text, Printable (value.1.getD []) ∧
      ∃ fields, value.2 = .obj fields := by
  have named : ∀ {name : Str}, name.all (fun c => 32 ≤ c.toNat && c.toNat ≤ 126) = true →
      ∀ fields, Printable ((some name).getD []) ∧ ∃ others, Json.obj fields = .obj others :=
    fun plain fields => ⟨printable_of_all plain, fields, rfl⟩
  cases provider with
  | openai =>
    rw [replayedValues, List.forall_mem_map]
    intro chunk member
    refine ⟨printable_nil, ?_⟩
    obtain ⟨delta, finishReason, rfl⟩ : ∃ delta finishReason,
        chunk = openaiChunk now res delta finishReason := by
      rw [openaiChunks] at member
      split at member <;> simp at member <;> grind
    exact openaiChunk_obj
  | anthropic =>
    cases complete
    have listed : anthropicEvents ((completeResponse .anthropic text).getD []) (.str text) =
        [messageStart ((completeResponse .anthropic text).getD []), contentBlockStart] ++
          (if (Json.str text).truthy then [contentBlockDelta (.str text)] else []) ++
          [contentBlockStop, messageDelta (.int 0), messageStop] := rfl
    have delta : ∀ event ∈ (if (Json.str text).truthy then [contentBlockDelta (.str text)] else []),
        event = contentBlockDelta (.str text) := by
      intro event member
      split at member
      · exact List.mem_singleton.mp member
      · cases member
    rw [replayedValues, List.forall_mem_map]
    refine listed ▸ List.forall_mem_append.mpr ⟨List.forall_mem_append.mpr ⟨?_, ?_⟩, ?_⟩
    · have start : List.all "message_start".toList (fun c => 32 ≤ c.toNat && c.toNat ≤ 126) = true := by
        decide
      exact List.forall_mem_cons.mpr ⟨named start _, List.forall_mem_singleton.mpr (named (by decide) _)⟩
    · have label : List.all "content_block_delta".toList (fun c => 32 ≤ c.toNat && c.toNat ≤ 126) =
          true := by decide
      intro event member
      rw [delta event member]
      exact named label _
    · exact List.forall_mem_cons.mpr ⟨named (by decide) _, List.forall_mem_cons.mpr
        ⟨named (by decide) _, List.forall_mem_singleton.mpr (named (by decide) _)⟩⟩
  | google => exact List.forall_mem_singleton.mpr ⟨printable_nil, _, rfl⟩
  | _ => cases complete

theorem textParts_replayedValues {now : Int} {text : Str} {res : Fields}
    (complete : completeResponse provider text = some res) :
    (replayedValues provider now res text).flatMap (fun value => (textParts provider value.2).flatten) =
      text := by
  have single : ∀ s : Str, s ++ [] ++ [] = s := fun s => by rw [List.append_nil, List.append_nil]
  cases provider with
  | openai =>
    cases text with
    | nil => rfl
    | cons c text => exact single (c :: text)
  | anthropic =>
    cases complete
    cases text with
    | nil => rfl
    | cons c text => exact single (c :: text)
  | google => exact single text
  | _ => cases complete

theorem clientText_reconstruct {now : Int} {text : Str} {res : Fields}
    (complete : completeResponse provider text = some res)
    (readsBack : ∀ value ∈ written provider now text, json.loads (json.dumps value) = some value) :
    clientText json provider
      (reconstructStreamingChunks json now provider (json.dumps (.obj res))).flatten = text := by
  rw [written, complete] at readsBack
  obtain ⟨body, values⟩ := List.forall_mem_cons.mp readsBack
  rw [List.forall_mem_map] at values
  have last : ∀ event ∈ lastEvents provider, Printable (event.1.getD []) ∧ Printable event.2 ∧
      payloadParts json provider (strip event.2) = [] := by
    unfold lastEvents
    split
    · exact List.forall_mem_singleton.mpr
        ⟨printable_nil, printable_of_all (by decide), if_pos (.inr (by decide))⟩
    · exact List.forall_mem_nil _
  rw [reconstruct_eq complete body, clientText_values, textParts_replayedValues complete]
  · exact fun value member => (replayedValues_plain complete value member).1
  · exact fun value member => (replayedValues_plain complete value member).2
  · exact values
  · exact fun event member => ⟨(last event member).1, (last event member).2.1⟩
  · exact fun event member => (last event member).2.2

/-! ## Exactly when the text survives -/

/-- Where each part lies in its whole, the parts give the wholes only if each does. -/
theorem flatMap_eq_iff {α β : Type} {f g : α → List β} {l : List α}
    (parts : ∀ a ∈ l, List.Sublist (g a) (f a)) :
    l.flatMap g = l.flatMap f ↔ ∀ a ∈ l, g a = f a := by
  constructor
  · intro same
    induction l with
    | nil => exact List.forall_mem_nil _
    | cons a l inductionHypothesis =>
      obtain ⟨first, rest⟩ := List.forall_mem_cons.mp parts
      have tail := List.Sublist.flatMap_right l rest
      have lengths := congrArg List.length same
      rw [List.flatMap_cons, List.flatMap_cons, List.length_append, List.length_append] at lengths
      have front := first.length_le
      have back := tail.length_le
      exact List.forall_mem_cons.mpr ⟨first.eq_of_length (by omega),
        inductionHypothesis rest (tail.eq_of_length (by omega))⟩
  · exact fun same => List.flatMap_congr same

theorem streamed_complete (streamed : provider ∈ [Provider.openai, .anthropic, .google]) (text : Str) :
    ∃ res, completeResponse provider text = some res := by
  cases provider with
  | openai | anthropic | google => exact ⟨_, rfl⟩
  | _ => exact absurd streamed (by decide)

theorem headD_sublist_flatten (parts : List Str) : List.Sublist (parts.headD []) parts.flatten := by
  cases parts with
  | nil => exact List.Sublist.slnil
  | cons part parts => exact List.sublist_append_left part parts.flatten

theorem headD_eq_flatten_iff (parts : List Str) :
    parts.headD [] = parts.flatten ↔ ∀ part ∈ parts.tail, part = [] := by
  cases parts with
  | nil => exact ⟨fun _ => List.forall_mem_nil _, fun _ => rfl⟩
  | cons part parts =>
    rw [← List.flatten_eq_nil_iff]
    exact List.self_eq_append_right

theorem read_eq_iff (stream : SentStream) (event : SentEvent) :
    ((if reaches provider stream event then (eventParts json provider event.lines).headD [] else []) =
        (eventParts json provider event.lines).flatten) ↔
      ((eventParts json provider event.lines).flatten ≠ [] → TextKept json provider stream event) := by
  by_cases reached : reaches provider stream event = true
  · rw [if_pos reached, headD_eq_flatten_iff]
    constructor
    · exact fun single _ => ⟨reached, single⟩
    · intro kept
      by_cases empty : (eventParts json provider event.lines).flatten = []
      · intro part member
        exact List.flatten_eq_nil_iff.mp empty part (List.mem_of_mem_tail member)
      · exact (kept empty).single
  · rw [if_neg reached]
    exact ⟨fun same filled => absurd same.symm filled, fun kept => by
      by_contra filled
      exact reached (kept (Ne.symm filled)).reached⟩

/-- The text of a streamed answer survives the cache exactly if each event that has text is read and
    has it all in its first part. -/
theorem text_survives_iff (streamed : provider ∈ [Provider.openai, .anthropic, .google]) (now : Int)
    (stream : SentStream)
    (readsBack : ∀ value ∈ written provider now
      (fullContent json provider (splitSseEvents provider stream.text)),
      json.loads (json.dumps value) = some value) :
    clientText json provider (replayed json provider now stream.text) =
        clientText json provider stream.text ↔
      ∀ event ∈ stream.events, (eventParts json provider event.lines).flatten ≠ [] →
        TextKept json provider stream event := by
  obtain ⟨res, complete⟩ := streamed_complete streamed
    (fullContent json provider (splitSseEvents provider stream.text))
  have cached : cachedBody json provider stream.text = json.dumps (.obj res) := by
    rw [cachedBody, reconstructCompleteResponseFromChunks, complete]
  rw [replayed, cached, clientText_reconstruct complete readsBack, fullContent_stream,
    clientText_stream, flatMap_eq_iff]
  · exact forall₂_congr fun event _ => read_eq_iff stream event
  · intro event _
    split
    · exact headD_sublist_flatten _
    · exact List.nil_sublist _

end

/-! ## Two streams -/

def tableModule (values : List Fields) : JsonModule where
  loads text := (values.find? fun fields => dumps (fun _ => []) (.obj fields) = text).map .obj
  floatText _ := []
  printable _ := printable_nil
  rejects front rest ends field listed := by
    rw [Option.map_eq_none_iff, List.find?_eq_none]
    intro fields member
    rw [decide_eq_true_eq]
    intro same
    cases last : front.getLast? with
    | none =>
      rw [List.getLast?_eq_none_iff.mp last, dumps] at same
      have heads : ∀ field ∈ ["data:".toList, "event:".toList],
          ∃ c others, field = c :: others ∧ c ≠ '{' := by
        intro field listed
        simp only [List.mem_cons, List.not_mem_nil, or_false] at listed
        obtain rfl | rfl := listed
        · exact ⟨'d', "ata:".toList, rfl, by decide⟩
        · exact ⟨'e', "vent:".toList, rfl, by decide⟩
      obtain ⟨c, others, rfl, different⟩ := heads field listed
      exact different (List.cons.inj same).1.symm
    | some c =>
      have plain := Printable.unbroken (printable_dumps (fun _ => printable_nil) (.obj fields))
      have inside : c ∈ dumps (fun _ => []) (.obj fields) := by
        rw [same]
        exact List.mem_append_left _ (List.mem_of_getLast? last)
      obtain carriage | feed := ends c last
      · exact (plain c inside).1 carriage
      · exact (plain c inside).2 feed

def dataOf (fields : Fields) : SentEvent where
  name := none
  value := ' ' :: dumps (fun _ => []) (.obj fields)
  unbrokenName _ named := by cases named
  unbrokenValue := by
    have plain := Printable.unbroken (printable_dumps (fun _ => printable_nil) (.obj fields))
    exact List.forall_mem_cons.mpr ⟨by decide, plain⟩

def googleHi : Fields :=
  [("candidates", .arr [.obj [("content", .obj [("parts", .arr [.obj [("text", .str "Hi")]])])]]),
   ("usageMetadata", .obj [("promptTokenCount", .int 3), ("candidatesTokenCount", .int 1)])]

def googleStream : SentStream where
  lineEnd := ['\n']
  events := [dataOf googleHi]
  listed := by decide

def openaiHi : Fields :=
  [("choices", .arr [.obj [("index", .int 0), ("delta", .obj [("content", .str "Hi")])]])]

def openaiUsage : Fields :=
  [("choices", .arr []), ("usage", .obj [("prompt_tokens", .int 3), ("completion_tokens", .int 1)])]

/-- The answer of OpenAI, and its usage in an event behind it. -/
def openaiStream : SentStream where
  lineEnd := ['\n']
  events := [dataOf openaiHi, dataOf openaiUsage]
  listed := by decide

def responseOf (provider : Provider) (text : Str) : Fields := (completeResponse provider text).getD []

def fieldsOf (value : Json) : Fields := value.dict.toOption.getD []

def googleJson : JsonModule :=
  tableModule [googleHi, responseOf .google "Hi", fieldsOf (googleChunk (.str "Hi"))]

def openaiJson : JsonModule :=
  tableModule ([openaiHi, openaiUsage, responseOf .openai []] ++
    (openaiChunks 0 (responseOf .openai []) (.str [])).map fieldsOf)

theorem text_lost :
    clientText openaiJson .openai openaiStream.text = "Hi".toList ∧
      clientText openaiJson .openai (replayed openaiJson .openai 0 openaiStream.text) = [] := by
  decide +kernel

theorem hi_survives :
    clientText googleJson .google (replayed googleJson .google 0 googleStream.text) =
      clientText googleJson .google googleStream.text := by
  have content : fullContent googleJson .google (splitSseEvents .google googleStream.text) =
      "Hi".toList := by decide +kernel
  refine (text_survives_iff (by decide) 0 googleStream ?_).mpr ?_
  · rw [content]
    exact List.forall_mem_cons.mpr ⟨rfl, List.forall_mem_singleton.mpr rfl⟩
  · exact List.forall_mem_singleton.mpr fun _ => ⟨by decide +kernel, by decide +kernel⟩

end BurnLens.Cache
