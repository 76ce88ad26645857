import BurnLens.Proxy.Streaming

/-! # Usage of an answer and of a stream

A usage object as the body of an answer carries it, and as the events of a stream carry it: where
the counts that the two extractions find are the same.
-/

namespace BurnLens.Proxy

open Library Providers Cost

/-- The usage that `_handle_non_streaming` records: none is left where the extraction raises. -/
def answerUsage (provider : Provider) (response : Json) : TokenUsage :=
  match extractUsage provider response with
  | .ok usage => usage
  | .error _ => {}

/-- A count that is not reported, null or not negative. -/
def IsCount : Option Json → Prop
  | none | some .null => True
  | some (.int n) => 0 ≤ n
  | _ => False

/-- Details that are not reported, null, or an object with the given counts. -/
def IsDetails (names : List Str) : Option Json → Prop
  | none | some .null => True
  | some (.obj details) => ∀ name ∈ names, IsCount (Fields.get? details name)
  | _ => False

structure OpenaiUsage (u : Fields) : Prop where
  prompt : IsCount (u.get? "prompt_tokens")
  completion : IsCount (u.get? "completion_tokens")
  promptDetails : IsDetails ["cached_tokens", "audio_tokens"] (u.get? "prompt_tokens_details")
  completionDetails :
    IsDetails ["reasoning_tokens", "audio_tokens"] (u.get? "completion_tokens_details")

def anthropicNames : List Str :=
  ["input_tokens", "output_tokens", "cache_read_input_tokens", "cache_creation_input_tokens"]

def googleNames : List Str := ["promptTokenCount", "candidatesTokenCount"]

def converseNames : List Str :=
  ["inputTokens", "outputTokens", "cacheReadInputTokens", "cacheWriteInputTokens"]

def Counts (names : List Str) (u : Fields) : Prop := ∀ name ∈ names, IsCount (u.get? name)

/-- A server-sent event: lines that carry no data, and one line with JSON. -/
structure DataEvent (loads : Str → Option Json) where
  heading : List Str
  text : Str
  data : Json
  decoded : loads text = some data
  headingQuiet : ∀ line ∈ heading, (∀ c ∈ line, isLineBreak c = false) ∧
    startsWith "data:" (strip line) = false ∧ startsWith "\x7b" (strip line) = false
  unbroken : ∀ c ∈ text, isLineBreak c = false
  trimmed : strip text = text
  filled : text ≠ []
  notDone : text ≠ "[DONE]"

def DataEvent.chunk {loads : Str → Option Json} (event : DataEvent loads) : Str :=
  (event.heading.map fun line => line ++ ['\n']).flatten ++ ("data: " ++ event.text) ++ ['\n', '\n']

/-- The usage under `key` of an object, nothing where it is missing or null. -/
inductive Carries (key : Str) : Json → Option Fields → Prop
  | usage (fields u : Fields) : fields.get? key = some (.obj u) → Carries key (.obj fields) (some u)
  | missing (fields : Fields) : fields.get? key = none → Carries key (.obj fields) none
  | null (fields : Fields) : fields.get? key = some .null → Carries key (.obj fields) none

/-! ## Placements of a usage object -/

section

variable (loads : Str → Option Json)

/-- The OpenAI wire format: each event carries the whole usage or none. -/
structure ChatReport where
  provider : Provider
  openai : provider ≠ .anthropic ∧ provider ≠ .google ∧ provider ≠ .bedrock
  u : Fields
  documented : OpenaiUsage u
  response : Fields
  body : response.get? "usage" = some (.obj u)
  events : List (DataEvent loads)
  placed : ∀ event ∈ events,
    Carries "usage" event.data none ∨ Carries "usage" event.data (some u)
  reported : ∃ event ∈ events, Carries "usage" event.data (some u)

inductive StartEvent : Json → Fields → Prop
  | mk (fields message start : Fields) : fields.get? "type" = some (.str "message_start") →
      fields.get? "message" = some (.obj message) → message.get? "usage" = some (.obj start) →
        StartEvent (.obj fields) start

inductive LaterMessageEvent : Json → Option Fields → Prop
  | delta (fields : Fields) (usage : Option Fields) :
      fields.get? "type" = some (.str "message_delta") → Carries "usage" (.obj fields) usage →
        LaterMessageEvent (.obj fields) usage
  | other (fields : Fields) (type : Str) : fields.get? "type" = some (.str type) →
      type ≠ "message_start" → type ≠ "message_delta" → LaterMessageEvent (.obj fields) none

def lastReported (name : Str) (usages : List Fields) : Option Json :=
  usages.foldl (fun last u => (u.get? name).or last) none

/-- A message: `message_start` reports counts, and every `message_delta` may report them anew. -/
structure MessageReport where
  start : Fields
  later : List (DataEvent loads × Option Fields)
  documented : ∀ usage ∈ start :: later.filterMap Prod.snd, Counts anthropicNames usage
  startEvent : DataEvent loads
  started : StartEvent startEvent.data start
  placed : ∀ event ∈ later, LaterMessageEvent event.1.data event.2
  u : Fields
  merged : ∀ name ∈ anthropicNames,
    u.get? name = lastReported name (start :: later.filterMap Prod.snd)
  response : Fields
  body : response.get? "usage" = some (.obj u)

/-- An object on a line of its own: labelled in server-sent events, bare in newline-delimited
    JSON.  White space may stand behind it, such as the first half of `\r\n`. -/
structure JsonLine where
  label : Str
  text : Str
  trail : Str
  data : Json
  labelled : label = "data: " ∨ label = [] ∧ startsWith "\x7b" text = true
  decoded : loads text = some data
  unbroken : ∀ c ∈ text, isLineBreak c = false
  trimmed : strip text = text
  filled : text ≠ []
  notDone : text ≠ "[DONE]"
  blank : ∀ c ∈ trail, isSpace c = true

/-- A part of a stream of Google, and the usage metadata in it.  What is no object on a line of its
    own is text: an array, say, whose brackets and commas share the lines of its elements, or whose
    elements go over several lines. -/
inductive GooglePart where
  | line (line : JsonLine loads) (metadata : Option Fields)
      (carries : Carries "usageMetadata" line.data metadata)
  | text (text : Str) (metadata : List Fields)
      (unread : ∀ line ∈ textLines text, ∀ data, lineJson loads .google line = some data →
        Carries "usageMetadata" data none)

variable {loads} in
def GooglePart.printed : GooglePart loads → Str
  | line object _ _ => object.label ++ object.text ++ object.trail
  | text pieces _ _ => pieces

variable {loads} in
def GooglePart.metadata : GooglePart loads → List Fields
  | line _ metadata _ => metadata.toList
  | text _ metadata _ => metadata

variable {loads} in
def GooglePart.shown : GooglePart loads → List Fields
  | line _ metadata _ => metadata.toList
  | text _ _ _ => []

/-- Google may report metadata with every element, and the last one counts. -/
structure GenerateReport where
  -- between blank lines
  chunks : List (List (GooglePart loads))
  u : Fields
  last : (chunks.flatten.flatMap GooglePart.metadata).getLast? = some u
  response : Fields
  body : response.get? "usageMetadata" = some (.obj u)

/-- The marker stands nowhere in the text, or once, in front of an object that decodes to `u`. -/
inductive FrameText (u : Fields) : Str → Prop
  | silent (text : Str) : (∀ i, startsWith "\"usage\"" (text.drop i) = false) → FrameText u text
  | usage (front colon blob back : Str) : '{' ∉ colon → scanJsonObject blob = some blob →
      loads blob = some (.obj u) →
      (∀ i, startsWith "\"usage\"" ((front ++ ("\"usage\"" ++ (colon ++ blob ++ back))).drop i) = true →
        i = front.length) →
      FrameText u (front ++ ("\"usage\"" ++ (colon ++ blob ++ back)))

/-- Bedrock: the metadata of a Converse stream holds the usage as plain JSON, and the frames of an
    InvokeModel stream hold everything in base64. -/
structure FrameReport where
  u : Fields
  documented : Counts converseNames u ∧ Counts anthropicNames u
  response : Fields
  body : response.get? "usage" = some (.obj u)
  frames : List Str
  placed : ∀ frame ∈ frames, FrameText loads u frame

inductive UsageReport where
  | chat (report : ChatReport loads)
  | message (report : MessageReport loads)
  | generate (report : GenerateReport loads)
  | frames (report : FrameReport loads)

end

/-! ## The condition -/

variable {loads : Str → Option Json}

def details (u : Fields) (key : Str) : Fields :=
  match u.get? key with
  | some (.obj details) => details
  | _ => []

/-- No null stops the update behind the prompt tokens, or there are none. -/
def ChatReport.Consistent (report : ChatReport loads) : Prop :=
  (report.u.get? "completion_tokens" ≠ some .null ∧
    (details report.u "completion_tokens_details").get? "reasoning_tokens" ≠ some .null) ∨
  report.u.getD "prompt_tokens" (.int 0) = .int 0

/-- The input counts are those of `message_start`, the output count is not null, and it is 0 only
    where no event has reported more. -/
structure MessageReport.Consistent (report : MessageReport loads) : Prop where
  input : report.start.getD "input_tokens" (.int 0) = report.u.getD "input_tokens" (.int 0)
  cacheRead : report.start.getD "cache_read_input_tokens" (.int 0) =
    report.u.getD "cache_read_input_tokens" (.int 0)
  cacheWrite : report.start.getD "cache_creation_input_tokens" (.int 0) =
    report.u.getD "cache_creation_input_tokens" (.int 0)
  output : report.u.get? "output_tokens" ≠ some .null
  zero : report.u.getD "output_tokens" (.int 0) = .int 0 →
    ∀ usage ∈ report.start :: report.later.filterMap Prod.snd,
      (usage.getD "output_tokens" .null).truthy = false

def isCounted (metadata : Fields) : Bool :=
  metadata.has "promptTokenCount" || metadata.has "candidatesTokenCount"

/-- The count in the last metadata that a line shows, 0 where no line shows one. -/
def GenerateReport.shownCount (report : GenerateReport loads) (name : Str) : Json :=
  (((report.chunks.flatten.flatMap GooglePart.shown).filter isCounted).getLast?).elim (.int 0)
    fun metadata => metadata.getD name (.int 0)

/-- The lines of the stream show the counts that it ends with. -/
def GenerateReport.Consistent (report : GenerateReport loads) : Prop :=
  ∀ name ∈ googleNames, report.shownCount name = report.u.getD name (.int 0)

def isConverse (u : Fields) : Bool := u.has "inputTokens" || u.has "outputTokens"

def ZeroCounts (u : Fields) : Prop :=
  if isConverse u then
    u.getD "inputTokens" (.int 0) = .int 0 ∧ u.getD "outputTokens" (.int 0) = .int 0 ∧
      (u.getD "cacheReadInputTokens" (.int 0)).truthy = false ∧
      (u.getD "cacheWriteInputTokens" (.int 0)).truthy = false
  else
    u.getD "input_tokens" (.int 0) = .int 0 ∧ u.getD "output_tokens" (.int 0) = .int 0 ∧
      (u.getD "cache_read_input_tokens" (.int 0)).truthy = false ∧
      (u.getD "cache_creation_input_tokens" (.int 0)).truthy = false

/-- A frame shows the usage, under the Converse names, or there is nothing to count. -/
def FrameReport.Consistent (report : FrameReport loads) : Prop :=
  (isConverse report.u = true ∧ ∃ frame ∈ report.frames, contains "\"usage\"" frame = true) ∨
    ZeroCounts report.u

def chunkText (parts : List (GooglePart loads)) : Str :=
  (parts.map fun part => part.printed ++ ['\n']).flatten ++ ['\n']

def GenerateReport.usageChunks (report : GenerateReport loads) : List Str :=
  report.chunks.map chunkText

namespace UsageReport

def provider : UsageReport loads → Provider
  | chat report => report.provider
  | message _ => .anthropic
  | generate _ => .google
  | frames _ => .bedrock

def response : UsageReport loads → Json
  | chat report => .obj report.response
  | message report => .obj report.response
  | generate report => .obj report.response
  | frames report => .obj report.response

/-- The chunks that `extract_usage_from_stream` is given. -/
def usageChunks : UsageReport loads → List Str
  | chat report => report.events.map DataEvent.chunk
  | message report => report.startEvent.chunk :: report.later.map fun event => event.1.chunk
  | generate report => report.usageChunks
  | frames report => report.frames

def Agrees (report : UsageReport loads) : Prop :=
  answerUsage report.provider report.response =
    extractUsageFromStream loads report.provider report.usageChunks

def Consistent : UsageReport loads → Prop
  | chat report => report.Consistent
  | message report => report.Consistent
  | generate report => report.Consistent
  | frames report => report.Consistent

end UsageReport

/-! ## Reading an event -/

theorem DataEvent.textLines_chunk (event : DataEvent loads) :
    textLines event.chunk = dropBlank event.heading ++ ["data: " ++ event.text] := by
  have newline : isLineBreak '\n' = true := by decide
  have unbroken : ∀ c ∈ "data: ".toList ++ event.text, isLineBreak c = false := by
    have label : ∀ c ∈ "data: ".toList, isLineBreak c = false := unbroken_of_all (by decide)
    intro c member
    obtain front | back := List.mem_append.mp member
    · exact label c front
    · exact event.unbroken c back
  have visible : strip ("data: " ++ event.text) = "data: " ++ event.text :=
    strip_append (c := 'd') (by decide) "ata: ".toList event.trimmed event.filled
  rw [DataEvent.chunk, List.append_assoc,
    textLines_lines_append fun line member => (event.headingQuiet line member).1,
    textLines_append newline, textLines_unbroken unbroken]
  have single : dropBlank ["data: " ++ event.text] = ["data: " ++ event.text] := by
    simp only [dropBlank, List.map_cons, List.map_nil, visible]
    rfl
  have rest : textLines ['\n'] = [] := by decide
  rw [single, rest, List.append_nil]

theorem DataEvent.read (event : DataEvent loads) {provider : Provider} (sse : provider ≠ .bedrock)
    (acc : TokenUsage) :
    extractUsageFromStreamChunk loads provider acc event.chunk = accumulate provider acc event.data := by
  have quiet : ∀ lines : List Str, (∀ line ∈ lines, line ∈ event.heading) →
      lines.foldl (readLine loads provider) acc = acc := by
    intro lines inside
    induction lines with
    | nil => rfl
    | cons line lines inductionHypothesis =>
      rw [List.forall_mem_cons] at inside
      obtain ⟨-, noData, noObject⟩ := event.headingQuiet line inside.1
      have skipped : readLine loads provider acc line = acc := by
        rw [readLine, lineJson_eq_none (payload_eq_none noData noObject)]
      rw [List.foldl_cons, skipped, inductionHypothesis inside.2]
  have isData : lineJson loads provider ("data: " ++ event.text) = some event.data := by
    have visible : strip ("data: " ++ event.text) = "data: " ++ event.text :=
      strip_append (c := 'd') (by decide) "ata: ".toList event.trimmed event.filled
    have starts : startsWith "data:" ("data: " ++ event.text) = true :=
      startsWith_append "data:" (' ' :: event.text)
    have stripped : strip (("data: " ++ event.text).drop 5) = event.text :=
      (strip_cons (by decide) event.text).trans event.trimmed
    rw [lineJson_data (by rwa [visible]) (by rwa [visible]) event.filled event.notDone, event.decoded]
  rw [extractUsageFromStreamChunk_eq sse, event.textLines_chunk, List.foldl_append, foldl_dropBlank,
    quiet event.heading fun _ => id, List.foldl_cons, List.foldl_nil, readLine, isData]

theorem foldl_events (provider : Provider) (step : TokenUsage → Fields → TokenUsage)
    {events : List (DataEvent loads × Option Fields)}
    (taken : ∀ event ∈ events, ∀ acc,
      accumulate provider acc event.1.data = event.2.elim acc (step acc)) (acc : TokenUsage) :
    events.foldl (fun acc event => accumulate provider acc event.1.data) acc =
      (events.filterMap Prod.snd).foldl step acc := by
  induction events generalizing acc with
  | nil => rfl
  | cons event events inductionHypothesis =>
    rw [List.forall_mem_cons] at taken
    rw [List.foldl_cons, taken.1, inductionHypothesis taken.2]
    obtain ⟨event, _ | u⟩ := event <;> rfl

/-! ## The OpenAI wire format -/

theorem dictOrEmpty_obj (fields : Fields) : dictOrEmpty (.obj fields) = .ok fields := by
  cases fields <;> rfl

theorem getD_of_get? {fields : Fields} {key : Str} {value : Json} (found : fields.get? key = some value)
    (default : Json) : fields.getD key default = value := by
  rw [Fields.getD, found, Option.getD_some]

theorem IsDetails.dictOrEmpty {names : List Str} {u : Fields} {key : Str}
    (documented : IsDetails names (u.get? key)) :
    dictOrEmpty (u.getD key .null) = .ok (details u key) := by
  rw [Fields.getD, details]
  cases found : u.get? key with
  | none => rfl
  | some value =>
    rw [found] at documented
    cases value with
    | null => rfl
    | obj fields => exact dictOrEmpty_obj fields
    | _ => exact documented.elim

theorem IsDetails.count {names : List Str} {u : Fields} {key name : Str}
    (documented : IsDetails names (u.get? key)) (listed : name ∈ names) :
    IsCount ((details u key).get? name) := by
  rw [details]
  cases found : u.get? key with
  | none => trivial
  | some value =>
    rw [found] at documented
    cases value with
    | obj fields => exact documented name listed
    | _ => trivial

theorem IsCount.number {fields : Fields} {key : Str} (count : IsCount (fields.get? key)) :
    (fields.get? key = some .null ∧ (fields.getD key (.int 0)).number = .error .typeError) ∨
      (fields.get? key ≠ some .null ∧
        ∃ n : Nat, fields.getD key (.int 0) = .int n ∧
          (fields.getD key (.int 0)).number = .ok (.int n)) := by
  rw [Fields.getD]
  cases found : fields.get? key with
  | none => exact .inr ⟨(by rintro ⟨⟩), 0, rfl, rfl⟩
  | some value =>
    rw [found] at count
    cases value with
    | null => exact .inl ⟨rfl, rfl⟩
    | int n =>
      obtain ⟨m, rfl⟩ := Int.eq_ofNat_of_zero_le count
      exact .inr ⟨by simp, m, rfl, rfl⟩
    | _ => exact count.elim

def completionDetails (u : Fields) : Fields := details u "completion_tokens_details"

def promptDetails (u : Fields) : Fields := details u "prompt_tokens_details"

def Subtractable (u : Fields) : Prop :=
  u.get? "completion_tokens" ≠ some .null ∧
    (completionDetails u).get? "reasoning_tokens" ≠ some .null

theorem visibleOutput_cases {u : Fields} (documented : OpenaiUsage u) :
    (Subtractable u ∧ ∃ output, visibleOutput u (completionDetails u) = .ok output) ∨
      (¬ Subtractable u ∧ visibleOutput u (completionDetails u) = .error .typeError) := by
  have reasoning : IsCount ((completionDetails u).get? "reasoning_tokens") :=
    documented.completionDetails.count (.head _)
  obtain ⟨null, raises⟩ | ⟨given, n, -, subtrahend⟩ := reasoning.number
  · refine .inr ⟨fun both => both.2 null, ?_⟩
    rw [visibleOutput, raises]
    rfl
  · obtain ⟨null, raises⟩ | ⟨counted, m, -, minuend⟩ := documented.completion.number
    · refine .inr ⟨fun both => both.1 null, ?_⟩
      rw [visibleOutput, subtrahend, raises]
      rfl
    · refine .inl ⟨⟨counted, given⟩, (Number.int (m - n)).max0, ?_⟩
      rw [visibleOutput, subtrahend, minuend]
      rfl

def openaiUsage (u : Fields) (output : Number) : TokenUsage where
  inputTokens := u.getD "prompt_tokens" (.int 0)
  outputTokens := output.toJson
  reasoningTokens := (completionDetails u).getD "reasoning_tokens" (.int 0)
  cacheReadTokens := (promptDetails u).getD "cached_tokens" (.int 0)
  audioInputTokens := (promptDetails u).getD "audio_tokens" (.int 0)
  audioOutputTokens := (completionDetails u).getD "audio_tokens" (.int 0)

theorem extractUsageOpenai_eq {u response : Fields} (documented : OpenaiUsage u)
    (body : response.get? "usage" = some (.obj u)) :
    extractUsageOpenai (.obj response) =
      (visibleOutput u (completionDetails u)).map (openaiUsage u) := by
  have reasoning : IsCount ((completionDetails u).get? "reasoning_tokens") :=
    documented.completionDetails.count (.head _)
  simp only [extractUsageOpenai, Json.dict, bind, Except.bind, getD_of_get? body, dictOrEmpty_obj,
    documented.completionDetails.dictOrEmpty, documented.promptDetails.dictOrEmpty]
  rw [← completionDetails, visibleOutput]
  obtain ⟨-, raises⟩ | ⟨-, n, -, subtrahend⟩ := reasoning.number
  · obtain ⟨-, fails⟩ | ⟨-, m, -, minuend⟩ := documented.completion.number
    · rw [raises, fails]
      rfl
    · rw [raises, minuend]
      rfl
  · obtain ⟨-, fails⟩ | ⟨-, m, -, minuend⟩ := documented.completion.number
    · rw [subtrahend, fails]
      rfl
    · rw [subtrahend, minuend]
      rfl

/-- What a stream leaves in the accumulator, whatever it held of another event with the same usage. -/
def chatUsage (u : Fields) : TokenUsage :=
  if u = [] then {}
  else
    match visibleOutput u (completionDetails u) with
    | .ok output => openaiUsage u output
    | .error _ => { inputTokens := u.getD "prompt_tokens" (.int 0) }

theorem accumulateOpenai_none {data : Json} (none : Carries "usage" data none) (acc : TokenUsage) :
    accumulateOpenai acc data = acc := by
  cases none with
  | missing fields found => simp only [accumulateOpenai, Json.dict, Fields.getD, found]; rfl
  | null fields found => simp only [accumulateOpenai, Json.dict, Fields.getD, found]; rfl

theorem accumulateOpenai_usage {u : Fields} (documented : OpenaiUsage u) {data : Json}
    (carries : Carries "usage" data (some u)) {acc : TokenUsage}
    (again : acc = {} ∨ acc = chatUsage u) : accumulateOpenai acc data = chatUsage u := by
  cases carries with
  | usage fields u found =>
    by_cases empty : u = []
    · subst empty
      rcases again with rfl | rfl
      · simp only [accumulateOpenai, Json.dict, getD_of_get? found]
        rfl
      · simp only [accumulateOpenai, Json.dict, getD_of_get? found]
        rfl
    · have truthy : (Json.obj u).truthy = true := by
        cases u with
        | nil => exact absurd rfl empty
        | cons field fields => rfl
      simp only [accumulateOpenai, Json.dict, getD_of_get? found, truthy, Bool.not_true,
        Bool.false_eq_true, if_false, documented.completionDetails.dictOrEmpty,
        documented.promptDetails.dictOrEmpty]
      rw [chatUsage, if_neg empty] at again ⊢
      rw [← completionDetails]
      cases output : visibleOutput u (completionDetails u) with
      | ok output =>
        rw [output] at again
        rcases again with rfl | rfl <;> rfl
      | error error =>
        rw [output] at again
        rcases again with rfl | rfl <;> rfl

theorem chatUsage_empty {u : Fields} (empty : u = []) (output : Number)
    (same : visibleOutput u (completionDetails u) = .ok output) : openaiUsage u output = {} := by
  subst empty
  cases same
  rfl

theorem ChatReport.accumulate_eq (report : ChatReport loads) :
    accumulate report.provider = accumulateOpenai := by
  obtain ⟨notAnthropic, notGoogle, notBedrock⟩ := report.openai
  cases provider : report.provider with
  | anthropic => exact absurd provider notAnthropic
  | google => exact absurd provider notGoogle
  | bedrock => exact absurd provider notBedrock
  | _ => rfl

/-- The fold over the events ends in the usage as soon as one event carries it. -/
theorem ChatReport.streamed (report : ChatReport loads) :
    extractUsageFromStream loads report.provider (report.events.map DataEvent.chunk) =
      chatUsage report.u := by
  have read := fun (event : DataEvent loads) => event.read report.openai.2.2
  rw [extractUsageFromStream, List.foldl_map]
  simp only [read, report.accumulate_eq]
  obtain ⟨front, event, back, split, carries⟩ : ∃ front event back,
      report.events = front ++ event :: back ∧ Carries "usage" event.data (some report.u) := by
    obtain ⟨event, member, carries⟩ := report.reported
    obtain ⟨front, back, split⟩ := List.append_of_mem member
    exact ⟨front, event, back, split, carries⟩
  have inside : ∀ other ∈ front ++ back, other ∈ report.events := by
    intro other member
    rw [split]
    obtain before | behind := List.mem_append.mp member
    · exact List.mem_append_left _ before
    · exact List.mem_append_right _ (List.mem_cons_of_mem _ behind)
  -- in front of the event the accumulator is empty or holds the usage already
  have keeps : ∀ (events : List (DataEvent loads)) (acc : TokenUsage),
      (∀ other ∈ events, other ∈ report.events) → acc = {} ∨ acc = chatUsage report.u →
      (acc = chatUsage report.u → events.foldl (fun acc event => accumulateOpenai acc event.data) acc =
        chatUsage report.u) ∧
      (events.foldl (fun acc event => accumulateOpenai acc event.data) acc = {} ∨
        events.foldl (fun acc event => accumulateOpenai acc event.data) acc = chatUsage report.u) := by
    intro events
    induction events with
    | nil => exact fun acc _ holds => ⟨id, holds⟩
    | cons other events inductionHypothesis =>
      intro acc listed holds
      rw [List.forall_mem_cons] at listed
      simp only [List.foldl_cons]
      rcases report.placed other listed.1 with nothing | usage
      · rw [accumulateOpenai_none nothing]
        exact inductionHypothesis acc listed.2 holds
      · rw [accumulateOpenai_usage report.documented usage holds]
        obtain ⟨stays, holds⟩ := inductionHypothesis _ listed.2 (.inr rfl)
        exact ⟨fun _ => stays rfl, holds⟩
  obtain ⟨-, before⟩ := keeps front {} (fun other member => inside other (List.mem_append_left _ member))
    (.inl rfl)
  rw [split, List.foldl_append, List.foldl_cons, accumulateOpenai_usage report.documented carries before]
  exact (keeps back _ (fun other member => inside other (List.mem_append_right _ member)) (.inr rfl)).1 rfl

theorem ChatReport.agrees_iff (report : ChatReport loads) :
    (UsageReport.chat report).Agrees ↔ report.Consistent := by
  have extracted : extractUsage report.provider (.obj report.response) =
      (visibleOutput report.u (completionDetails report.u)).map (openaiUsage report.u) := by
    rw [← extractUsageOpenai_eq report.documented report.body]
    obtain ⟨notAnthropic, notGoogle, notBedrock⟩ := report.openai
    cases provider : report.provider with
    | anthropic => exact absurd provider notAnthropic
    | google => exact absurd provider notGoogle
    | bedrock => exact absurd provider notBedrock
    | _ => rfl
  have unfolded : (UsageReport.chat report).Agrees ↔
      answerUsage report.provider (.obj report.response) = chatUsage report.u := by
    rw [← report.streamed]
    rfl
  rw [unfolded, answerUsage, extracted, ChatReport.Consistent, chatUsage]
  obtain ⟨subtractable, output, same⟩ | ⟨stuck, same⟩ := visibleOutput_cases report.documented
  · rw [same]
    refine ⟨fun _ => .inl subtractable, fun _ => ?_⟩
    by_cases empty : report.u = []
    · rw [if_pos empty]
      exact chatUsage_empty empty output same
    · rw [if_neg empty]
      rfl
  · rw [same]
    have filled : report.u ≠ [] := by
      intro empty
      rw [empty] at stuck
      exact stuck ⟨nofun, nofun⟩
    rw [if_neg filled]
    constructor
    · intro agrees
      exact .inr (congrArg TokenUsage.inputTokens agrees).symm
    · rintro (subtractable | nothing)
      · exact absurd subtractable stuck
      · simp only [nothing]
        rfl

/-! ## Google -/

theorem accumulateGoogle_none {data : Json} (none : Carries "usageMetadata" data none)
    (acc : TokenUsage) : accumulateGoogle acc data = acc := by
  cases none with
  | missing fields found => simp only [accumulateGoogle, Json.dict, Fields.getD, found]; rfl
  | null fields found => simp only [accumulateGoogle, Json.dict, Fields.getD, found]; rfl

/-- The counts of one metadata object, where it has one of them. -/
def withMetadata (acc : TokenUsage) (metadata : Fields) : TokenUsage :=
  if isCounted metadata then
    { acc with
      inputTokens := metadata.getD "promptTokenCount" (.int 0)
      outputTokens := metadata.getD "candidatesTokenCount" (.int 0) }
  else acc

theorem accumulateGoogle_usage {data : Json} {metadata : Fields}
    (carries : Carries "usageMetadata" data (some metadata)) (acc : TokenUsage) :
    accumulateGoogle acc data = withMetadata acc metadata := by
  cases carries with
  | usage fields metadata found =>
    simp only [accumulateGoogle, Json.dict, getD_of_get? found, dictOrEmpty_obj]
    rfl

theorem JsonLine.textLines_printed (line : JsonLine loads) :
    textLines (line.label ++ line.text ++ line.trail) = [line.label ++ line.text] ∧
      lineJson loads .google (line.label ++ line.text) = some line.data := by
  have visible : strip (line.label ++ line.text) = line.label ++ line.text := by
    obtain labelled | ⟨bare, -⟩ := line.labelled
    · rw [labelled]
      exact strip_append (c := 'd') (by decide) "ata: ".toList line.trimmed line.filled
    · rw [bare]
      exact line.trimmed
  have unbroken : ∀ c ∈ line.label ++ line.text, isLineBreak c = false := by
    obtain labelled | ⟨bare, -⟩ := line.labelled
    · have label : ∀ c ∈ "data: ".toList, isLineBreak c = false := unbroken_of_all (by decide)
      rw [labelled]
      exact List.forall_mem_append.mpr ⟨label, line.unbroken⟩
    · rw [bare]
      exact line.unbroken
  have filled : line.label ++ line.text ≠ [] := List.append_ne_nil_of_right_ne_nil _ line.filled
  constructor
  · have cut : ∀ trail : Str, (∀ c ∈ trail, isSpace c = true) →
        textLines (line.label ++ line.text ++ trail) = textLines (line.label ++ line.text) := by
      intro trail
      induction trail using List.reverseRecOn with
      | nil => simp
      | append_singleton trail c inductionHypothesis =>
        intro blank
        rw [List.forall_mem_append, List.forall_mem_singleton] at blank
        rw [← List.append_assoc, textLines_concat blank.2, inductionHypothesis blank.1]
    rw [cut line.trail line.blank, textLines_unbroken unbroken]
    simp [dropBlank, visible, filled]
  · obtain labelled | ⟨bare, object⟩ := line.labelled
    · rw [labelled] at visible ⊢
      have starts : startsWith "data:" ("data: " ++ line.text) = true :=
        startsWith_append "data:" (' ' :: line.text)
      have stripped : strip (("data: " ++ line.text).drop 5) = line.text :=
        (strip_cons (by decide) line.text).trans line.trimmed
      rw [lineJson_data (by rwa [visible]) (by rwa [visible]) line.filled line.notDone, line.decoded]
    · have noData : startsWith "data:" line.text = false := by
        obtain ⟨rest, same⟩ := startsWith_iff.mp object
        rw [same]
        rfl
      have given : payload .google line.text = some line.text := by
        rw [payload, noData, object]
        rfl
      rw [bare, List.nil_append, lineJson, line.trimmed, given, ← line.decoded]
      exact if_neg fun skipped => skipped.elim line.filled line.notDone

theorem GooglePart.read (part : GooglePart loads) (acc : TokenUsage) :
    (textLines part.printed).foldl (readLine loads .google) acc = part.shown.foldl withMetadata acc := by
  cases part with
  | line line metadata carries =>
    obtain ⟨single, decoded⟩ := line.textLines_printed
    rw [printed, single, List.foldl_cons, List.foldl_nil, readLine, decoded]
    cases metadata with
    | none => exact accumulateGoogle_none carries acc
    | some metadata => exact accumulateGoogle_usage carries acc
  | text pieces metadata unread =>
    rw [printed, shown, List.foldl_nil]
    generalize textLines pieces = lines at unread ⊢
    induction lines with
    | nil => rfl
    | cons line lines inductionHypothesis =>
      rw [List.forall_mem_cons] at unread
      have skipped : readLine loads .google acc line = acc := by
        rw [readLine]
        cases decoded : lineJson loads .google line with
        | none => rfl
        | some data => exact accumulateGoogle_none (unread.1 data decoded) acc
      rw [List.foldl_cons, skipped, inductionHypothesis unread.2]

theorem textLines_chunkText (parts : List (GooglePart loads)) :
    textLines (chunkText parts) = parts.flatMap fun part => textLines part.printed := by
  have newline : isLineBreak '\n' = true := by decide
  induction parts with
  | nil => exact textLines_cons (isSpace_of_isLineBreak newline) []
  | cons part parts inductionHypothesis =>
    rw [List.flatMap_cons, ← inductionHypothesis, ← textLines_append newline, chunkText, chunkText,
      List.map_cons, List.flatten_cons, List.append_assoc, List.append_assoc]
    rfl

theorem GenerateReport.streamed (report : GenerateReport loads) :
    extractUsageFromStream loads .google report.usageChunks =
      { inputTokens := report.shownCount "promptTokenCount"
        outputTokens := report.shownCount "candidatesTokenCount" } := by
  have parts : ∀ (parts : List (GooglePart loads)) (acc : TokenUsage),
      (parts.flatMap fun part => textLines part.printed).foldl (readLine loads .google) acc =
        (parts.flatMap GooglePart.shown).foldl withMetadata acc := by
    intro parts
    induction parts with
    | nil => exact fun _ => rfl
    | cons part parts inductionHypothesis =>
      intro acc
      rw [List.flatMap_cons, List.flatMap_cons, List.foldl_append, List.foldl_append, part.read,
        inductionHypothesis]
  have whole : ∀ (chunks : List (List (GooglePart loads))) (acc : TokenUsage),
      (chunks.map chunkText).foldl (extractUsageFromStreamChunk loads .google) acc =
        (chunks.flatten.flatMap GooglePart.shown).foldl withMetadata acc := by
    intro chunks
    induction chunks with
    | nil => exact fun _ => rfl
    | cons chunk chunks inductionHypothesis =>
      intro acc
      rw [List.map_cons, List.foldl_cons, extractUsageFromStreamChunk_eq (by decide),
        textLines_chunkText, parts, inductionHypothesis, List.flatten_cons, List.flatMap_append,
        List.foldl_append]
  -- each metadata object with a count replaces both counts
  have last : ∀ shown : List Fields, shown.foldl withMetadata {} =
      { inputTokens := ((shown.filter isCounted).getLast?).elim (.int 0)
          fun metadata => metadata.getD "promptTokenCount" (.int 0)
        outputTokens := ((shown.filter isCounted).getLast?).elim (.int 0)
          fun metadata => metadata.getD "candidatesTokenCount" (.int 0) } := by
    intro shown
    induction shown using List.reverseRecOn with
    | nil => rfl
    | append_singleton shown metadata inductionHypothesis =>
      rw [List.foldl_append, List.foldl_cons, List.foldl_nil, inductionHypothesis, withMetadata,
        List.filter_append]
      cases counted : isCounted metadata <;> simp [counted]
  rw [extractUsageFromStream, GenerateReport.usageChunks, whole, last]
  rfl

theorem GenerateReport.agrees_iff (report : GenerateReport loads) :
    (UsageReport.generate report).Agrees ↔ report.Consistent := by
  have extracted : answerUsage .google (.obj report.response) =
      { inputTokens := report.u.getD "promptTokenCount" (.int 0)
        outputTokens := report.u.getD "candidatesTokenCount" (.int 0) } := by
    simp only [answerUsage, extractUsage, extractUsageGoogle, Json.dict, bind, Except.bind,
      getD_of_get? report.body, dictOrEmpty_obj]
    rfl
  have unfolded : (UsageReport.generate report).Agrees ↔
      answerUsage .google (.obj report.response) =
        extractUsageFromStream loads .google report.usageChunks := Iff.rfl
  rw [unfolded, extracted, report.streamed, TokenUsage.mk.injEq, GenerateReport.Consistent, googleNames,
    List.forall_mem_cons, List.forall_mem_singleton]
  constructor
  · intro ⟨input, output, _⟩
    exact ⟨input.symm, output.symm⟩
  · intro ⟨input, output⟩
    exact ⟨input.symm, output.symm, by simp⟩

/-! ## Anthropic -/

theorem accumulateAnthropic_start {data : Json} {start : Fields} (started : StartEvent data start)
    (acc : TokenUsage) :
    accumulateAnthropic acc data = withOutput { acc with
      inputTokens := start.getD "input_tokens" acc.inputTokens
      cacheReadTokens := start.getD "cache_read_input_tokens" acc.cacheReadTokens
      cacheWriteTokens := start.getD "cache_creation_input_tokens" acc.cacheWriteTokens } start := by
  cases started with
  | mk fields message start type found usage =>
    have read : messageUsage fields = .ok start := by
      simp only [messageUsage, getD_of_get? found, dictOrEmpty_obj, bind, Except.bind,
        getD_of_get? usage]
    have isStart : Json.isText "message_start" (fields.getD "type" .null) = true := by
      rw [getD_of_get? type, Json.isText_self]
    simp only [accumulateAnthropic, Json.dict]
    rw [if_pos isStart, read]

theorem accumulateAnthropic_later {data : Json} {usage : Option Fields}
    (later : LaterMessageEvent data usage) (acc : TokenUsage) :
    accumulateAnthropic acc data = usage.elim acc (withOutput acc) := by
  cases later with
  | delta fields usage type carries =>
    have notStart : Json.isText "message_start" (fields.getD "type" .null) = false := by
      rw [getD_of_get? type, Json.isText_of_ne (by decide)]
    have isDelta : Json.isText "message_delta" (fields.getD "type" .null) = true := by
      rw [getD_of_get? type, Json.isText_self]
    simp only [accumulateAnthropic, Json.dict]
    rw [if_neg (by rw [notStart]; exact Bool.false_ne_true), if_pos isDelta]
    cases carries with
    | usage fields u found => rw [getD_of_get? found, dictOrEmpty_obj]; rfl
    | missing fields found => rw [Fields.getD, found]; rfl
    | null fields found => rw [getD_of_get? found]; rfl
  | other fields name type notStart notDelta =>
    have first : Json.isText "message_start" (fields.getD "type" .null) = false := by
      rw [getD_of_get? type, Json.isText_of_ne notStart]
    have second : Json.isText "message_delta" (fields.getD "type" .null) = false := by
      rw [getD_of_get? type, Json.isText_of_ne notDelta]
    simp only [accumulateAnthropic, Json.dict]
    rw [if_neg (by rw [first]; exact Bool.false_ne_true),
      if_neg (by rw [second]; exact Bool.false_ne_true)]
    rfl

/-- The last output count that is not 0, and 0 without one. -/
def lastOutput (usages : List Fields) : Json :=
  usages.foldl (fun last u =>
    let output := u.getD "output_tokens" .null
    if output.truthy then output else last) (.int 0)

theorem foldl_withOutput (usages : List Fields) (acc : TokenUsage) :
    usages.foldl withOutput acc = { acc with
      outputTokens := usages.foldl (fun last u =>
        let output := u.getD "output_tokens" .null
        if output.truthy then output else last) acc.outputTokens } := by
  induction usages generalizing acc with
  | nil => rfl
  | cons u usages inductionHypothesis =>
    have step : withOutput acc u = { acc with
        outputTokens := if (u.getD "output_tokens" .null).truthy then u.getD "output_tokens" .null
          else acc.outputTokens } := by
      rw [withOutput]
      split <;> rfl
    rw [List.foldl_cons, step, inductionHypothesis]
    rfl

theorem MessageReport.streamed (report : MessageReport loads) :
    extractUsageFromStream loads .anthropic
        (report.startEvent.chunk :: report.later.map fun event => event.1.chunk) =
      { inputTokens := report.start.getD "input_tokens" (.int 0)
        outputTokens := lastOutput (report.start :: report.later.filterMap Prod.snd)
        cacheReadTokens := report.start.getD "cache_read_input_tokens" (.int 0)
        cacheWriteTokens := report.start.getD "cache_creation_input_tokens" (.int 0) } := by
  have read := fun (event : DataEvent loads) (acc : TokenUsage) =>
    event.read (show Provider.anthropic ≠ .bedrock by decide) acc
  have rest := fun acc => foldl_events .anthropic withOutput
    (fun event member => accumulateAnthropic_later (report.placed event member)) acc
  rw [extractUsageFromStream, List.foldl_cons, List.foldl_map, read]
  simp only [read]
  rw [rest, accumulate, accumulateAnthropic_start report.started, ← List.foldl_cons, foldl_withOutput]
  rfl

theorem lastReported_concat (name : Str) (usages : List Fields) (u : Fields) :
    lastReported name (usages ++ [u]) = (u.get? name).or (lastReported name usages) := by
  rw [lastReported, List.foldl_append]
  rfl

theorem lastOutput_concat (usages : List Fields) (u : Fields) :
    lastOutput (usages ++ [u]) =
      if (u.getD "output_tokens" .null).truthy then u.getD "output_tokens" .null
      else lastOutput usages := by
  rw [lastOutput, List.foldl_append]
  rfl

structure OutputCounts (usages : List Fields) (n : Nat) : Prop where
  last : lastOutput usages = .int n
  zero : n = 0 ↔ ∀ u ∈ usages, (u.getD "output_tokens" .null).truthy = false
  reported : lastReported "output_tokens" usages = none ∨
    lastReported "output_tokens" usages = some .null ∨
    ∃ m : Nat, lastReported "output_tokens" usages = some (.int m) ∧ (m ≠ 0 → m = n)

theorem outputCounts {usages : List Fields}
    (documented : ∀ u ∈ usages, IsCount (u.get? "output_tokens")) :
    ∃ n, OutputCounts usages n := by
  induction usages using List.reverseRecOn with
  | nil => exact ⟨0, rfl, by simp, .inl rfl⟩
  | append_singleton usages u inductionHypothesis =>
    obtain ⟨n, counts⟩ := inductionHypothesis fun other member =>
      documented other (List.mem_append_left _ member)
    have count := documented u (List.mem_append_right _ (.head _))
    have concat := lastOutput_concat usages u
    have report := lastReported_concat "output_tokens" usages u
    have zero : (∀ other ∈ usages ++ [u], (other.getD "output_tokens" .null).truthy = false) ↔
        n = 0 ∧ (u.getD "output_tokens" .null).truthy = false := by
      rw [counts.zero]
      simp only [List.mem_append, List.mem_singleton, or_imp, forall_and, forall_eq]
    rw [Fields.getD] at concat zero
    cases found : u.get? "output_tokens" with
    | none =>
      rw [found] at concat report zero
      refine ⟨n, concat.trans counts.last, ?_, report ▸ counts.reported⟩
      rw [zero]
      exact (and_iff_left rfl).symm
    | some value =>
      rw [found] at concat report zero count
      cases value with
      | null =>
        refine ⟨n, concat.trans counts.last, ?_, .inr (.inl report)⟩
        rw [zero]
        exact (and_iff_left rfl).symm
      | int m =>
        obtain ⟨m, rfl⟩ := Int.eq_ofNat_of_zero_le count
        by_cases nothing : m = 0
        · subst nothing
          refine ⟨n, concat.trans counts.last, ?_, .inr (.inr ⟨0, report, fun some => absurd rfl some⟩)⟩
          rw [zero]
          exact (and_iff_left rfl).symm
        · have truthy : (Json.int m).truthy = true := by
            simpa [Json.truthy] using nothing
          refine ⟨m, ?_, ?_, .inr (.inr ⟨m, report, fun _ => rfl⟩)⟩
          · rw [concat, Option.getD_some, if_pos truthy]
          · rw [zero]
            simp only [nothing, Option.getD_some, truthy, Bool.true_eq_false, and_false]
      | _ => exact count.elim

theorem MessageReport.agrees_iff (report : MessageReport loads) :
    (UsageReport.message report).Agrees ↔ report.Consistent := by
  have extracted : answerUsage .anthropic (.obj report.response) =
      { inputTokens := report.u.getD "input_tokens" (.int 0)
        outputTokens := report.u.getD "output_tokens" (.int 0)
        cacheReadTokens := report.u.getD "cache_read_input_tokens" (.int 0)
        cacheWriteTokens := report.u.getD "cache_creation_input_tokens" (.int 0) } := by
    simp only [answerUsage, extractUsage, extractUsageAnthropic, Json.dict, bind, Except.bind,
      getD_of_get? report.body, dictOrEmpty_obj]
    rfl
  have output : report.u.get? "output_tokens" =
      lastReported "output_tokens" (report.start :: report.later.filterMap Prod.snd) :=
    report.merged _ (.tail _ (.head _))
  obtain ⟨n, counts⟩ : ∃ n, OutputCounts (report.start :: report.later.filterMap Prod.snd) n :=
    outputCounts fun u member => report.documented u member _ (.tail _ (.head _))
  have streamed := report.streamed
  rw [counts.last] at streamed
  have outputs : report.u.getD "output_tokens" (.int 0) = .int n ↔
      report.u.get? "output_tokens" ≠ some .null ∧
        (report.u.getD "output_tokens" (.int 0) = .int 0 →
          ∀ usage ∈ report.start :: report.later.filterMap Prod.snd,
            (usage.getD "output_tokens" .null).truthy = false) := by
    rw [← counts.zero, Fields.getD, output]
    rcases counts.reported with found | found | ⟨m, found, same⟩
    · rw [found, Option.getD_none, Json.int.injEq]
      exact ⟨fun agrees => ⟨(by rintro ⟨⟩), fun _ => by omega⟩, fun condition => by
        have := condition.2 rfl
        omega⟩
    · rw [found, Option.getD_some]
      exact ⟨(by rintro ⟨⟩), fun condition => absurd rfl condition.1⟩
    · rw [found, Option.getD_some, Json.int.injEq, Json.int.injEq]
      exact ⟨fun agrees => ⟨(by rintro ⟨⟩), fun _ => by omega⟩, fun condition => by
        have := condition.2
        omega⟩
  constructor
  · intro agrees
    have same := extracted.symm.trans (agrees.trans streamed)
    obtain ⟨given, zero⟩ := outputs.mp (congrArg TokenUsage.outputTokens same)
    exact ⟨(congrArg TokenUsage.inputTokens same).symm, (congrArg TokenUsage.cacheReadTokens same).symm,
      (congrArg TokenUsage.cacheWriteTokens same).symm, given, zero⟩
  · intro consistent
    have counted := outputs.mpr ⟨consistent.output, consistent.zero⟩
    rw [← consistent.input, ← consistent.cacheRead, ← consistent.cacheWrite, counted] at extracted
    exact extracted.trans streamed.symm

/-! ## Bedrock -/

theorem scanFrom_append {s blob : Str} {depth : Nat} {inStr esc : Bool}
    (found : scanFrom depth inStr esc s = some blob) (back : Str) :
    scanFrom depth inStr esc (s ++ back) = some blob := by
  induction s generalizing depth inStr esc blob with
  | nil => cases found
  | cons c s inductionHypothesis =>
    have longer : ∀ {depth : Nat} {inStr esc : Bool},
        (scanFrom depth inStr esc s).map (c :: ·) = some blob →
          (scanFrom depth inStr esc (s ++ back)).map (c :: ·) = some blob := by
      intro depth inStr esc found
      obtain ⟨rest, scanned, rfl⟩ := Option.map_eq_some_iff.mp found
      rw [inductionHypothesis scanned, Option.map_some]
    rw [List.cons_append]
    simp only [scanFrom] at found ⊢
    split_ifs at found ⊢ <;> first | exact found | exact longer found

theorem readBlob_eq {u : Fields} {colon blob : Str} (noBrace : '{' ∉ colon)
    (scanned : scanJsonObject blob = some blob) (decoded : loads blob = some (.obj u))
    (acc : TokenUsage) (back : Str) :
    readBlob loads acc (colon ++ blob ++ back) = accumulateBedrock acc u := by
  obtain ⟨rest, rfl⟩ : ∃ rest, blob = '{' :: rest := by
    unfold scanJsonObject at scanned
    split at scanned
    · exact ⟨_, rfl⟩
    · cases scanned
  have skipped : (colon ++ '{' :: rest ++ back).dropWhile (· ≠ '{') = '{' :: rest ++ back := by
    rw [List.append_assoc, List.dropWhile_append_of_pos, List.cons_append, List.dropWhile_cons_of_neg]
    · simp
    · intro c member
      simpa using fun brace : c = '{' => noBrace (brace ▸ member)
  have object : scanJsonObject ('{' :: rest ++ back) = some ('{' :: rest) :=
    scanFrom_append (s := '{' :: rest) scanned back
  rw [readBlob, skipped, object, Option.bind_some, decoded]

theorem scanUsage_silent {text : Str} (silent : ∀ i, startsWith "\"usage\"" (text.drop i) = false)
    (acc : TokenUsage) : scanUsage loads acc text = acc := by
  induction text with
  | nil => rfl
  | cons c text inductionHypothesis =>
    have here : startsWith "\"usage\"" (c :: text) = false := silent 0
    rw [scanUsage, if_neg (by rw [here]; exact Bool.false_ne_true)]
    exact inductionHypothesis fun i => silent (i + 1)

theorem scanUsage_single {front rest : Str}
    (single : ∀ i, startsWith "\"usage\"" ((front ++ ("\"usage\"" ++ rest)).drop i) = true →
      i = front.length) (acc : TokenUsage) :
    scanUsage loads acc (front ++ ("\"usage\"" ++ rest)) = readBlob loads acc rest := by
  induction front with
  | nil =>
    have here : startsWith "\"usage\"" ("\"usage\"" ++ rest) = true := startsWith_append _ _
    have later : ∀ i, startsWith "\"usage\"" (("usage\"" ++ rest).drop i) = false := by
      intro i
      rw [Bool.eq_false_iff]
      intro found
      exact absurd (single (i + 1) found) (Nat.succ_ne_zero i)
    have step : scanUsage loads acc ("\"usage\"" ++ rest) =
        scanUsage loads (readBlob loads acc rest) ("usage\"" ++ rest) := if_pos here
    exact step.trans (scanUsage_silent later _)
  | cons c front inductionHypothesis =>
    have here : startsWith "\"usage\"" (c :: front ++ ("\"usage\"" ++ rest)) = false := by
      rw [Bool.eq_false_iff]
      intro found
      exact absurd (single 0 found) (Nat.succ_ne_zero front.length).symm
    rw [List.cons_append] at here ⊢
    rw [scanUsage, if_neg (by rw [here]; exact Bool.false_ne_true)]
    exact inductionHypothesis fun i found => Nat.succ.inj (single (i + 1) found)

/-- A frame with the marker adds the usage, and the others add nothing. -/
theorem FrameText.read {u : Fields} {frame : Str} (placed : FrameText loads u frame)
    (acc : TokenUsage) :
    scanUsage loads acc frame =
      if contains "\"usage\"" frame then accumulateBedrock acc u else acc := by
  cases placed with
  | silent frame silent =>
    rw [scanUsage_silent silent, if_neg]
    intro found
    obtain ⟨front, back, same⟩ := contains_iff.mp found
    have here := silent front.length
    rw [← same, List.append_assoc, List.drop_left, startsWith_append] at here
    cases here
  | usage front colon blob back noBrace scanned decoded single =>
    have found : contains "\"usage\"" (front ++ ("\"usage\"" ++ (colon ++ blob ++ back))) = true :=
      contains_iff.mpr ⟨front, colon ++ blob ++ back, List.append_assoc _ _ _⟩
    rw [scanUsage_single single, readBlob_eq noBrace scanned decoded, if_pos found]

def bedrockUsage (u : Fields) : TokenUsage :=
  if isConverse u then accumulateBedrock {} u
  else
    { inputTokens := u.getD "input_tokens" (.int 0)
      outputTokens := u.getD "output_tokens" (.int 0)
      cacheReadTokens := (u.getD "cache_read_input_tokens" (.int 0)).orElse (.int 0)
      cacheWriteTokens := (u.getD "cache_creation_input_tokens" (.int 0)).orElse (.int 0) }

/-- `u.get(key, 0) or 0` and `if u.get(key)` find the same count. -/
theorem orElse_getD (u : Fields) (key : Str) :
    (u.getD key (.int 0)).orElse (.int 0) =
      if (u.getD key .null).truthy then u.getD key .null else .int 0 := by
  rw [Fields.getD, Fields.getD]
  cases u.get? key <;> rfl

theorem accumulateBedrock_converse {u : Fields} (converse : isConverse u = true) (acc : TokenUsage) :
    accumulateBedrock acc u = { acc with
      inputTokens := u.getD "inputTokens" (.int 0)
      outputTokens := u.getD "outputTokens" (.int 0)
      cacheReadTokens := if (u.getD "cacheReadInputTokens" .null).truthy then
        u.getD "cacheReadInputTokens" .null else acc.cacheReadTokens
      cacheWriteTokens := if (u.getD "cacheWriteInputTokens" .null).truthy then
        u.getD "cacheWriteInputTokens" .null else acc.cacheWriteTokens } := by
  rw [isConverse] at converse
  rw [accumulateBedrock, if_pos converse]

theorem answerUsage_bedrock {u response : Fields} (body : response.get? "usage" = some (.obj u)) :
    answerUsage .bedrock (.obj response) = bedrockUsage u := by
  simp only [answerUsage, extractUsage, extractUsageBedrock, Json.dict, bind, Except.bind,
    getD_of_get? body, dictOrEmpty_obj]
  rw [bedrockUsage]
  by_cases converse : isConverse u = true
  · rw [if_pos converse, accumulateBedrock_converse converse]
    rw [isConverse] at converse
    rw [if_pos converse, orElse_getD, orElse_getD]
    rfl
  · rw [if_neg converse]
    rw [isConverse] at converse
    rw [if_neg converse]
    rfl

/-- A frame without Converse names adds nothing, and a second one like the first adds nothing. -/
theorem FrameReport.streamed (report : FrameReport loads) :
    extractUsageFromStream loads .bedrock report.frames =
      if isConverse report.u = true ∧
          ∃ frame ∈ report.frames, contains "\"usage\"" frame = true then
        accumulateBedrock {} report.u
      else {} := by
  have again : accumulateBedrock (accumulateBedrock {} report.u) report.u =
      accumulateBedrock {} report.u := by
    by_cases converse : isConverse report.u = true
    · simp only [accumulateBedrock_converse converse]
      split_ifs <;> rfl
    · rw [isConverse] at converse
      have nothing : ∀ acc, accumulateBedrock acc report.u = acc := fun acc => if_neg converse
      rw [nothing, nothing]
  have fold : ∀ (frames : List Str) (acc : TokenUsage),
      (∀ frame ∈ frames, FrameText loads report.u frame) →
      acc = {} ∨ acc = accumulateBedrock {} report.u →
      frames.foldl (scanUsage loads) acc =
        if ∃ frame ∈ frames, contains "\"usage\"" frame = true then accumulateBedrock {} report.u
        else acc := by
    intro frames
    induction frames with
    | nil => exact fun acc _ _ => (if_neg fun ⟨_, member, _⟩ => nomatch member).symm
    | cons frame frames inductionHypothesis =>
      intro acc placed holds
      rw [List.forall_mem_cons] at placed
      rw [List.foldl_cons, placed.1.read]
      by_cases found : contains "\"usage\"" frame = true
      · have step : accumulateBedrock acc report.u = accumulateBedrock {} report.u := by
          rcases holds with rfl | rfl
          · rfl
          · exact again
        rw [if_pos found, step, inductionHypothesis _ placed.2 (.inr rfl), ite_self,
          if_pos ⟨frame, .head _, found⟩]
      · rw [if_neg found, inductionHypothesis acc placed.2 holds]
        simp only [List.exists_mem_cons_iff, found, Bool.false_eq_true, false_or]
  have whole : extractUsageFromStream loads .bedrock report.frames =
      report.frames.foldl (scanUsage loads) {} := rfl
  rw [whole, fold report.frames {} report.placed (.inl rfl)]
  by_cases converse : isConverse report.u = true
  · simp only [converse, true_and]
  · have nothing : accumulateBedrock {} report.u = {} := by
      rw [isConverse] at converse
      exact if_neg converse
    rw [nothing, ite_self, ite_self]

theorem bedrockUsage_eq_empty_iff (u : Fields) : bedrockUsage u = {} ↔ ZeroCounts u := by
  have zero : ∀ count : Json, count.orElse (.int 0) = .int 0 ↔ count.truthy = false := by
    intro count
    rw [Json.orElse]
    split
    · next truthy =>
      rw [truthy]
      refine ⟨fun same => ?_, nofun⟩
      rw [same] at truthy
      cases truthy
    · next falsy =>
      exact ⟨fun _ => Bool.eq_false_iff.mpr falsy, fun _ => rfl⟩
  rw [bedrockUsage, ZeroCounts]
  by_cases converse : isConverse u = true
  · rw [if_pos converse, if_pos converse, accumulateBedrock_converse converse, ← orElse_getD,
      ← orElse_getD, ← zero, ← zero]
    simp only [TokenUsage.mk.injEq, true_and, and_true]
  · rw [if_neg converse, if_neg converse, ← zero, ← zero]
    simp only [TokenUsage.mk.injEq, true_and, and_true]

theorem FrameReport.agrees_iff (report : FrameReport loads) :
    (UsageReport.frames report).Agrees ↔ report.Consistent := by
  have unfolded : (UsageReport.frames report).Agrees ↔
      bedrockUsage report.u = extractUsageFromStream loads .bedrock report.frames := by
    rw [← answerUsage_bedrock report.body]
    rfl
  rw [unfolded, report.streamed, FrameReport.Consistent]
  by_cases shown : isConverse report.u = true ∧
      ∃ frame ∈ report.frames, contains "\"usage\"" frame = true
  · rw [if_pos shown, bedrockUsage, if_pos shown.1]
    exact ⟨fun _ => .inl shown, fun _ => rfl⟩
  · rw [if_neg shown, bedrockUsage_eq_empty_iff]
    exact ⟨.inr, fun consistent => consistent.resolve_left shown⟩

/-! ## The agreement -/

theorem startsWith_drop_of_not_contains {marker s : Str} (absent : contains marker s = false) (i : Nat) :
    startsWith marker (s.drop i) = false := by
  rw [Bool.eq_false_iff]
  intro found
  obtain ⟨rest, same⟩ := startsWith_iff.mp found
  have inside : marker <:+: s := by
    refine List.IsInfix.trans ?_ (List.drop_suffix i s).isInfix
    rw [same]
    exact (List.prefix_append marker rest).isInfix
  rw [contains_iff.mpr inside] at absent
  cases absent

/-- A stream of InvokeModel: its frames hold the usage in base64. -/
def invokeModelReport : FrameReport fun _ => none where
  u := [("input_tokens", .int 9), ("output_tokens", .int 4)]
  documented := by
    have counts : ∀ name,
        IsCount (Fields.get? [("input_tokens", .int 9), ("output_tokens", .int 4)] name) := by
      intro name
      rw [Fields.get?, List.lookup_cons, List.lookup_cons]
      split
      · exact Int.natCast_nonneg 9
      · split
        · exact Int.natCast_nonneg 4
        · trivial
    exact ⟨fun name _ => counts name, fun name _ => counts name⟩
  response := [("usage", .obj [("input_tokens", .int 9), ("output_tokens", .int 4)])]
  body := rfl
  frames := ["\x7b\"bytes\":\"eyJ0eXBlIjoi\"\x7d"]
  placed := fun frame member => by
    rw [List.mem_singleton.mp member]
    exact .silent _ (startsWith_drop_of_not_contains (by decide))

end BurnLens.Proxy
