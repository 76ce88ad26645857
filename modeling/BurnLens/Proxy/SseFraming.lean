import BurnLens.Library.EventStream
import BurnLens.Proxy.Streaming

/-! # Usage and the framing of a stream

The usage that the events of a stream report, read as the standard reads them, against the usage
that the buffer of a stream gives, however the stream was cut into chunks.
-/

namespace BurnLens.Proxy

open Library Providers Cost

/-! ## What the events report -/

def isFilled : Except PyError Fields → Bool
  | .ok fields => !fields.isEmpty
  | .error _ => false

/-- Does the data of an event report usage, by the rule of its provider? -/
def reportsFields : Provider → Fields → Bool
  | .anthropic, data =>
    if Json.isText "message_start" (data.getD "type" .null) then isFilled (messageUsage data)
    else if Json.isText "message_delta" (data.getD "type" .null) then
      isFilled (dictOrEmpty (data.getD "usage" .null))
    else false
  | .google, data =>
    match dictOrEmpty (data.getD "usageMetadata" .null) with
    | .ok metadata => metadata.has "promptTokenCount" || metadata.has "candidatesTokenCount"
    | .error _ => false
  | .bedrock, _ => false
  | _, data => (data.getD "usage" .null).truthy

def reportsUsage (provider : Provider) (data : Json) : Bool :=
  match data.dict with
  | .ok fields => reportsFields provider fields
  | .error _ => false

/-- The last event gives all counts by itself: for the OpenAI wire format if the counts are numbers
    and the details objects.  A message of Anthropic reports its counts in parts. -/
inductive LastCounts : Provider → Json → Prop
  | google (data : Json) : LastCounts .google data
  | openai (provider : Provider) (data u details promptDetails : Fields) (output : Number) :
      provider ≠ .anthropic → provider ≠ .google → provider ≠ .bedrock →
      data.getD "usage" .null = .obj u →
      dictOrEmpty (u.getD "completion_tokens_details" .null) = .ok details →
      dictOrEmpty (u.getD "prompt_tokens_details" .null) = .ok promptDetails →
      visibleOutput u details = .ok output → LastCounts provider (.obj data)

section

variable (loads : Str → Option Json) (provider : Provider)

def eventJson (event : List Str) : Option Json :=
  let text := strip (eventData event)
  if text = [] ∨ text = "[DONE]" then none else loads text

def eventUsage (event : List Str) : Option Json :=
  (eventJson loads event).filter (reportsUsage provider)

def usageEvents (text : Str) : List Json := (streamEvents text).filterMap (eventUsage loads provider)

/-- The usage that the events of a stream report, by the rule of the provider. -/
def reportedUsage (text : Str) : TokenUsage :=
  (usageEvents loads provider text).foldl (accumulate provider) {}

/-- A stream of JSON data events. -/
structure JsonStream (text : Str) : Prop where
  ends : StreamEnds text
  decodes : ∀ event ∈ streamEvents text, strip (eventData event) = [] ∨
    strip (eventData event) = "[DONE]" ∨ eventJson loads event ≠ none

/-- Every split of the stream into chunks gives the usage that the unsplit stream gives, and that is
    the reported one. -/
def FramingIndependent (text : Str) : Prop :=
  ∀ chunks : List (List UInt8), chunks.flatten = utf8 text →
    streamUsage loads provider chunks = streamUsage loads provider [utf8 text] ∧
      streamUsage loads provider chunks = reportedUsage loads provider text

/-- Does a line, as `splitlines` cuts it, read as an event that reports usage? -/
def readsUsage (line : Str) : Bool := (lineJson loads provider line).any (reportsUsage provider)

/-- The data line of an event that has no other one, blank ones apart. -/
def soleDataLine (event : List Str) : Option Str :=
  match (dataLines event).filter fun line => !(strip (fieldValue line)).isEmpty with
  | [line] => some line
  | _ => none

/-- The usage of an event whose data stands on one line that `splitlines` leaves whole. -/
def shownUsage (event : List Str) : Option Json :=
  match soleDataLine event with
  | some line =>
    if line.all fun c => !isLineBreak c then eventUsage loads provider [line] else none
  | none => none

/-- The events in what has arrived of a stream.  A byte order mark is a part of its first line. -/
def arrivedEvents (arrived : Str) : List (List Str) := (streamLines arrived).splitOnP List.isEmpty

/-- What the events come to that are shown. -/
def shownTotal (arrived : Str) : TokenUsage :=
  ((arrivedEvents arrived).filterMap (shownUsage loads provider)).foldl (accumulate provider) {}

/-- Nothing reads as usage but whole data lines, in which a marker of the provider is spelled plainly. -/
def Plain (arrived : Str) : Prop :=
  ∀ event ∈ arrivedEvents arrived, ∀ line ∈ event, ∀ fragment ∈ textLines line,
    readsUsage loads provider fragment = true →
      soleDataLine event = some line ∧ (line.all fun c => !isLineBreak c) = true ∧
        shouldBufferChunk provider line = true

end

instance (loads : Str → Option Json) (provider : Provider) (arrived : Str) :
    Decidable (Plain loads provider arrived) :=
  inferInstanceAs (Decidable (∀ event ∈ arrivedEvents arrived, ∀ line ∈ event,
    ∀ fragment ∈ textLines line, readsUsage loads provider fragment = true →
      soleDataLine event = some line ∧ (line.all fun c => !isLineBreak c) = true ∧
        shouldBufferChunk provider line = true))

/-! ## The rules of the providers -/

theorem accumulateAnthropic_of_silent {fields : Fields}
    (silent : reportsFields .anthropic fields = false) (acc : TokenUsage) :
    accumulateAnthropic acc (.obj fields) = acc := by
  have empty : ∀ {read : Except PyError Fields}, isFilled read = false →
      (∃ error, read = .error error) ∨ read = .ok [] := by
    intro read silent
    cases read with
    | error error => exact .inl ⟨error, rfl⟩
    | ok u =>
      cases u with
      | nil => exact .inr rfl
      | cons field u => cases silent
  simp only [accumulateAnthropic, Json.dict]
  rw [reportsFields] at silent
  split at silent
  · next start =>
    rw [if_pos start]
    obtain ⟨error, its⟩ | its := empty silent
    · rw [its]
    · rw [its]; rfl
  · next notStart =>
    rw [if_neg notStart]
    split at silent
    · next delta =>
      rw [if_pos delta]
      obtain ⟨error, its⟩ | its := empty silent
      · rw [its]
      · rw [its]; rfl
    · next notDelta => rw [if_neg notDelta]

theorem accumulateGoogle_of_silent {fields : Fields}
    (silent : reportsFields .google fields = false) (acc : TokenUsage) :
    accumulateGoogle acc (.obj fields) = acc := by
  simp only [accumulateGoogle, Json.dict]
  rw [reportsFields] at silent
  cases read : dictOrEmpty (fields.getD "usageMetadata" .null) with
  | error error => rfl
  | ok metadata =>
    rw [read] at silent
    exact if_neg (Bool.eq_false_iff.mp silent)

theorem accumulateOpenai_of_silent {fields : Fields}
    (silent : (fields.getD "usage" .null).truthy = false) (acc : TokenUsage) :
    accumulateOpenai acc (.obj fields) = acc := by
  simp only [accumulateOpenai, Json.dict]
  rw [if_pos (by rw [silent]; rfl)]

theorem accumulate_of_silent {provider : Provider} {data : Json}
    (silent : reportsUsage provider data = false) (acc : TokenUsage) :
    accumulate provider acc data = acc := by
  cases data with
  | obj fields =>
    cases provider with
    | anthropic => exact accumulateAnthropic_of_silent silent acc
    | google => exact accumulateGoogle_of_silent silent acc
    | bedrock => rfl
    | _ => exact accumulateOpenai_of_silent silent acc
  | _ => cases provider <;> rfl

/-- What no event with usage of Google sets. -/
def TokenUsage.OnlyTokens (usage : TokenUsage) : Prop :=
  usage = { inputTokens := usage.inputTokens, outputTokens := usage.outputTokens }

/-- What no event with usage of the OpenAI wire format sets. -/
def TokenUsage.NoWrites (usage : TokenUsage) : Prop :=
  usage.cacheWriteTokens = .int 0 ∧ usage.units = []

theorem accumulateGoogle_onlyTokens {acc : TokenUsage} (only : TokenUsage.OnlyTokens acc)
    (data : Json) : TokenUsage.OnlyTokens (accumulateGoogle acc data) := by
  rw [accumulateGoogle]
  split
  · exact only
  · split
    · exact only
    · split
      · rw [TokenUsage.OnlyTokens] at only ⊢
        rw [only]
      · exact only

theorem accumulateOpenai_noWrites {acc : TokenUsage} (noWrites : TokenUsage.NoWrites acc)
    (data : Json) : TokenUsage.NoWrites (accumulateOpenai acc data) := by
  simp only [accumulateOpenai]
  repeat' split
  all_goals exact noWrites

theorem accumulateGoogle_overwrites {data : Json} (reports : reportsUsage .google data = true)
    {acc : TokenUsage} (only : TokenUsage.OnlyTokens acc) :
    accumulateGoogle acc data = accumulateGoogle {} data := by
  cases data with
  | obj fields =>
    have listed : reportsFields .google fields = true := reports
    rw [reportsFields] at listed
    simp only [accumulateGoogle, Json.dict]
    cases read : dictOrEmpty (Fields.getD fields "usageMetadata" .null) with
    | error error =>
      rw [read] at listed
      cases listed
    | ok metadata =>
      rw [read] at listed
      rw [TokenUsage.OnlyTokens] at only
      simp only [if_pos listed]
      rw [only]
  | _ => cases reports

theorem accumulate_openai {provider : Provider} (notAnthropic : provider ≠ .anthropic)
    (notGoogle : provider ≠ .google) (notBedrock : provider ≠ .bedrock) :
    accumulate provider = accumulateOpenai := by
  cases provider with
  | anthropic => exact absurd rfl notAnthropic
  | google => exact absurd rfl notGoogle
  | bedrock => exact absurd rfl notBedrock
  | _ => rfl

theorem reportsFields_openai {provider : Provider} (notAnthropic : provider ≠ .anthropic)
    (notGoogle : provider ≠ .google) (notBedrock : provider ≠ .bedrock) (data : Fields) :
    reportsFields provider data = (data.getD "usage" .null).truthy := by
  cases provider with
  | anthropic => exact absurd rfl notAnthropic
  | google => exact absurd rfl notGoogle
  | bedrock => exact absurd rfl notBedrock
  | _ => rfl

/-- Usage that is reported last is the usage of the stream, where it gives all counts. -/
theorem foldl_lastCounts {provider : Provider} {events : List Json} {data : Json}
    (last : events.getLast? = some data) (reports : reportsUsage provider data = true)
    (counts : LastCounts provider data) :
    events.foldl (accumulate provider) {} = accumulate provider {} data := by
  obtain ⟨earlier, rfl⟩ := List.getLast?_eq_some_iff.mp last
  rw [List.foldl_append, List.foldl_cons, List.foldl_nil]
  cases counts with
  | google =>
    have only : TokenUsage.OnlyTokens (earlier.foldl accumulateGoogle {}) :=
      List.foldlRecOn earlier accumulateGoogle rfl fun acc only data _ =>
        accumulateGoogle_onlyTokens only data
    exact accumulateGoogle_overwrites reports only
  | openai _ fields u details promptDetails output notAnthropic notGoogle notBedrock usage detailed
      prompted visible =>
    rw [accumulate_openai notAnthropic notGoogle notBedrock]
    have noWrites : TokenUsage.NoWrites (earlier.foldl accumulateOpenai {}) :=
      List.foldlRecOn earlier accumulateOpenai ⟨rfl, rfl⟩ fun acc noWrites data _ =>
        accumulateOpenai_noWrites noWrites data
    generalize earlier.foldl accumulateOpenai {} = acc at noWrites
    have truthy : (Json.obj u).truthy = true := by
      rw [← usage, ← reportsFields_openai notAnthropic notGoogle notBedrock]
      exact reports
    simp only [accumulateOpenai, Json.dict, usage, detailed, prompted, visible, truthy, Bool.not_true,
      Bool.false_eq_true, if_false]
    rw [noWrites.1, noWrites.2]

section

variable {loads : Str → Option Json} {provider : Provider}

theorem readLine_of_silent {line : Str} (silent : readsUsage loads provider line = false)
    (acc : TokenUsage) : readLine loads provider acc line = acc := by
  rw [readsUsage] at silent
  rw [readLine]
  cases read : lineJson loads provider line with
  | none => rfl
  | some data =>
    rw [read, Option.any_some] at silent
    exact accumulate_of_silent silent acc

theorem foldl_of_silent {lines : List Str}
    (silent : ∀ line ∈ lines, readsUsage loads provider line = false) (acc : TokenUsage) :
    lines.foldl (readLine loads provider) acc = acc := by
  induction lines generalizing acc with
  | nil => rfl
  | cons line lines inductionHypothesis =>
    rw [List.forall_mem_cons] at silent
    rw [List.foldl_cons, readLine_of_silent silent.1, inductionHypothesis silent.2]

/-- The code reads a data field that stands in one line as the standard does. -/
theorem lineJson_field {line : Str} (name : fieldName line = "data")
    (filled : strip (fieldValue line) ≠ []) :
    strip line ≠ [] ∧ lineJson loads provider (strip line) = eventJson loads [line] := by
  have single : dataLines [line] = [line] := List.filter_cons_of_pos (by simpa using name)
  obtain ⟨rest, split, same⟩ := field_split filled
  have decoded : eventJson loads [line] =
      if strip rest = [] ∨ strip rest = "[DONE]" then none else loads (strip rest) := by
    rw [eventJson, eventData, single, List.map_cons, List.map_nil, List.intercalate_singleton, same]
  rw [same] at filled
  rw [name] at split
  obtain ⟨lead, leading, stripped⟩ := strip_label (c := 'd') (by decide) "ata:".toList filled
  have whole : strip line = "data:" ++ (lead ++ strip rest) := by
    rw [split]
    exact stripped
  have dropped : ("data:" ++ (lead ++ strip rest)).drop 5 = lead ++ strip rest := rfl
  constructor
  · rw [whole]
    exact List.cons_ne_nil _ _
  · rw [decoded, lineJson, strip_strip, payload, whole, if_pos (startsWith_append _ _), dropped,
      strip_spaces_append leading, strip_strip]

theorem shouldBufferChunk_mono {line piece : Str} (inside : line <:+: piece)
    (marked : shouldBufferChunk provider line = true) : shouldBufferChunk provider piece = true := by
  rw [shouldBufferChunk, List.any_eq_true] at marked ⊢
  obtain ⟨marker, listed, found⟩ := marked
  exact ⟨marker, listed, contains_iff.mpr ((contains_iff.mp found).trans inside)⟩

theorem usageMarkers_plain {marker : Str} (listed : marker ∈ usageMarkers provider) :
    ∀ c ∈ marker, isSpace c = false := by
  have plain : (usageMarkers provider).all (fun marker => marker.all fun c => !isSpace c) = true := by
    cases provider <;> decide
  simpa using List.all_eq_true.mp plain marker listed

theorem shouldBufferChunk_strip (text : Str) :
    shouldBufferChunk provider (strip text) = shouldBufferChunk provider text := by
  rw [Bool.eq_iff_iff, shouldBufferChunk, shouldBufferChunk, List.any_eq_true, List.any_eq_true]
  constructor
  · rintro ⟨marker, listed, found⟩
    exact ⟨marker, listed, contains_iff.mpr ((contains_iff.mp found).trans (strip_isInfix text))⟩
  · rintro ⟨marker, listed, found⟩
    exact ⟨marker, listed,
      contains_iff.mpr (isInfix_strip (usageMarkers_plain listed) (contains_iff.mp found))⟩

/-! ## Events -/

theorem soleDataLine_split {event : List Str} {line : Str} (sole : soleDataLine event = some line) :
    ∃ front back, event = front ++ line :: back ∧ fieldName line = "data" ∧
      strip (fieldValue line) ≠ [] ∧
      ∀ other ∈ front ++ back, fieldName other = "data" → strip (fieldValue other) = [] := by
  rw [soleDataLine] at sole
  split at sole
  · next first single =>
    obtain rfl := Option.some.inj sole
    rw [dataLines, List.filter_filter] at single
    obtain ⟨front, back, split, before, holds, behind⟩ := List.filter_eq_cons_iff.mp single
    have blank : ∀ other : Str, ¬ (!(strip (fieldValue other)).isEmpty &&
        decide (fieldName other = "data")) = true →
        fieldName other = "data" → strip (fieldValue other) = [] := by
      intro other fails name
      by_contra filled
      rw [Bool.and_eq_true, Bool.not_eq_true', List.isEmpty_eq_false_iff, decide_eq_true_eq] at fails
      exact fails ⟨filled, name⟩
    rw [Bool.and_eq_true, Bool.not_eq_true', List.isEmpty_eq_false_iff, decide_eq_true_eq] at holds
    refine ⟨front, back, split, holds.2, holds.1, fun other member => blank other ?_⟩
    obtain early | late := List.mem_append.mp member
    · exact before other early
    · exact List.filter_eq_nil_iff.mp behind other late
  · cases sole

theorem foldl_event {event : List Str}
    (plain : ∀ line ∈ event, ∀ fragment ∈ textLines line, readsUsage loads provider fragment = true →
      soleDataLine event = some line ∧ ∀ c ∈ line, isLineBreak c = false) (acc : TokenUsage) :
    (event.flatMap textLines).foldl (readLine loads provider) acc =
      (shownUsage loads provider event).elim acc (accumulate provider acc) := by
  have silent : (∀ line, soleDataLine event = some line → ¬ ∀ c ∈ line, isLineBreak c = false) →
      (event.flatMap textLines).foldl (readLine loads provider) acc = acc := by
    intro broken
    refine foldl_of_silent (fun fragment member => ?_) acc
    obtain ⟨line, listed, inside⟩ := List.mem_flatMap.mp member
    rw [Bool.eq_false_iff]
    intro reads
    obtain ⟨sole, unbroken⟩ := plain line listed fragment inside reads
    exact broken line sole unbroken
  rw [shownUsage]
  cases sole : soleDataLine event with
  | none => exact silent fun line some => by rw [sole] at some; cases some
  | some line =>
    dsimp only
    split
    · next whole =>
      have unbroken := unbroken_of_all whole
      obtain ⟨front, back, split, name, filled, others⟩ := soleDataLine_split sole
      -- the other lines read nothing: a data line among them is blank
      have quiet : ∀ other ∈ front ++ back, ∀ fragment ∈ textLines other,
          readsUsage loads provider fragment = false := by
        intro other member fragment inside
        rw [Bool.eq_false_iff]
        intro reads
        have listed : other ∈ event := by
          rw [split]
          obtain early | late := List.mem_append.mp member
          · exact List.mem_append_left _ early
          · exact List.mem_append_right _ (.tail _ late)
        obtain ⟨again, -⟩ := plain other listed fragment inside reads
        rw [sole] at again
        cases again
        exact filled (others line member name)
      have skipped : ∀ lines : List Str, (∀ other ∈ lines, other ∈ front ++ back) → ∀ acc,
          (lines.flatMap textLines).foldl (readLine loads provider) acc = acc := by
        intro lines inside acc
        refine foldl_of_silent (fun fragment member => ?_) acc
        obtain ⟨other, listed, within⟩ := List.mem_flatMap.mp member
        exact quiet other (inside other listed) fragment within
      obtain ⟨visible, json⟩ := lineJson_field name filled
      have single : textLines line = [strip line] := by
        rw [textLines_unbroken unbroken, dropBlank, List.map_cons, List.map_nil,
          List.filter_cons_of_pos (by simpa using visible), List.filter_nil]
      rw [split, List.flatMap_append, List.flatMap_cons, single, List.foldl_append, List.foldl_append,
        skipped front fun other member => List.mem_append_left _ member,
        skipped back fun other member => List.mem_append_right _ member,
        List.foldl_cons, List.foldl_nil, readLine, json, eventUsage]
      cases eventJson loads [line] with
      | none => rfl
      | some data =>
        cases reports : reportsUsage provider data with
        | false =>
          simp only [Option.filter, reports, Bool.false_eq_true, if_false]
          exact accumulate_of_silent reports acc
        | true =>
          simp only [Option.filter, reports, if_true]
          rfl
    · next broken =>
      refine silent fun other some => ?_
      rw [sole] at some
      cases some
      intro unbroken
      exact broken (List.all_eq_true.mpr fun c member => by rw [unbroken c member]; rfl)

/-! ## The buffer -/

/-- A piece without a marker holds no usage, so the lines of all pieces are read. -/
theorem foldl_pieces (sse : provider ≠ .bedrock) {pieces : List Str}
    (marked : ∀ line ∈ pieces.flatMap textLines, readsUsage loads provider line = true →
      shouldBufferChunk provider line = true) (acc : TokenUsage) :
    (((pieces.map strip).filter fun event =>
        !event.isEmpty && shouldBufferChunk provider event).map (· ++ ['\n', '\n'])).foldl
          (extractUsageFromStreamChunk loads provider) acc =
      (pieces.flatMap textLines).foldl (readLine loads provider) acc := by
  have newline : isSpace '\n' = true := by decide
  induction pieces generalizing acc with
  | nil => rfl
  | cons piece pieces inductionHypothesis =>
    rw [List.flatMap_cons] at marked
    have later := inductionHypothesis fun line member => marked line (List.mem_append_right _ member)
    rw [List.flatMap_cons, List.foldl_append, List.map_cons, List.filter_cons]
    by_cases kept : (!(strip piece).isEmpty && shouldBufferChunk provider (strip piece)) = true
    · have lines : textLines (strip piece ++ ['\n', '\n']) = textLines piece := by
        rw [List.append_cons, textLines_concat newline, textLines_concat newline, textLines_strip]
      rw [if_pos kept, List.map_cons, List.foldl_cons, extractUsageFromStreamChunk_eq sse, lines, later]
    · have silent : ∀ line ∈ textLines piece, readsUsage loads provider line = false := by
        intro line member
        rw [Bool.eq_false_iff]
        intro reads
        have inside : line <:+: strip piece := by
          apply isInfix_of_mem_textLines
          rwa [textLines_strip]
        apply kept
        rw [Bool.and_eq_true]
        refine ⟨?_, shouldBufferChunk_mono inside
          (marked line (List.mem_append_left _ member) reads)⟩
        rw [Bool.not_eq_true', List.isEmpty_eq_false_iff]
        intro blank
        rw [← textLines_strip, blank] at member
        cases member
      rw [if_neg kept, later, foldl_of_silent silent]

/-- The usage of the kept events is the one that the lines of the whole buffer give. -/
theorem extractUsageFromStream_splitSseEvents (sse : provider ≠ .bedrock) {text : Str}
    (marked : ∀ line ∈ textLines text, readsUsage loads provider line = true →
      shouldBufferChunk provider line = true) :
    extractUsageFromStream loads provider (splitSseEvents provider text) =
      (textLines text).foldl (readLine loads provider) {} := by
  rw [textLines_splitBlank] at marked ⊢
  exact foldl_pieces sse marked {}

theorem reportsUsage_of_mem {text : Str} {data : Json}
    (member : data ∈ usageEvents loads provider text) : reportsUsage provider data = true := by
  obtain ⟨event, -, reported⟩ := List.mem_filterMap.mp member
  exact (Option.filter_eq_some_iff.mp reported).2

theorem textLines_arrived {text arrived : Str} (ends : StreamEnds text)
    (arrives : arrived ∈ arrivals text) :
    textLines arrived = (arrivedEvents arrived).flatMap fun event => event.flatMap textLines := by
  have blank : ∀ line ∈ streamLines arrived, line.isEmpty = true → textLines line = [] := by
    intro line _ empty
    rw [List.isEmpty_iff.mp empty, textLines_nil]
  rw [textLines_streamLines (terminated_of_mem_arrivals ends.terminated arrives), arrivedEvents,
    flatMap_splitOnP blank]

/-- What is read of the events that have arrived is what they show. -/
theorem extractUsage_arrived (sse : provider ≠ .bedrock) {text arrived : Str} (ends : StreamEnds text)
    (arrives : arrived ∈ arrivals text) (plain : Plain loads provider arrived) :
    extractUsageFromStream loads provider (splitSseEvents provider arrived) =
      shownTotal loads provider arrived := by
  have lines := textLines_arrived ends arrives
  have events : ∀ (events : List (List Str)) (acc : TokenUsage),
      (∀ event ∈ events, event ∈ arrivedEvents arrived) →
      (events.flatMap fun event => event.flatMap textLines).foldl (readLine loads provider) acc =
        (events.filterMap (shownUsage loads provider)).foldl (accumulate provider) acc := by
    intro events
    induction events with
    | nil => exact fun _ _ => rfl
    | cons event events inductionHypothesis =>
      intro acc inside
      rw [List.forall_mem_cons] at inside
      have first := foldl_event (fun line listed fragment member reads =>
        (plain event inside.1 line listed fragment member reads).imp_right
          fun its => unbroken_of_all its.1) acc
      rw [List.flatMap_cons, List.foldl_append, first, inductionHypothesis _ inside.2]
      cases shown : shownUsage loads provider event with
      | none => rw [List.filterMap_cons_none shown]; rfl
      | some data => rw [List.filterMap_cons_some shown]; rfl
  rw [extractUsageFromStream_splitSseEvents sse, lines, events _ _ fun _ => id, shownTotal]
  intro fragment member reads
  rw [lines] at member
  obtain ⟨event, listed, within⟩ := List.mem_flatMap.mp member
  obtain ⟨line, inside, part⟩ := List.mem_flatMap.mp within
  obtain ⟨-, unbroken, marked⟩ := plain event listed line inside fragment part reads
  rw [textLines_unbroken (unbroken_of_all unbroken), dropBlank, List.mem_filter, List.map_cons, List.map_nil,
    List.mem_singleton] at part
  rw [part.1, shouldBufferChunk_strip]
  exact marked

end

def answerJson (usage content : Str) : Str :=
  "\x7b\"t\":\"" ++ content ++ "\"," ++ usage ++ "\x7d"

def answerLoads (usage : Str) (report : Str × Json) (contents : List Str) (text : Str) : Option Json :=
  (contents.find? fun content => answerJson usage content = text).map fun content =>
    .obj [("t", .str content), report]

def chatLoads : Str → Option Json :=
  answerLoads "\"usage\":\x7b\"prompt_tokens\":5\x7d" ("usage", .obj [("prompt_tokens", .int 5)])
    ["é", []]

def chatLine (content : Str) : Str :=
  "data: " ++ answerJson "\"usage\":\x7b\"prompt_tokens\":5\x7d" content

def markedStream (mark content : Str) : Str :=
  mark ++ (": hello\n\n" ++ chatLine content ++ "\n\n")

def separatorJson : Str → Str := answerJson "\"usageMetadata\":\x7b\"promptTokenCount\":5\x7d"

def separatorLoads : Str → Option Json :=
  answerLoads "\"usageMetadata\":\x7b\"promptTokenCount\":5\x7d"
    ("usageMetadata", .obj [("promptTokenCount", .int 5)]) ["\u2028", []]

end BurnLens.Proxy
