import BurnLens.Providers.ToolCalls

/-! # Tool calls of an answer and of its stream

A stream tells of the calls of an answer line by line.  The two counts are the same where each call
is told on a line that the reader sees, and the calls of one choice are all there are: those of
several choices have the same indexes.
-/

namespace BurnLens.Providers

open Library

/-- The list under `key`: none where it is missing or null. -/
inductive HasList (key : Str) (fields : Fields) : List Json → Prop
  | list (items : List Json) : fields.get? key = some (.arr items) → HasList key fields items
  | missing : fields.get? key = none → HasList key fields []
  | null : fields.get? key = some .null → HasList key fields []

/-- The object under `key`, which may be missing. -/
inductive HasObject (key : Str) (fields : Fields) : Fields → Prop
  | object (o : Fields) : fields.get? key = some (.obj o) → HasObject key fields o
  | missing : fields.get? key = none → HasObject key fields []

/-! ## Lines -/

inductive LineEnd where
  | lf
  | crlf
  | cr

def LineEnd.text : LineEnd → Str
  | lf => ['\n']
  | crlf => ['\r', '\n']
  | cr => ['\r']

/-- A line with the data of an event. -/
structure EventLine (loads : Str → Option Json) (Content : Fields → Type) where
  spaced : Bool
  text : Str
  data : Fields
  decoded : loads text = some (.obj data)
  trimmed : strip text = text
  filled : text ≠ []
  content : Content data

/-- The other lines name an event, are a comment, or blank, or tell that the stream is done. -/
inductive StreamLine (loads : Str → Option Json) (Content : Fields → Type) where
  | event (line : EventLine loads Content)
  | other (line : Str) (unmarked : marked line = false)

section

variable {loads : Str → Option Json} {Content : Fields → Type}

def EventLine.line (e : EventLine loads Content) : Str :=
  "data:" ++ ((if e.spaced then [' '] else []) ++ e.text)

def StreamLine.line : StreamLine loads Content → Str
  | event e => e.line
  | other line _ => line

def rawBuffer (lines : List (StreamLine loads Content × LineEnd)) : Str :=
  lines.flatMap fun line => line.1.line ++ line.2.text

def events (lines : List (StreamLine loads Content × LineEnd)) : List (EventLine loads Content) :=
  lines.filterMap fun line =>
    match line.1 with
    | .event e => some e
    | .other _ _ => none

/-- The reader finds the event: a tool call is spelled in its text, which no separator breaks. -/
def EventLine.seen (e : EventLine loads Content) : Bool :=
  marked e.text && e.text.all fun c => !isLineBreak c

end

/-- What a separator cuts off of an event begins in a string, and has strings and the rest
    exchanged: if it can be decoded at all, none of the keys is there. -/
def PiecesSilent (loads : Str → Option Json) : Prop :=
  ∀ (text : Str) (data : Fields), loads text = some (.obj data) → (∃ c ∈ text, isLineBreak c = true) →
    ∀ spaced : Bool, ∀ line ∈ textLines ("data:" ++ ((if spaced then [' '] else []) ++ text)),
      ∀ piece ∈ toolPayload line, ∀ fields, loads piece = some (.obj fields) →
        Fields.get? fields "choices" = none ∧ Fields.get? fields "type" = none ∧
          Fields.get? fields "candidates" = none

/-! ## OpenAI -/

structure DeltaEntry where
  fields : Fields
  index : Nat
  indexed : fields.get? "index" = some (.int index)

/-- A choice of a chunk, with the calls of which its delta has a fragment. -/
structure ChunkChoice where
  fields : Fields
  index : Nat
  indexed : fields.get? "index" = some (.int index)
  delta : Fields
  inDelta : HasObject "delta" fields delta ∨ fields.get? "delta" = some .null ∧ delta = []
  entries : List DeltaEntry
  listed : HasList "tool_calls" delta (entries.map fun entry => .obj entry.fields)

structure ChatChunk (data : Fields) where
  choices : List ChunkChoice
  listed : HasList "choices" data (choices.map fun choice => .obj choice.fields)
  noBlock : (fieldOf data "type").isText "content_block_start" = false
  noCandidate : HasList "candidates" data []

/-- The calls of a chunk, each as the index of its choice and its own. -/
def ChatChunk.calls {data : Fields} (chunk : ChatChunk data) : List (Nat × Nat) :=
  chunk.choices.flatMap fun choice => choice.entries.map fun entry => (choice.index, entry.index)

structure AnswerChoice where
  fields : Fields
  index : Nat
  indexed : fields.get? "index" = some (.int index)
  message : Fields
  inMessage : HasObject "message" fields message
  calls : List Json
  listed : HasList "tool_calls" message calls

def AnswerChoice.callIndexes (choice : AnswerChoice) : List (Nat × Nat) :=
  (List.range choice.calls.length).map fun i => (choice.index, i)

structure ChatAnswer (loads : Str → Option Json) where
  response : Fields
  choices : List AnswerChoice
  listed : HasList "choices" response (choices.map fun choice => .obj choice.fields)
  distinct : (choices.map AnswerChoice.index).Nodup
  noBlock : HasList "content" response []
  noCandidate : HasList "candidates" response []
  lines : List (StreamLine loads ChatChunk × LineEnd)
  -- the fragments are of the calls, and each call has one
  announced : ∀ call, call ∈ (events lines).flatMap (fun e => e.content.calls) ↔
    call ∈ choices.flatMap AnswerChoice.callIndexes

/-- An event of a message: the start of a block, or another. -/
inductive MessageEvent (data : Fields) where
  | start (block : Fields) (typed : data.get? "type" = some (.str "content_block_start"))
      (its : data.get? "content_block" = some (.obj block)) (noChoice : HasList "choices" data [])
      (noCandidate : HasList "candidates" data [])
  | other (typed : (fieldOf data "type").isText "content_block_start" = false)
      (noChoice : HasList "choices" data []) (noCandidate : HasList "candidates" data [])

def MessageEvent.started {data : Fields} : MessageEvent data → Option Fields
  | start block _ _ _ _ => some block
  | other _ _ _ => none

def MessageEvent.callsTool {data : Fields} (event : MessageEvent data) : Bool :=
  (event.started.map fun block => isToolUse (.obj block)).getD false

structure MessageAnswer (loads : Str → Option Json) where
  response : Fields
  blocks : List Fields
  listed : HasList "content" response (blocks.map .obj)
  noChoice : HasList "choices" response []
  noCandidate : HasList "candidates" response []
  lines : List (StreamLine loads MessageEvent × LineEnd)
  -- one start for each block, of its type
  started : (((events lines).filterMap fun e => e.content.started).map
    fun block => fieldOf block "type").Perm (blocks.map fun block => fieldOf block "type")

structure ChunkCandidate where
  fields : Fields
  content : Fields
  inContent : HasObject "content" fields content ∨ fields.get? "content" = some .null ∧ content = []
  parts : List Json
  listed : HasList "parts" content parts

structure GenerateChunk (data : Fields) where
  candidates : List ChunkCandidate
  listed : HasList "candidates" data (candidates.map fun candidate => .obj candidate.fields)
  noBlock : (fieldOf data "type").isText "content_block_start" = false
  noChoice : HasList "choices" data []

def GenerateChunk.calls {data : Fields} (chunk : GenerateChunk data) : List Json :=
  (chunk.candidates.flatMap ChunkCandidate.parts).filter isFunctionCall

structure AnswerCandidate where
  fields : Fields
  content : Fields
  inContent : HasObject "content" fields content
  parts : List Json
  listed : HasList "parts" content parts

structure GenerateAnswer (loads : Str → Option Json) where
  response : Fields
  candidates : List AnswerCandidate
  listed : HasList "candidates" response (candidates.map fun candidate => .obj candidate.fields)
  noChoice : HasList "choices" response []
  noBlock : HasList "content" response []
  lines : List (StreamLine loads GenerateChunk × LineEnd)
  -- the calls are distributed over the events
  distributed : ((events lines).flatMap fun e => e.content.calls).Perm
    ((candidates.flatMap AnswerCandidate.parts).filter isFunctionCall)

variable {loads : Str → Option Json} {Content : Fields → Type}

/-- Each call is announced where the reader sees it, and one choice has them all. -/
structure ChatAnswer.Consistent (answer : ChatAnswer loads) : Prop where
  seen : ∀ call ∈ answer.choices.flatMap AnswerChoice.callIndexes,
    ∃ e ∈ events answer.lines, e.seen = true ∧ call ∈ e.content.calls
  single : ∀ a ∈ answer.choices, ∀ b ∈ answer.choices, a.calls ≠ [] → b.calls ≠ [] →
    a.index = b.index

def MessageAnswer.Consistent (answer : MessageAnswer loads) : Prop :=
  ∀ e ∈ events answer.lines, e.content.callsTool = true → e.seen = true

def GenerateAnswer.Consistent (answer : GenerateAnswer loads) : Prop :=
  ∀ e ∈ events answer.lines, e.content.calls ≠ [] → e.seen = true

/-- A complete answer, and a stream of it. -/
inductive StreamedAnswer (loads : Str → Option Json) where
  | chat (answer : ChatAnswer loads)
  | message (answer : MessageAnswer loads)
  | generate (answer : GenerateAnswer loads)

namespace StreamedAnswer

def response : StreamedAnswer loads → Json
  | chat answer => .obj answer.response
  | message answer => .obj answer.response
  | generate answer => .obj answer.response

def buffer : StreamedAnswer loads → Str
  | chat answer => rawBuffer answer.lines
  | message answer => rawBuffer answer.lines
  | generate answer => rawBuffer answer.lines

def Agrees (answer : StreamedAnswer loads) : Prop :=
  countToolCallsInStream loads answer.buffer = countToolCalls answer.response

def Consistent : StreamedAnswer loads → Prop
  | chat answer => answer.Consistent
  | message answer => answer.Consistent
  | generate answer => answer.Consistent

end StreamedAnswer

/-! ## Reading fields -/

section

variable {key : Str} {fields o : Fields} {items : List Json}

theorem HasList.iterate (has : HasList key fields items) :
    iterate ((fieldOf fields key).orElse (.arr [])) = .ok items := by
  cases has with
  | list _ found =>
    rw [fieldOf, Fields.getD, found]
    cases items <;> rfl
  | missing found => rw [fieldOf, Fields.getD, found]; rfl
  | null found => rw [fieldOf, Fields.getD, found]; rfl

theorem HasList.ticksOver (has : HasList key fields items)
    (ticks : Json → List (Except PyError Tick)) :
    ticksOver (fieldOf fields key) ticks = items.flatMap ticks := by
  rw [Providers.ticksOver, has.iterate]

theorem HasList.sumOver (has : HasList key fields items) {count : Json → Except PyError Nat}
    {n : Json → Nat} (each : ∀ item ∈ items, count item = .ok (n item)) :
    sumOver (fieldOf fields key) count = .ok (items.map n).sum := by
  rw [Providers.sumOver, has.iterate]
  simp only [bind, Except.bind, mapM_ok each, pure, Except.pure]

theorem HasList.length (has : HasList key fields items) :
    (match fieldOf fields key with
      | .arr calls => (pure calls.length : Except PyError Nat)
      | _ => pure 0) = .ok items.length := by
  cases has with
  | list _ found => rw [fieldOf, Fields.getD, found]; rfl
  | missing found => rw [fieldOf, Fields.getD, found]; rfl
  | null found => rw [fieldOf, Fields.getD, found]; rfl

theorem objectOrEmpty_obj (fields : Fields) : objectOrEmpty (.obj fields) = .ok fields := by
  cases fields <;> rfl

theorem HasObject.dict (has : HasObject key fields o) :
    (Fields.getD fields key (.obj [])).dict = .ok o := by
  cases has with
  | object _ found => rw [Fields.getD, found]; rfl
  | missing found => rw [Fields.getD, found]; rfl

theorem objectOrEmpty_field
    (has : HasObject key fields o ∨ fields.get? key = some .null ∧ o = []) :
    objectOrEmpty (fieldOf fields key) = .ok o := by
  obtain has | ⟨found, rfl⟩ := has
  · cases has with
    | object _ found =>
      rw [fieldOf, Fields.getD, found]
      exact objectOrEmpty_obj o
    | missing found => rw [fieldOf, Fields.getD, found]; rfl
  · rw [fieldOf, Fields.getD, found]
    rfl

end

/-! ## Reading lines -/

theorem lineTicks_strip (line : Str) : lineTicks loads (strip line) = lineTicks loads line := by
  rw [lineTicks, strip_strip]
  rfl

theorem lineTicks_blank {line : Str} (blank : strip line = []) : lineTicks loads line = [] := by
  rw [lineTicks, blank]
  rfl

theorem flatMap_dropBlank (lines : List Str) :
    (dropBlank lines).flatMap (lineTicks loads) = lines.flatMap (lineTicks loads) := by
  induction lines with
  | nil => rfl
  | cons line lines inductionHypothesis =>
    rw [List.flatMap_cons, ← inductionHypothesis]
    by_cases blank : strip line = []
    · simp [dropBlank, blank, lineTicks_blank blank]
    · simp [dropBlank, blank, lineTicks_strip]

theorem marked_of_infix {part text : Str} (inside : part <:+: text) (its : marked part = true) :
    marked text = true := by
  obtain ⟨marker, listed, found⟩ := List.any_eq_true.mp its
  exact List.any_eq_true.mpr ⟨marker, listed, contains_iff.mpr ((contains_iff.mp found).trans inside)⟩

theorem toolPayload_within {line text : Str} (payload : toolPayload line = some text) :
    text <:+: line := by
  rw [toolPayload] at payload
  split at payload
  · cases payload
    exact (strip_isInfix _).trans (List.drop_suffix _ _).isInfix
  · split at payload
    · cases payload
      exact List.infix_refl _
    · cases payload

theorem lineTicks_unmarked {line : Str} (unmarked : marked line = false) :
    lineTicks loads line = [] := by
  rw [lineTicks]
  cases payload : toolPayload (strip line) with
  | none => rfl
  | some text =>
    have quiet : marked text = false := by
      rw [Bool.eq_false_iff]
      intro its
      have longer := marked_of_infix ((toolPayload_within payload).trans (strip_isInfix line)) its
      rw [unmarked] at longer
      cases longer
    simp [quiet]

theorem textLines_unmarked {text : Str} (unmarked : marked text = false) :
    (textLines text).flatMap (lineTicks loads) = [] := by
  apply List.flatMap_eq_nil_iff.mpr
  intro line member
  apply lineTicks_unmarked
  rw [Bool.eq_false_iff]
  intro its
  have longer := marked_of_infix (isInfix_of_mem_textLines member) its
  rw [unmarked] at longer
  cases longer

theorem countToolCallsInStream_eq (text : Str) :
    countToolCallsInStream loads text = tally ((textLines text).flatMap (lineTicks loads)) := by
  rw [countToolCallsInStream]
  cases its : marked text with
  | false =>
    rw [textLines_unmarked its]
    rfl
  | true => rw [textLines, flatMap_dropBlank]; rfl

theorem textLines_end (line : Str) (stop : LineEnd) (rest : Str) :
    textLines (line ++ stop.text ++ rest) = textLines line ++ textLines rest := by
  have feed : isLineBreak '\n' = true := by decide
  have back : isLineBreak '\r' = true := by decide
  rw [List.append_assoc]
  cases stop with
  | lf => exact textLines_append feed line rest
  | cr => exact textLines_append back line rest
  | crlf =>
    have cut : textLines (line ++ '\r' :: '\n' :: rest) = _ := textLines_append back line _
    rw [textLines_cons (isSpace_of_isLineBreak feed)] at cut
    exact cut

def EventLine.ticks (e : EventLine loads Content) : List Tick :=
  if e.seen then untilError (eventTicks e.data) else []

theorem strip_of_mem_textLines {line text : Str} (member : line ∈ textLines text) :
    strip line = line := by
  obtain ⟨part, _, rfl⟩ := List.mem_map.mp (List.mem_filter.mp member).1
  exact strip_strip part

theorem eventTicks_nothing {data : Fields} (choices : data.get? "choices" = none)
    (type : data.get? "type" = none) (candidates : data.get? "candidates" = none) :
    eventTicks data = [] := by
  have untyped : (fieldOf data "type").isText "content_block_start" = false := by
    rw [fieldOf, Fields.getD, type]
    rfl
  rw [eventTicks, (HasList.missing choices).ticksOver, (HasList.missing candidates).ticksOver,
    blockTicks, untyped]
  rfl

theorem EventLine.textLines_broken (silent : PiecesSilent loads) (e : EventLine loads Content)
    (broken : ∃ c ∈ e.text, isLineBreak c = true) :
    (textLines e.line).flatMap (lineTicks loads) = [] := by
  apply List.flatMap_eq_nil_iff.mpr
  intro line member
  have nothing := silent e.text e.data e.decoded broken e.spaced line member
  rw [lineTicks, strip_of_mem_textLines member]
  cases payload : toolPayload line with
  | none => rfl
  | some piece =>
    simp only
    split
    · rfl
    · split
      · next fields decoded =>
        obtain ⟨choices, type, candidates⟩ := nothing piece payload fields decoded
        rw [eventTicks_nothing choices type candidates]
        rfl
      · rfl

theorem EventLine.textLines_unbroken (e : EventLine loads Content)
    (unbroken : ∀ c ∈ e.text, isLineBreak c = false) : textLines e.line = [e.line] := by
  have whole : ∀ c ∈ e.line, isLineBreak c = false := by
    have label : ∀ c ∈ "data:".toList ++ (if e.spaced then [' '] else []), isLineBreak c = false := by
      cases e.spaced <;> exact unbroken_of_all (by decide)
    have line : e.line = "data:".toList ++ (if e.spaced then [' '] else []) ++ e.text :=
      (List.append_assoc ..).symm
    intro c member
    obtain front | back := List.mem_append.mp (line ▸ member)
    · exact label c front
    · exact unbroken c back
  have visible : strip e.line = e.line := by
    have label : strip ('d' :: ("ata:".toList ++ (if e.spaced then [' '] else [])) ++ e.text) = _ :=
      strip_append (by decide) _ e.trimmed e.filled
    have same : e.line = 'd' :: ("ata:".toList ++ (if e.spaced then [' '] else [])) ++ e.text :=
      congrArg ('d' :: ·) (List.append_assoc ..).symm
    rw [same, label]
  rw [Library.textLines_unbroken whole, dropBlank, List.map_singleton, visible]
  rfl

theorem EventLine.payload (e : EventLine loads Content) : toolPayload e.line = some e.text := by
  have starts : startsWith "data:" e.line = true := startsWith_append "data:" _
  have stripped : strip (e.line.drop 5) = e.text := by
    have rest : e.line.drop 5 = (if e.spaced then [' '] else []) ++ e.text := rfl
    rw [rest]
    cases e.spaced with
    | false => exact e.trimmed
    | true => exact (strip_cons (by decide) e.text).trans e.trimmed
  rw [toolPayload, if_pos starts, stripped]

/-- What the lines of an event add. -/
theorem EventLine.flatMap_textLines (silent : PiecesSilent loads) (e : EventLine loads Content) :
    (textLines e.line).flatMap (lineTicks loads) = e.ticks := by
  by_cases unbroken : ∀ c ∈ e.text, isLineBreak c = false
  · have lines := e.textLines_unbroken unbroken
    have visible : strip e.line = e.line := strip_of_mem_textLines (by rw [lines]; exact .head _)
    have clear : (e.text.all fun c => !isLineBreak c) = true := by simpa using unbroken
    rw [lines, List.flatMap_singleton, lineTicks, visible, e.payload, EventLine.ticks,
      EventLine.seen, clear, Bool.and_true]
    simp only [e.decoded]
    cases marked e.text <;> rfl
  · have broken : ∃ c ∈ e.text, isLineBreak c = true := by simpa using unbroken
    have unseen : e.seen = false := by
      rw [EventLine.seen, Bool.and_eq_false_iff]
      simpa using Or.inr broken
    rw [e.textLines_broken silent broken, EventLine.ticks, unseen]
    rfl

/-- What a stream adds up to. -/
theorem countToolCallsInStream_rawBuffer (silent : PiecesSilent loads)
    (lines : List (StreamLine loads Content × LineEnd)) :
    countToolCallsInStream loads (rawBuffer lines) =
      tally ((events lines).flatMap EventLine.ticks) := by
  rw [countToolCallsInStream_eq]
  congr 1
  induction lines with
  | nil => rfl
  | cons line lines inductionHypothesis =>
    obtain ⟨line, stop⟩ := line
    have cut := textLines_end line.line stop (rawBuffer lines)
    rw [rawBuffer, List.flatMap_cons, ← rawBuffer, cut, List.flatMap_append, inductionHypothesis]
    cases line with
    | event e => exact congrArg (· ++ _) (e.flatMap_textLines silent)
    | other line unmarked => exact congrArg (· ++ _) (textLines_unmarked unmarked)

/-! ## The OpenAI counts -/

theorem untilError_ok (ticks : List Tick) : untilError (ticks.map .ok) = ticks := by
  induction ticks with
  | nil => rfl
  | cons tick ticks inductionHypothesis => rw [List.map_cons, untilError, inductionHypothesis]

theorem ChunkChoice.ticks (choice : ChunkChoice) :
    choiceTicks (.obj choice.fields) =
      choice.entries.map fun entry => .ok (.call (.inr (.fin entry.index))) := by
  have entry : ∀ entry : DeltaEntry, entryTicks (.obj entry.fields) =
      [.ok (.call (.inr (.fin entry.index)))] := by
    intro entry
    rw [entryTicks, Fields.getD, entry.indexed]
    rfl
  rw [choiceTicks, objectOrEmpty_obj]
  simp only [objectOrEmpty_field choice.inDelta, choice.listed.ticksOver, List.flatMap_map, entry]
  exact List.map_eq_flatMap.symm

theorem ChatChunk.ticks {data : Fields} (chunk : ChatChunk data) :
    untilError (eventTicks data) = chunk.calls.map fun call => .call (.inr (.fin call.2)) := by
  have ok : eventTicks data =
      (chunk.calls.map fun call => Tick.call (.inr (.fin call.2))).map Except.ok := by
    rw [eventTicks, chunk.listed.ticksOver, chunk.noCandidate.ticksOver, blockTicks, chunk.noBlock]
    simp only [ChatChunk.calls, List.flatMap_map, ChunkChoice.ticks, List.map_flatMap, List.map_map,
      Bool.false_and, Bool.false_eq_true, if_false, List.flatMap_nil, List.append_nil]
    rfl
  rw [ok, untilError_ok]

theorem AnswerChoice.messageCalls_eq (choice : AnswerChoice) :
    messageCalls (.obj choice.fields) = .ok choice.calls.length := by
  rw [messageCalls, objectOrEmpty_obj]
  simp only [bind, Except.bind, choice.inMessage.dict]
  exact choice.listed.length

theorem ChatAnswer.countToolCalls_eq (answer : ChatAnswer loads) :
    countToolCalls (.obj answer.response) =
      (answer.choices.flatMap AnswerChoice.callIndexes).length := by
  have each : ∀ choice ∈ answer.choices.map fun choice => Json.obj choice.fields,
      messageCalls choice = .ok ((messageCalls choice).toOption.getD 0) := by
    intro choice member
    obtain ⟨choice, _, rfl⟩ := List.mem_map.mp member
    rw [choice.messageCalls_eq]
    rfl
  have none : ∀ {count : Json → Except PyError Nat}, ∀ item ∈ ([] : List Json),
      count item = .ok 0 := fun _ member => absurd member List.not_mem_nil
  simp only [countToolCalls, answer.listed.sumOver each, answer.noBlock.sumOver none,
    answer.noCandidate.sumOver none, bind, Except.bind, pure, Except.pure]
  simp [List.length_flatMap, AnswerChoice.callIndexes, AnswerChoice.messageCalls_eq, Except.toOption,
    Function.comp_def]

/-- How many values the calls that were seen have, against how many calls there are. -/
theorem card_image_eq_iff {α β : Type} [DecidableEq β] {seen all : List α} (f : α → β)
    (distinct : all.Nodup) (inside : seen ⊆ all) :
    (seen.map f).toFinset.card = all.length ↔
      all ⊆ seen ∧ ∀ a ∈ all, ∀ b ∈ all, f a = f b → a = b := by
  classical
  have image : (seen.map f).toFinset = seen.toFinset.image f := by
    ext b
    simp
  have whole : all.toFinset.card = all.length := List.toFinset_card_of_nodup distinct
  have subset : seen.toFinset ⊆ all.toFinset := by
    intro a member
    simpa using inside (by simpa using member)
  rw [image, ← whole]
  constructor
  · intro same
    have fewer : (seen.toFinset.image f).card ≤ seen.toFinset.card := Finset.card_image_le
    have most := Finset.card_le_card subset
    have equal : seen.toFinset = all.toFinset :=
      Finset.eq_of_subset_of_card_le subset (by omega)
    have injective : Set.InjOn f seen.toFinset := Finset.card_image_iff.mp (by omega)
    refine ⟨fun a member => ?_, fun a memberA b memberB values => ?_⟩
    · have its : a ∈ all.toFinset := by simpa using member
      rw [← equal] at its
      simpa using its
    · rw [equal] at injective
      exact injective (by simpa using memberA) (by simpa using memberB) values
  · intro ⟨covers, injective⟩
    have equal : seen.toFinset = all.toFinset :=
      subset.antisymm fun a member => by simpa using covers (by simpa using member)
    rw [equal]
    apply Finset.card_image_iff.mpr
    intro a memberA b memberB values
    exact injective a (by simpa using memberA) b (by simpa using memberB) values

theorem mem_callIndexes {choice : AnswerChoice} {call : Nat × Nat} :
    call ∈ choice.callIndexes ↔ call.1 = choice.index ∧ call.2 < choice.calls.length := by
  obtain ⟨c, i⟩ := call
  simp only [AnswerChoice.callIndexes, List.mem_map, List.mem_range, Prod.mk.injEq]
  constructor
  · rintro ⟨i, small, rfl, rfl⟩
    exact ⟨rfl, small⟩
  · rintro ⟨rfl, small⟩
    exact ⟨i, small, rfl, rfl⟩

theorem nodup_callIndexes {choices : List AnswerChoice}
    (distinct : (choices.map AnswerChoice.index).Nodup) :
    (choices.flatMap AnswerChoice.callIndexes).Nodup := by
  rw [List.nodup_flatMap]
  constructor
  · intro choice _
    exact List.nodup_range.map fun i j same => (Prod.mk.inj same).2
  · refine (List.pairwise_map.mp distinct).imp ?_
    intro a b apart call inA inB
    exact apart ((mem_callIndexes.mp inA).1.symm.trans (mem_callIndexes.mp inB).1)

/-- The indexes tell the calls apart exactly where one choice has them all. -/
theorem index_injective_iff {choices : List AnswerChoice} :
    (∀ a ∈ choices.flatMap AnswerChoice.callIndexes,
        ∀ b ∈ choices.flatMap AnswerChoice.callIndexes, a.2 = b.2 → a = b) ↔
      ∀ a ∈ choices, ∀ b ∈ choices, a.calls ≠ [] → b.calls ≠ [] → a.index = b.index := by
  simp only [List.mem_flatMap, mem_callIndexes]
  constructor
  · intro injective a inA b inB callsA callsB
    have first := injective (a.index, 0) ⟨a, inA, rfl, List.length_pos_iff.mpr callsA⟩ (b.index, 0)
      ⟨b, inB, rfl, List.length_pos_iff.mpr callsB⟩ rfl
    exact (Prod.mk.inj first).1
  · rintro single ⟨_, i⟩ ⟨a, inA, rfl, smallA⟩ ⟨_, j⟩ ⟨b, inB, rfl, smallB⟩ same
    cases same
    rw [single a inA b inB (List.length_pos_iff.mp (Nat.zero_lt_of_lt smallA))
      (List.length_pos_iff.mp (Nat.zero_lt_of_lt smallB))]

def ChatAnswer.seenCalls (answer : ChatAnswer loads) : List (Nat × Nat) :=
  ((events answer.lines).filter EventLine.seen).flatMap fun e => e.content.calls

theorem tally_calls (calls : List (Nat × Nat)) :
    tally (calls.map fun call => .call (.inr (.fin call.2))) = (calls.map Prod.snd).toFinset.card := by
  have key : Function.Injective fun i : Nat => (Sum.inr (Flt.fin i) : SetKey) := by
    intro i j same
    simpa using same
  have keys : (calls.map fun call : Nat × Nat => Tick.call (.inr (.fin call.2))).filterMap Tick.key =
      (calls.map Prod.snd).map fun i : Nat => (Sum.inr (Flt.fin i) : SetKey) := by
    simp [List.filterMap_map, Tick.key, Function.comp_def]
  have image : ((calls.map Prod.snd).map fun i : Nat => (Sum.inr (Flt.fin i) : SetKey)).toFinset =
      (calls.map Prod.snd).toFinset.image fun i : Nat => (Sum.inr (Flt.fin i) : SetKey) := by
    ext k
    simp only [List.mem_toFinset, List.mem_map, Finset.mem_image]
  rw [tally, keys, image, Finset.card_image_of_injective _ key]
  simp [Tick.key]

theorem ChatAnswer.agrees_iff (silent : PiecesSilent loads) (answer : ChatAnswer loads) :
    countToolCallsInStream loads (rawBuffer answer.lines) = countToolCalls (.obj answer.response) ↔
      answer.Consistent := by
  have ticks : (events answer.lines).flatMap EventLine.ticks =
      answer.seenCalls.map fun call => .call (.inr (.fin call.2)) := by
    rw [ChatAnswer.seenCalls]
    induction events answer.lines with
    | nil => rfl
    | cons e es inductionHypothesis =>
      rw [List.flatMap_cons, inductionHypothesis, EventLine.ticks, List.filter_cons]
      cases e.seen with
      | false => rfl
      | true =>
        rw [if_pos rfl, if_pos rfl, e.content.ticks, List.flatMap_cons, List.map_append]
  have inside : answer.seenCalls ⊆ answer.choices.flatMap AnswerChoice.callIndexes := by
    intro call member
    obtain ⟨e, seen, its⟩ := List.mem_flatMap.mp member
    exact (answer.announced call).mp (List.mem_flatMap.mpr ⟨e, (List.mem_filter.mp seen).1, its⟩)
  rw [countToolCallsInStream_rawBuffer silent, ticks, tally_calls, answer.countToolCalls_eq,
    card_image_eq_iff Prod.snd (nodup_callIndexes answer.distinct) inside, index_injective_iff]
  constructor
  · intro ⟨covers, single⟩
    refine ⟨fun call member => ?_, single⟩
    obtain ⟨e, seen, its⟩ := List.mem_flatMap.mp (covers member)
    exact ⟨e, (List.mem_filter.mp seen).1, (List.mem_filter.mp seen).2, its⟩
  · intro consistent
    refine ⟨fun call member => ?_, consistent.single⟩
    obtain ⟨e, inEvents, seen, its⟩ := consistent.seen call member
    exact List.mem_flatMap.mpr ⟨e, List.mem_filter.mpr ⟨inEvents, seen⟩, its⟩

/-! ## The other counts -/

theorem tally_ones (n : Nat) : tally (List.replicate n .one) = n := by
  rw [tally, List.filterMap_replicate, List.countP_replicate]
  simp [Tick.key]

theorem tally_events {ones : EventLine loads Content → Nat}
    (each : ∀ e : EventLine loads Content,
      untilError (eventTicks e.data) = List.replicate (ones e) .one)
    (es : List (EventLine loads Content)) :
    tally (es.flatMap EventLine.ticks) =
      (es.map fun e => if e.seen then ones e else 0).sum := by
  have ticks : es.flatMap EventLine.ticks =
      List.replicate (es.map fun e => if e.seen then ones e else 0).sum .one := by
    induction es with
    | nil => rfl
    | cons e es inductionHypothesis =>
      rw [List.flatMap_cons, inductionHypothesis, List.map_cons, List.sum_cons,
        List.replicate_add, EventLine.ticks]
      cases e.seen with
      | false => rfl
      | true => rw [if_pos rfl, if_pos rfl, each]
  rw [ticks, tally_ones]

theorem sum_seen_eq_iff {ones : EventLine loads Content → Nat} (es : List (EventLine loads Content)) :
    (es.map fun e => if e.seen then ones e else 0).sum = (es.map ones).sum ↔
      ∀ e ∈ es, ones e ≠ 0 → e.seen = true := by
  have bound : ∀ es : List (EventLine loads Content),
      (es.map fun e => if e.seen then ones e else 0).sum ≤ (es.map ones).sum := by
    intro es
    induction es with
    | nil => exact Nat.le_refl 0
    | cons e es inductionHypothesis =>
      simp only [List.map_cons, List.sum_cons]
      split <;> omega
  induction es with
  | nil => simp
  | cons e es inductionHypothesis =>
    rw [List.map_cons, List.map_cons, List.sum_cons, List.sum_cons, List.forall_mem_cons]
    refine Iff.trans ?_ (and_congr_right' inductionHypothesis)
    have rest := bound es
    cases e.seen with
    | true =>
      simp only [if_true, implies_true, true_and]
      omega
    | false =>
      simp only [Bool.false_eq_true, if_false, imp_false, not_not]
      omega

theorem MessageEvent.ticks {data : Fields} (event : MessageEvent data) :
    untilError (eventTicks data) = List.replicate event.callsTool.toNat .one := by
  have lists : HasList "choices" data [] ∧ HasList "candidates" data [] := by
    cases event with
    | start _ _ _ noChoice noCandidate => exact ⟨noChoice, noCandidate⟩
    | other _ noChoice noCandidate => exact ⟨noChoice, noCandidate⟩
  have block : blockTicks data = (List.replicate event.callsTool.toNat Tick.one).map Except.ok := by
    cases event with
    | start block typed its _ _ =>
      have found : (fieldOf data "content_block").orElse (.obj []) = .obj block := by
        rw [fieldOf, Fields.getD, its]
        cases block <;> rfl
      have type : fieldOf data "type" = .str "content_block_start" := by
        rw [fieldOf, Fields.getD, typed]
        rfl
      rw [blockTicks, found, type, Json.isText_self, Bool.true_and, MessageEvent.callsTool,
        MessageEvent.started, Option.map_some, Option.getD_some]
      cases isToolUse (.obj block) <;> rfl
    | other typed _ _ =>
      rw [blockTicks, typed]
      rfl
  rw [eventTicks, lists.1.ticksOver, lists.2.ticksOver, block, List.flatMap_nil, List.flatMap_nil,
    List.nil_append, List.append_nil, untilError_ok]

theorem MessageAnswer.countToolCalls_eq (answer : MessageAnswer loads) :
    countToolCalls (.obj answer.response) =
      ((events answer.lines).map fun e => e.content.callsTool.toNat).sum := by
  have none : ∀ {count : Json → Except PyError Nat}, ∀ item ∈ ([] : List Json),
      count item = .ok 0 := fun _ member => absurd member List.not_mem_nil
  have body : countToolCalls (.obj answer.response) =
      (answer.blocks.map fun block => (isToolUse (.obj block)).toNat).sum := by
    simp only [countToolCalls, answer.noChoice.sumOver none,
      answer.listed.sumOver fun block _ => rfl, answer.noCandidate.sumOver none, bind, Except.bind,
      pure, Except.pure]
    simp [Function.comp_def]
  have starts : ∀ es : List (EventLine loads MessageEvent),
      (es.map fun e => e.content.callsTool.toNat).sum =
        ((es.filterMap fun e => e.content.started).map fun block =>
          (isToolUse (.obj block)).toNat).sum := by
    intro es
    induction es with
    | nil => rfl
    | cons e es inductionHypothesis =>
      rw [List.map_cons, List.sum_cons, inductionHypothesis, MessageEvent.callsTool]
      cases started : e.content.started with
      | none => simp [started]
      | some block => simp [started]
  have types := (answer.started.map fun type => (type.isText "tool_use").toNat).sum_nat
  rw [List.map_map, List.map_map] at types
  rw [body, starts]
  exact types.symm

theorem MessageAnswer.agrees_iff (silent : PiecesSilent loads) (answer : MessageAnswer loads) :
    countToolCallsInStream loads (rawBuffer answer.lines) = countToolCalls (.obj answer.response) ↔
      answer.Consistent := by
  rw [countToolCallsInStream_rawBuffer silent, tally_events fun e => e.content.ticks,
    answer.countToolCalls_eq, sum_seen_eq_iff, MessageAnswer.Consistent]
  simp only [Bool.toNat_eq_zero, ne_eq, Bool.not_eq_false]

theorem GenerateChunk.ticks {data : Fields} (chunk : GenerateChunk data) :
    untilError (eventTicks data) = List.replicate chunk.calls.length .one := by
  have candidate : ∀ candidate : ChunkCandidate,
      candidateTicks (.obj candidate.fields) = candidate.parts.flatMap partTicks := by
    intro candidate
    rw [candidateTicks, objectOrEmpty_obj]
    simp only [objectOrEmpty_field candidate.inContent, candidate.listed.ticksOver]
  have parts : ∀ parts : List Json, parts.flatMap partTicks =
      (List.replicate (parts.filter isFunctionCall).length Tick.one).map Except.ok := by
    intro parts
    induction parts with
    | nil => rfl
    | cons part parts inductionHypothesis =>
      rw [List.flatMap_cons, inductionHypothesis, List.filter_cons, partTicks]
      cases isFunctionCall part <;> rfl
  have ok : eventTicks data = (List.replicate chunk.calls.length Tick.one).map Except.ok := by
    rw [eventTicks, chunk.listed.ticksOver, chunk.noChoice.ticksOver, blockTicks, chunk.noBlock,
      GenerateChunk.calls, ← parts, List.flatMap_map, List.flatMap_assoc]
    simp only [candidate, List.flatMap_nil, Bool.false_and, Bool.false_eq_true, if_false,
      List.nil_append]
  rw [ok, untilError_ok]

theorem GenerateAnswer.countToolCalls_eq (answer : GenerateAnswer loads) :
    countToolCalls (.obj answer.response) =
      ((events answer.lines).map fun e => e.content.calls.length).sum := by
  have none : ∀ {count : Json → Except PyError Nat}, ∀ item ∈ ([] : List Json),
      count item = .ok 0 := fun _ member => absurd member List.not_mem_nil
  have candidate : ∀ candidate : AnswerCandidate, candidateCalls (.obj candidate.fields) =
      .ok (candidate.parts.map fun part => (isFunctionCall part).toNat).sum := by
    intro candidate
    rw [candidateCalls, objectOrEmpty_obj]
    simp only [bind, Except.bind, candidate.inContent.dict]
    exact candidate.listed.sumOver fun part _ => rfl
  have each : ∀ item ∈ answer.candidates.map fun candidate => Json.obj candidate.fields,
      candidateCalls item = .ok ((candidateCalls item).toOption.getD 0) := by
    intro item member
    obtain ⟨its, _, rfl⟩ := List.mem_map.mp member
    rw [candidate its]
    rfl
  have parts : ∀ parts : List Json, (parts.map fun part => (isFunctionCall part).toNat).sum =
      (parts.filter isFunctionCall).length := by
    intro parts
    induction parts with
    | nil => rfl
    | cons part parts inductionHypothesis =>
      rw [List.map_cons, List.sum_cons, inductionHypothesis, List.filter_cons]
      cases isFunctionCall part with
      | false => exact Nat.zero_add _
      | true => exact Nat.add_comm _ _
  rw [← List.length_flatMap, answer.distributed.length_eq, List.filter_flatMap, List.length_flatMap]
  simp only [countToolCalls, answer.noChoice.sumOver none, answer.noBlock.sumOver none,
    answer.listed.sumOver each, bind, Except.bind, pure, Except.pure]
  simp [candidate, parts, Except.toOption, Function.comp_def]

theorem GenerateAnswer.agrees_iff (silent : PiecesSilent loads) (answer : GenerateAnswer loads) :
    countToolCallsInStream loads (rawBuffer answer.lines) = countToolCalls (.obj answer.response) ↔
      answer.Consistent := by
  rw [countToolCallsInStream_rawBuffer silent, tally_events fun e => e.content.ticks,
    answer.countToolCalls_eq, sum_seen_eq_iff, GenerateAnswer.Consistent]
  simp only [ne_eq, List.length_eq_zero_iff]

/-- Tool-call counts do not depend on streaming, exactly where each call is seen and one choice
    has them all. -/
theorem tool_calls_agree (silent : PiecesSilent loads) (answer : StreamedAnswer loads) :
    answer.Agrees ↔ answer.Consistent := by
  cases answer with
  | chat answer => exact answer.agrees_iff silent
  | message answer => exact answer.agrees_iff silent
  | generate answer => exact answer.agrees_iff silent

/-! ## Two choices -/

def deltaEntry (id : Str) : DeltaEntry where
  fields := [("index", .int 0), ("id", .str id)]
  index := 0
  indexed := rfl

/-- The choice of a chunk, with the call in its delta. -/
def deltaChoice (index : Nat) (id : Str) : ChunkChoice where
  fields := [("index", .int index),
    ("delta", .obj [("tool_calls", .arr [.obj (deltaEntry id).fields])])]
  index := index
  indexed := rfl
  delta := [("tool_calls", .arr [.obj (deltaEntry id).fields])]
  inDelta := .inl (.object _ rfl)
  entries := [deltaEntry id]
  listed := .list _ rfl

def twoFields : Fields :=
  [("choices", .arr [.obj (deltaChoice 0 "a").fields, .obj (deltaChoice 1 "b").fields])]

@[irreducible] def twoText : Str :=
  "\x7b\"choices\":[" ++ "\x7b\"index\":0,\"delta\":\x7b" ++
    "\"tool_calls\":[\x7b\"index\":0," ++ "\"id\":\"a\"\x7d]\x7d\x7d," ++
    "\x7b\"index\":1,\"delta\":\x7b" ++ "\"tool_calls\":[\x7b\"index\":0," ++
    "\"id\":\"b\"\x7d]\x7d\x7d]\x7d"

def twoLoads (text : Str) : Option Json := if text = twoText then some (.obj twoFields) else none

theorem twoText_line : (∀ c ∈ twoText, isLineBreak c = false) ∧ strip twoText = twoText ∧
    twoText ≠ [] := by
  have unbroken : (twoText.all fun c => !isLineBreak c) = true := by decide +kernel
  refine ⟨fun c member => ?_, by decide +kernel, by decide +kernel⟩
  exact (Bool.not_eq_true' _).mp (List.all_eq_true.mp unbroken c member)

theorem twoLoads_silent : PiecesSilent twoLoads := by
  intro text data decoded ⟨c, member, breaks⟩
  rw [twoLoads] at decoded
  split at decoded
  · next same =>
    rw [same] at member
    rw [twoText_line.1 c member] at breaks
    cases breaks
  · cases decoded

def answerChoice (index : Nat) (id : Str) : AnswerChoice where
  fields := [("index", .int index),
    ("message", .obj [("tool_calls", .arr [.obj [("id", .str id)]])])]
  index := index
  indexed := rfl
  message := [("tool_calls", .arr [.obj [("id", .str id)]])]
  inMessage := .object _ rfl
  calls := [.obj [("id", .str id)]]
  listed := .list _ rfl

/-- Two choices with a call each, streamed in one chunk. -/
def twoChoices : ChatAnswer twoLoads where
  response :=
    [("choices", .arr [.obj (answerChoice 0 "a").fields, .obj (answerChoice 1 "b").fields])]
  choices := [answerChoice 0 "a", answerChoice 1 "b"]
  listed := .list _ rfl
  distinct := by decide
  noBlock := .missing rfl
  noCandidate := .missing rfl
  lines :=
    [(.event {
        spaced := true
        text := twoText
        data := twoFields
        decoded := if_pos rfl
        trimmed := twoText_line.2.1
        filled := twoText_line.2.2
        content :=
          { choices := [deltaChoice 0 "a", deltaChoice 1 "b"]
            listed := .list _ rfl
            noBlock := rfl
            noCandidate := .missing rfl } }, .lf),
      (.other [] rfl, .lf)]
  announced _ := Iff.rfl

theorem tool_calls_agree_two :
    (StreamedAnswer.chat twoChoices).Agrees ↔ (StreamedAnswer.chat twoChoices).Consistent :=
  tool_calls_agree twoLoads_silent (.chat twoChoices)

/-- The calls of two choices are counted as one. -/
theorem choices_collide :
    ¬ ∀ (loads : Str → Option Json), PiecesSilent loads →
      ∀ answer : StreamedAnswer loads, answer.Agrees := by
  intro claim
  have consistent := (twoChoices.agrees_iff twoLoads_silent).mp
    (claim twoLoads twoLoads_silent (.chat twoChoices))
  have same : (0 : Nat) = 1 := consistent.single (answerChoice 0 "a") (.head _)
    (answerChoice 1 "b") (.tail _ (.head _)) (List.cons_ne_nil _ _) (List.cons_ne_nil _ _)
  cases same

end BurnLens.Providers
