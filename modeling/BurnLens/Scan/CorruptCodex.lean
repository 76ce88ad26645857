import BurnLens.Scan.CorruptLogs

/-! # Corrupt events of Codex

A session of Codex is read with a state: the working directory, and the model of the last turn.  A
corrupt event can leave there what is no text, and then it is a later one that raises.
-/

namespace BurnLens.Scan

open Library Cost Storage

/-! ## Events -/

inductive CodexEvent where
  | sessionMeta
  | turnContext
  | eventMsg
  | other
deriving DecidableEq

def codexEvent (entry : Fields) : CodexEvent :=
  let event := Fields.getD entry "type" (.str [])
  if event.isText "session_meta" then .sessionMeta
  else if event.isText "turn_context" then .turnContext
  else if event.isText "event_msg" then .eventMsg
  else .other

/-- `entry.get("payload") or {}`. -/
def codexPayload (entry : Fields) : Json := (get entry "payload").orElse (.obj [])

/-- The state after an event that has a payload. -/
def CodexEvent.next (s : CodexState) (payload : Fields) : CodexEvent → CodexState
  | .sessionMeta =>
    if s.cwd.isNone then
      { s with cwd := if (get payload "cwd").truthy then some (get payload "cwd") else none }
    else s
  | .turnContext =>
    if (get payload "model").truthy then { s with model := some (get payload "model") } else s
  | .eventMsg =>
    if (get payload "type").isText "token_count" then { s with ordinal := s.ordinal + 1 } else s
  | .other => s

def CodexEvent.read (py : Python) (sessionId : Str) (s : CodexState) (entry payload : Fields) :
    CodexEvent → ReadEntry
  | .eventMsg =>
    if (get payload "type").isText "token_count" then tokenCount py sessionId s entry payload
    else .ok none
  | _ => .ok none

def CodexEvent.looks (s : CodexState) : CodexEvent → Bool
  | .sessionMeta => s.cwd.isNone
  | .turnContext | .eventMsg => true
  | .other => false

/-- What is asked of the payload of a well-formed event. -/
def CodexEvent.asks (entry payload : Fields) : CodexEvent → Bool
  | .sessionMeta => isPlain (get payload "cwd")
  | .turnContext => isPlain (get payload "model")
  | .eventMsg => !(get payload "type").isText "token_count" || tokenCountWellFormed entry payload
  | .other => true

variable {py : Python} {sessionId : Str} {s c : CodexState} {entry payload : Fields}

theorem isText_unique {value : Json} {a b : Str} (isA : value.isText a = true) (other : a ≠ b) :
    value.isText b = false := by
  cases value with
  | str text =>
    obtain rfl : text = a := of_decide_eq_true isA
    exact decide_eq_false other
  | _ => rfl

theorem codexEvent_or (entry : Fields) :
    let event := Fields.getD entry "type" (.str [])
    (codexEvent entry = .sessionMeta ∧ event.isText "session_meta" = true ∧
        event.isText "turn_context" = false ∧ event.isText "event_msg" = false) ∨
      (codexEvent entry = .turnContext ∧ event.isText "session_meta" = false ∧
        event.isText "turn_context" = true ∧ event.isText "event_msg" = false) ∨
      (codexEvent entry = .eventMsg ∧ event.isText "session_meta" = false ∧
        event.isText "turn_context" = false ∧ event.isText "event_msg" = true) ∨
      codexEvent entry = .other ∧ event.isText "session_meta" = false ∧
        event.isText "turn_context" = false ∧ event.isText "event_msg" = false := by
  intro event
  rw [show codexEvent entry = if event.isText "session_meta" then .sessionMeta
    else if event.isText "turn_context" then .turnContext
    else if event.isText "event_msg" then .eventMsg else .other from rfl]
  cases isMeta : event.isText "session_meta" with
  | true =>
    have noTurn := isText_unique (b := "turn_context") isMeta (by decide)
    have noMsg := isText_unique (b := "event_msg") isMeta (by decide)
    exact .inl ⟨rfl, rfl, noTurn, noMsg⟩
  | false =>
    cases isTurn : event.isText "turn_context" with
    | true =>
      have noMsg := isText_unique (b := "event_msg") isTurn (by decide)
      exact .inr (.inl ⟨rfl, rfl, rfl, noMsg⟩)
    | false =>
      cases isMsg : event.isText "event_msg" with
      | true => exact .inr (.inr (.inl ⟨rfl, rfl, rfl, rfl⟩))
      | false => exact .inr (.inr (.inr ⟨rfl, rfl, rfl, rfl⟩))

theorem codexEntry_payload (isPayload : codexPayload entry = .obj payload) :
    codexEntry py sessionId s entry =
      ((codexEvent entry).next s payload, (codexEvent entry).read py sessionId s entry payload) := by
  unfold codexPayload at isPayload
  unfold codexEntry
  obtain ⟨event, isMeta, isTurn, isMsg⟩ | ⟨event, isMeta, isTurn, isMsg⟩ |
    ⟨event, isMeta, isTurn, isMsg⟩ | ⟨event, isMeta, isTurn, isMsg⟩ := codexEvent_or entry
  · simp only [isMeta, isTurn, isMsg, event, isPayload, Bool.true_and, Bool.false_eq_true, if_false,
      CodexEvent.next, CodexEvent.read]
    split <;> rfl
  · simp only [isMeta, isTurn, event, isPayload, Bool.false_and, Bool.false_eq_true, if_false, if_true,
      CodexEvent.next, CodexEvent.read]
  · simp only [isMeta, isTurn, isMsg, event, isPayload, Bool.false_and, Bool.false_eq_true, if_false,
      if_true, CodexEvent.next, CodexEvent.read]
    split <;> rfl
  · simp only [isMeta, isTurn, isMsg, event, Bool.false_and, Bool.false_eq_true, if_false,
      CodexEvent.next, CodexEvent.read]

/-- Another payload makes the reader raise, where it looks into it. -/
theorem codexEntry_noPayload (noPayload : ∀ payload, codexPayload entry ≠ .obj payload) :
    codexEntry py sessionId s entry =
      (s, if (codexEvent entry).looks s then .error .attributeError else .ok none) := by
  unfold codexPayload at noPayload
  unfold codexEntry CodexEvent.looks
  obtain ⟨event, isMeta, isTurn, isMsg⟩ | ⟨event, isMeta, isTurn, isMsg⟩ |
    ⟨event, isMeta, isTurn, isMsg⟩ | ⟨event, isMeta, isTurn, isMsg⟩ := codexEvent_or entry
  · simp only [isMeta, isTurn, isMsg, event, Bool.true_and, Bool.false_eq_true, if_false]
    split <;> rfl
  · simp only [isMeta, isTurn, event, Bool.false_and, Bool.false_eq_true, if_false, if_true]
  · simp only [isMeta, isTurn, isMsg, event, Bool.false_and, Bool.false_eq_true, if_false, if_true]
  · simp only [isMeta, isTurn, isMsg, event, Bool.false_and, Bool.false_eq_true, if_false]

theorem codexWellFormed_eq : codexWellFormed entry =
    match codexEvent entry, get entry "payload" with
    | .other, _ | _, .null => true
    | event, .obj payload => event.asks entry payload
    | _, _ => false := by
  unfold codexWellFormed CodexEvent.asks
  obtain ⟨event, isMeta, isTurn, isMsg⟩ | ⟨event, isMeta, isTurn, isMsg⟩ |
    ⟨event, isMeta, isTurn, isMsg⟩ | ⟨event, isMeta, isTurn, isMsg⟩ := codexEvent_or entry
  all_goals
    simp only [isMeta, isTurn, isMsg, event, Bool.or_true, Bool.or_false, Bool.false_eq_true,
      if_true, if_false]
  all_goals cases get entry "payload" <;> rfl

/-- A well-formed event has a payload as it is asked, or is of another type. -/
theorem codexWellFormed_asks (wellFormed : codexWellFormed entry = true) :
    codexEvent entry = .other ∨
      ∃ payload, codexPayload entry = .obj payload ∧ (codexEvent entry).asks entry payload = true := by
  rw [codexWellFormed_eq] at wellFormed
  unfold codexPayload
  cases event : codexEvent entry with
  | other => exact .inl rfl
  | _ =>
    right
    rw [event] at wellFormed
    cases isPayload : get entry "payload" with
    | null => exact ⟨[], rfl, rfl⟩
    | obj payload =>
      rw [isPayload] at wellFormed
      refine ⟨payload, ?_, wellFormed⟩
      cases payload <;> rfl
    | _ =>
      rw [isPayload] at wellFormed
      cases wellFormed

/-- A corrupt event whose payload is read is not as it is asked, or has nothing in it. -/
theorem asks_of_corrupt (corrupt : codexWellFormed entry = false)
    (isPayload : codexPayload entry = .obj payload) :
    payload = [] ∨ (codexEvent entry).asks entry payload = false := by
  rw [codexWellFormed_eq] at corrupt
  unfold codexPayload Json.orElse at isPayload
  split at isPayload
  · right
    rw [isPayload] at corrupt
    cases event : codexEvent entry with
    | other =>
      rw [event] at corrupt
      cases corrupt
    | _ =>
      rw [event] at corrupt
      exact corrupt
  · cases isPayload
    exact .inl rfl

/-! ## Counts -/

/-- The counts of the event are read. -/
structure CodexAsked (payload info last : Fields) : Prop where
  isInfo : get payload "info" = .obj info
  filled : info ≠ []
  isLast : (get info "last_token_usage").orElse (.obj []) = .obj last

/-- The record of an event with these counts. -/
def codexBillable (py : Python) (sessionId : Str) (s : CodexState) (model : Json)
    (input output cached reasoning : Int) : Billable where
  requestId := sessionId ++ ":" ++ decimal s.ordinal
  model := model
  inputTokens := input
  outputTokens := max 0 (output - reasoning)
  reasoningTokens := reasoning
  cacheReadTokens := cached
  encodable := s.encodable py

/-- An event whose counts are read has numbers there; and where it is billed, it is well formed and
    can be stored, and the events before it have left texts. -/
def TokenCountHarmless (py : Python) (s : CodexState) (entry payload : Fields) : Prop :=
  ∀ info last, CodexAsked payload info last → ∃ input output cached reasoning,
    Converts py last codexCounts [input, output, cached, reasoning] ∧
      (input + output + reasoning ≠ 0 → ∀ model, s.model = some model →
        ((∃ text, model = .str text) ∧ s.checkCwd py = .ok ()) ∧
          tokenCountWellFormed entry payload = true ∧
            (∀ n ∈ [input, max 0 (output - reasoning), reasoning, cached], bindable (.int n) = true) ∧
              s.encodable py = true)

section

variable {info last : Fields} {input output cached reasoning : Int}

theorem tokenCount_unasked (unasked : ¬ ∃ info last, CodexAsked payload info last) :
    tokenCount py sessionId s entry payload = .ok none := by
  unfold tokenCount
  cases isInfo : get payload "info" with
  | obj info =>
    cases info with
    | nil => rfl
    | cons field rest =>
      cases isLast : (get (field :: rest) "last_token_usage").orElse (.obj []) with
      | obj last => exact absurd ⟨_, last, isInfo, List.cons_ne_nil field rest, isLast⟩ unasked
      | _ =>
        simp only [List.isEmpty_cons, Bool.false_eq_true, if_false, isLast]
  | _ => rfl

theorem tokenCount_asked (asked : CodexAsked payload info last) :
    tokenCount py sessionId s entry payload = (do
      let inputTokens ← py.count last "input_tokens"
      let outputTokens ← py.count last "output_tokens"
      let cacheReadTokens ← py.count last "cached_input_tokens"
      let reasoningTokens ← py.count last "reasoning_output_tokens"
      if inputTokens + outputTokens + reasoningTokens = 0 then return none
      match s.model with
      | none => return none
      | some model => do
        s.checkCwd py
        checkTimestamp (get entry "timestamp")
        return some (codexBillable py sessionId s model inputTokens outputTokens cacheReadTokens
          reasoningTokens)) := by
  have filled : List.isEmpty info = false := List.isEmpty_eq_false_iff.mpr asked.filled
  unfold tokenCount
  rw [asked.isInfo]
  simp only [filled, Bool.false_eq_true, if_false, asked.isLast]
  rfl

theorem tokenCount_converts {found : Option Billable} (asked : CodexAsked payload info last)
    (read : tokenCount py sessionId s entry payload = .ok found) :
    ∃ input output cached reasoning,
      Converts py last codexCounts [input, output, cached, reasoning] := by
  rw [tokenCount_asked asked] at read
  simp only [bind_eq_ok] at read
  obtain ⟨input, readInput, output, readOutput, cached, readCached, reasoning, readReasoning, -⟩ := read
  exact ⟨input, output, cached, reasoning,
    .cons readInput (.cons readOutput (.cons readCached (.cons readReasoning .nil)))⟩

theorem tokenCount_counted (asked : CodexAsked payload info last)
    (converts : Converts py last codexCounts [input, output, cached, reasoning]) :
    tokenCount py sessionId s entry payload =
      if input + output + reasoning = 0 then .ok none
      else match s.model with
      | none => .ok none
      | some model => do
        s.checkCwd py
        checkTimestamp (get entry "timestamp")
        return some (codexBillable py sessionId s model input output cached reasoning) := by
  simp only [Converts, codexCounts, List.forall₂_cons] at converts
  obtain ⟨readInput, readOutput, readCached, readReasoning, -⟩ := converts
  rw [tokenCount_asked asked, readInput, readOutput, readCached, readReasoning]
  rfl

theorem codexBillable_fits {model : Json} :
    (codexBillable py sessionId s model input output cached reasoning).Fits ↔
      (∀ n ∈ [input, max 0 (output - reasoning), reasoning, cached], bindable (.int n) = true) ∧
        s.encodable py = true := by
  have zero : bindable (.int 0) = true := rfl
  have counts : (∀ n ∈ [input, max 0 (output - reasoning), reasoning, cached, 0],
      bindable (.int n) = true) ↔
        ∀ n ∈ [input, max 0 (output - reasoning), reasoning, cached], bindable (.int n) = true := by
    simp only [List.forall_mem_cons, zero, true_and]
  exact ⟨fun fits => ⟨counts.mp fits.counts, fits.encodable⟩,
    fun ⟨fit, encodable⟩ => ⟨counts.mpr fit, encodable⟩⟩

theorem tokenCountWellFormed_asked (asked : CodexAsked payload info last)
    (wellFormed : tokenCountWellFormed entry payload = true) :
    isPlain (get entry "timestamp") = true := by
  unfold tokenCountWellFormed at wellFormed
  rw [asked.isInfo] at wellFormed
  simp only [Bool.and_eq_true] at wellFormed
  exact wellFormed.2

theorem tokenCount_billed {model : Str} (asked : CodexAsked payload info last)
    (converts : Converts py last codexCounts [input, output, cached, reasoning])
    (billed : input + output + reasoning ≠ 0) (known : s.model = some (.str model))
    (cwd : s.checkCwd py = .ok ()) (wellFormed : tokenCountWellFormed entry payload = true) :
    tokenCount py sessionId s entry payload =
      .ok (some (codexBillable py sessionId s (.str model) input output cached reasoning)) := by
  rw [tokenCount_counted asked converts, if_neg billed, known, cwd,
    checkTimestamp_of_plain (tokenCountWellFormed_asked asked wellFormed)]
  rfl

theorem tokenCount_unknown (asked : CodexAsked payload info last)
    (converts : Converts py last codexCounts [input, output, cached, reasoning])
    (unknown : s.model = none) : tokenCount py sessionId s entry payload = .ok none := by
  rw [tokenCount_counted asked converts, unknown]
  split <;> rfl

end

/-! ## Two states -/

/-- Without the corrupt events, the model is a text, and known only if it is with them. -/
structure CodexCovers (s c : CodexState) : Prop where
  text : ∀ model, c.model = some model → ∃ text, model = .str text
  known : s.model = none → c.model = none

/-- The working directory is a text, or not known yet. -/
def CodexState.Placed (s : CodexState) : Prop := ∀ cwd, s.cwd = some cwd → ∃ path, cwd = .str path

/-- A model that is a text is the same with and without the corrupt events, and so is a working
    directory. -/
structure CodexAgree (s c : CodexState) : Prop where
  covers : CodexCovers s c
  model : ∀ text, s.model = some (.str text) → c.model = some (.str text)
  cwd : s.Placed → c.cwd = s.cwd

theorem placed_of_checkCwd (checked : s.checkCwd py = .ok ()) : s.Placed := by
  intro cwd located
  rw [CodexState.checkCwd, located] at checked
  cases cwd with
  | str path => exact ⟨path, rfl⟩
  | _ => cases checked

/-- What is asked of a state depends on its working directory and on its model. -/
theorem checkCwd_congr (cwd : c.cwd = s.cwd) : c.checkCwd py = s.checkCwd py := by
  rw [CodexState.checkCwd, CodexState.checkCwd, cwd]

theorem encodable_congr (cwd : c.cwd = s.cwd) (model : c.model = s.model) :
    c.encodable py = s.encodable py := by
  rw [CodexState.encodable, CodexState.encodable, cwd, model]

section

variable {info last : Fields} {input output cached reasoning : Int}

theorem tokenCount_kept (agree : CodexAgree s c) (harmless : TokenCountHarmless py s entry payload) :
    (tokenCount py sessionId s entry payload = .ok none ∧
        tokenCount py sessionId c entry payload = .ok none) ∨
      ∃ b b', tokenCount py sessionId s entry payload = .ok (some b) ∧
        tokenCount py sessionId c entry payload = .ok (some b') ∧ Tool.same .codex b b' ∧ b.Fits ∧
          tokenCountWellFormed entry payload = true ∧ payload ≠ [] := by
  by_cases asked : ∃ info last, CodexAsked payload info last
  · obtain ⟨info, last, asked⟩ := asked
    obtain ⟨input, output, cached, reasoning, converts, fine⟩ := harmless info last asked
    by_cases billed : input + output + reasoning = 0
    · rw [tokenCount_counted asked converts, tokenCount_counted asked converts, if_pos billed,
        if_pos billed]
      exact .inl ⟨rfl, rfl⟩
    · cases known : s.model with
      | none =>
        exact .inl ⟨tokenCount_unknown asked converts known,
          tokenCount_unknown asked converts (agree.covers.known known)⟩
      | some model =>
        obtain ⟨⟨⟨text, rfl⟩, cwd⟩, wellFormed, fit⟩ := fine billed model known
        have filled : payload ≠ [] := by
          rintro rfl
          cases asked.isInfo
        have sameCwd := agree.cwd (placed_of_checkCwd cwd)
        have known' := agree.model text known
        have cwd' : c.checkCwd py = .ok () := (checkCwd_congr sameCwd).trans cwd
        refine .inr ⟨_, _, tokenCount_billed asked converts billed known cwd wellFormed,
          tokenCount_billed asked converts billed known' cwd' wellFormed, ?_,
          codexBillable_fits.mpr fit, wellFormed, filled⟩
        simp only [Tool.same, codexBillable, encodable_congr sameCwd (known'.trans known.symm)]
  · exact .inl ⟨tokenCount_unasked asked, tokenCount_unasked asked⟩

/-- A record of an event that is not harmless has a model that is no text. -/
theorem tokenCount_caught (harmful : ¬ TokenCountHarmless py s entry payload) :
    (∃ error, tokenCount py sessionId s entry payload = .error error) ∨
      ∃ b, tokenCount py sessionId s entry payload = .ok (some b) ∧
        (b.Fits → tokenCountWellFormed entry payload = true → ¬ b.Native) := by
  simp only [TokenCountHarmless, not_forall] at harmful
  obtain ⟨info, last, asked, harmful⟩ := harmful
  cases read : tokenCount py sessionId s entry payload with
  | error error => exact .inl ⟨error, rfl⟩
  | ok found =>
    obtain ⟨input, output, cached, reasoning, converts⟩ := tokenCount_converts asked read
    simp only [not_exists, not_and] at harmful
    have wrong := harmful input output cached reasoning converts
    simp only [not_forall] at wrong
    obtain ⟨billed, model, known, wrong⟩ := wrong
    rw [tokenCount_counted asked converts, if_neg billed, known] at read
    simp only [bind_eq_ok] at read
    obtain ⟨⟨⟩, cwd, ⟨⟩, -, given⟩ := read
    cases given
    exact .inr ⟨_, rfl, fun fit wellFormed native =>
      wrong ⟨⟨native, cwd⟩, wellFormed, codexBillable_fits.mp fit⟩⟩

theorem tokenCount_gives {b : Billable} (covers : CodexCovers s c)
    (read : tokenCount py sessionId c entry payload = .ok (some b)) :
    b.Native ∧ tokenCount py sessionId s entry payload ≠ .ok none := by
  by_cases asked : ∃ info last, CodexAsked payload info last
  · obtain ⟨info, last, asked⟩ := asked
    obtain ⟨input, output, cached, reasoning, converts⟩ := tokenCount_converts asked read
    by_cases billed : input + output + reasoning = 0
    · rw [tokenCount_counted asked converts, if_pos billed] at read
      cases read
    · cases known : c.model with
      | none =>
        rw [tokenCount_unknown asked converts known] at read
        cases read
      | some model =>
        rw [tokenCount_counted asked converts, if_neg billed, known] at read
        simp only [bind_eq_ok] at read
        obtain ⟨⟨⟩, -, ⟨⟩, -, given⟩ := read
        cases given
        refine ⟨covers.text model known, fun skipped => ?_⟩
        cases known' : s.model with
        | none => cases known.symm.trans (covers.known known')
        | some model' =>
          rw [tokenCount_counted asked converts, if_neg billed, known'] at skipped
          simp only [bind_eq_ok] at skipped
          obtain ⟨⟨⟩, -, ⟨⟩, -, given⟩ := skipped
          cases given
  · rw [tokenCount_unasked asked] at read
    cases read

end

/-! ## The reader -/

/-- The reader finds an object where it looks into the payload, and a `token_count` is harmless. -/
def CodexHarmless (py : Python) (s : CodexState) (entry : Fields) : Prop :=
  ((codexEvent entry).looks s = true → ∃ payload, codexPayload entry = .obj payload) ∧
    ∀ payload, codexPayload entry = .obj payload → codexEvent entry = .eventMsg →
      (get payload "type").isText "token_count" = true → TokenCountHarmless py s entry payload

theorem codexEntry_other (other : codexEvent entry = .other) :
    codexEntry py sessionId s entry = (s, .ok none) := by
  by_cases isPayload : ∃ payload, codexPayload entry = .obj payload
  · obtain ⟨payload, isPayload⟩ := isPayload
    rw [codexEntry_payload isPayload, other]
    rfl
  · rw [codexEntry_noPayload fun payload is => isPayload ⟨payload, is⟩, other]
    rfl

theorem next_model (event : CodexEvent) : (event.next s payload).model =
    if event = .turnContext ∧ (get payload "model").truthy = true then some (get payload "model")
    else s.model := by
  cases event with
  | turnContext =>
    simp only [CodexEvent.next, true_and]
    split <;> rfl
  | other => rfl
  | _ =>
    simp only [CodexEvent.next, reduceCtorEq, false_and, if_false]
    split <;> rfl

/-- The working directory after an event: that of the session, where none was known. -/
theorem next_cwd (event : CodexEvent) : (event.next s payload).cwd =
    if event = .sessionMeta ∧ s.cwd.isNone = true then
      if (get payload "cwd").truthy then some (get payload "cwd") else none
    else s.cwd := by
  cases event with
  | sessionMeta =>
    simp only [CodexEvent.next, true_and]
    split <;> rfl
  | other => rfl
  | _ =>
    simp only [CodexEvent.next, reduceCtorEq, false_and, if_false]
    split <;> rfl

theorem placed_of_next {event : CodexEvent} (placed : (event.next s payload).Placed) : s.Placed := by
  intro cwd located
  refine placed cwd ?_
  rw [next_cwd, if_neg, located]
  rw [located]
  exact fun unknown => Bool.false_ne_true unknown.2

theorem CodexCovers.onward (covers : CodexCovers s c) (wellFormed : codexWellFormed entry = true) :
    CodexCovers (codexEntry py sessionId s entry).1 (codexEntry py sessionId c entry).1 := by
  obtain other | ⟨payload, isPayload, asks⟩ := codexWellFormed_asks wellFormed
  · rw [codexEntry_other other, codexEntry_other other]
    exact covers
  · rw [codexEntry_payload isPayload, codexEntry_payload isPayload]
    constructor
    · intro model named
      rw [next_model] at named
      split at named
      · next turn =>
        cases named
        rw [turn.1] at asks
        exact str_of_plain asks turn.2
      · exact covers.text model named
    · intro unknown
      rw [next_model] at unknown ⊢
      split at unknown
      · cases unknown
      · next noTurn =>
        rw [if_neg noTurn]
        exact covers.known unknown

theorem CodexCovers.apart (covers : CodexCovers s c) :
    CodexCovers (codexEntry py sessionId s entry).1 c := by
  by_cases isPayload : ∃ payload, codexPayload entry = .obj payload
  · obtain ⟨payload, isPayload⟩ := isPayload
    rw [codexEntry_payload isPayload]
    refine ⟨covers.text, fun unknown => ?_⟩
    rw [next_model] at unknown
    split at unknown
    · cases unknown
    · exact covers.known unknown
  · rw [codexEntry_noPayload fun payload is => isPayload ⟨payload, is⟩]
    exact covers

theorem CodexAgree.onward (agree : CodexAgree s c) (wellFormed : codexWellFormed entry = true) :
    CodexAgree (codexEntry py sessionId s entry).1 (codexEntry py sessionId c entry).1 := by
  refine ⟨agree.covers.onward wellFormed, ?_, ?_⟩
  · intro text named
    obtain other | ⟨payload, isPayload, asks⟩ := codexWellFormed_asks wellFormed
    · rw [codexEntry_other other] at named ⊢
      exact agree.model text named
    · rw [codexEntry_payload isPayload, next_model] at named ⊢
      split at named
      · next turn =>
        rw [if_pos turn]
        exact named
      · next noTurn =>
        rw [if_neg noTurn]
        exact agree.model text named
  · obtain other | ⟨payload, isPayload, asks⟩ := codexWellFormed_asks wellFormed
    · rw [codexEntry_other other, codexEntry_other other]
      exact agree.cwd
    · rw [codexEntry_payload isPayload, codexEntry_payload isPayload]
      intro placed
      rw [next_cwd, next_cwd, agree.cwd (placed_of_next placed)]

/-- A corrupt event leaves the working directory as it is, or one that is no text. -/
theorem cwd_of_corrupt (corrupt : codexWellFormed entry = false)
    (placed : (codexEntry py sessionId s entry).1.Placed) :
    (codexEntry py sessionId s entry).1.cwd = s.cwd := by
  by_cases isPayload : ∃ payload, codexPayload entry = .obj payload
  · obtain ⟨payload, isPayload⟩ := isPayload
    rw [codexEntry_payload isPayload] at placed ⊢
    rw [next_cwd]
    split
    · next first =>
      obtain ⟨event, unknown⟩ := first
      rw [Option.isNone_iff_eq_none] at unknown
      cases truthy : (get payload "cwd").truthy with
      | false => rw [if_neg Bool.false_ne_true, unknown]
      | true =>
        -- the session would be at a text, and its event not be corrupt
        obtain ⟨path, located⟩ := placed (get payload "cwd") (by
          rw [next_cwd, if_pos ⟨event, by rw [unknown]; rfl⟩, if_pos truthy])
        obtain empty | foreign := asks_of_corrupt corrupt isPayload
        · subst empty
          cases truthy
        · rw [event, CodexEvent.asks, located] at foreign
          cases foreign
    · rfl
  · rw [codexEntry_noPayload fun payload is => isPayload ⟨payload, is⟩]

/-- A corrupt event leaves the model as it is, or one that is no text. -/
theorem CodexAgree.apart (agree : CodexAgree s c) (corrupt : codexWellFormed entry = false) :
    CodexAgree (codexEntry py sessionId s entry).1 c := by
  refine ⟨agree.covers.apart, fun text named => ?_, fun placed => ?_⟩
  · by_cases isPayload : ∃ payload, codexPayload entry = .obj payload
    · obtain ⟨payload, isPayload⟩ := isPayload
      rw [codexEntry_payload isPayload, next_model] at named
      split at named
      · next turn =>
        cases asks_of_corrupt corrupt isPayload with
        | inl empty =>
          subst empty
          cases turn.2
        | inr foreign =>
          rw [turn.1] at foreign
          rw [CodexEvent.asks, Option.some.inj named] at foreign
          cases foreign
      · exact agree.model text named
    · rw [codexEntry_noPayload fun payload is => isPayload ⟨payload, is⟩] at named
      exact agree.model text named
  · have kept := cwd_of_corrupt corrupt placed
    refine (agree.cwd fun cwd located => placed cwd ?_).trans kept.symm
    rw [kept, located]

/-! ## Events, with and without the corrupt ones -/

/-- An event is another's, or a `token_count`. -/
theorem read_or (payload entry : Fields) (event : CodexEvent) :
    (∀ py sessionId s, event.read py sessionId s entry payload = .ok none) ∨
      event = .eventMsg ∧ (get payload "type").isText "token_count" = true ∧
        ∀ py sessionId s,
          event.read py sessionId s entry payload = tokenCount py sessionId s entry payload := by
  cases event with
  | eventMsg =>
    cases counted : (get payload "type").isText "token_count" with
    | true =>
      refine .inr ⟨rfl, rfl, fun py sessionId s => ?_⟩
      rw [CodexEvent.read, if_pos counted]
    | false =>
      refine .inl fun py sessionId s => ?_
      rw [CodexEvent.read, counted, if_neg Bool.false_ne_true]
  | _ => exact .inl fun py sessionId s => rfl

theorem codex_kept (agree : CodexAgree s c) (harmless : CodexHarmless py s entry) :
    ((codexEntry py sessionId s entry).2 = .ok none ∧
        (codexWellFormed entry = true → (codexEntry py sessionId c entry).2 = .ok none)) ∨
      ∃ b b', (codexEntry py sessionId s entry).2 = .ok (some b) ∧
        (codexEntry py sessionId c entry).2 = .ok (some b') ∧ Tool.same .codex b b' ∧ b.Fits ∧
          codexWellFormed entry ≠ false := by
  by_cases isPayload : ∃ payload, codexPayload entry = .obj payload
  · obtain ⟨payload, isPayload⟩ := isPayload
    rw [codexEntry_payload isPayload, codexEntry_payload isPayload]
    obtain skipped | ⟨event, counted, reads⟩ := read_or payload entry (codexEvent entry)
    · exact .inl ⟨skipped py sessionId s, fun _ => skipped py sessionId c⟩
    · dsimp only
      rw [reads, reads]
      obtain ⟨none, none'⟩ | ⟨b, b', read, read', same, fit, wellFormed, filled⟩ :=
        @tokenCount_kept py sessionId s c entry payload agree
          (harmless.2 payload isPayload event counted)
      · exact .inl ⟨none, fun _ => none'⟩
      · refine .inr ⟨b, b', read, read', same, fit, fun corrupt => ?_⟩
        obtain empty | foreign := asks_of_corrupt corrupt isPayload
        · exact filled empty
        · rw [event, CodexEvent.asks, counted, wellFormed] at foreign
          cases foreign
  · have unseen : ¬ (codexEvent entry).looks s = true := fun looks => isPayload (harmless.1 looks)
    rw [codexEntry_noPayload fun payload is => isPayload ⟨payload, is⟩, if_neg unseen]
    refine .inl ⟨rfl, fun wellFormed => ?_⟩
    obtain other | ⟨payload, is, -⟩ := codexWellFormed_asks wellFormed
    · rw [codexEntry_other other]
    · exact absurd ⟨payload, is⟩ isPayload

theorem codex_passed (agree : CodexAgree s c) (harmless : CodexHarmless py s entry)
    (corrupt : codexWellFormed entry = false) : (codexEntry py sessionId s entry).2 = .ok none := by
  obtain ⟨none, -⟩ | ⟨_, _, -, -, -, -, wellFormed⟩ := @codex_kept py sessionId s c entry agree harmless
  · exact none
  · exact absurd corrupt wellFormed

theorem codex_caught (harmful : ¬ CodexHarmless py s entry) :
    (∃ error, (codexEntry py sessionId s entry).2 = .error error) ∨
      ∃ b, (codexEntry py sessionId s entry).2 = .ok (some b) ∧
        (b.Fits → codexWellFormed entry = true → ¬ b.Native) := by
  by_cases isPayload : ∃ payload, codexPayload entry = .obj payload
  · obtain ⟨payload, isPayload⟩ := isPayload
    rw [CodexHarmless, not_and] at harmful
    have harmful := harmful fun _ => ⟨payload, isPayload⟩
    simp only [not_forall] at harmful
    obtain ⟨payload', is', event, counted, harmful⟩ := harmful
    cases isPayload.symm.trans is'
    rw [codexEntry_payload isPayload, event]
    simp only [CodexEvent.read, if_pos counted]
    refine (tokenCount_caught harmful).imp_right fun ⟨b, read, foreign⟩ => ⟨b, read, fun fit wellFormed => ?_⟩
    obtain other | ⟨payload', is', asks⟩ := codexWellFormed_asks wellFormed
    · rw [event] at other
      cases other
    · cases isPayload.symm.trans is'
      rw [event, CodexEvent.asks, counted] at asks
      exact foreign fit asks
  · have looks : (codexEvent entry).looks s = true := by
      by_contra unseen
      exact harmful ⟨fun looks => absurd looks unseen,
        fun payload is => absurd ⟨payload, is⟩ isPayload⟩
    rw [codexEntry_noPayload fun payload is => isPayload ⟨payload, is⟩, if_pos looks]
    exact .inl ⟨_, rfl⟩

theorem codex_gives {b : Billable} (covers : CodexCovers s c)
    (wellFormed : codexWellFormed entry = true)
    (read : (codexEntry py sessionId c entry).2 = .ok (some b)) :
    b.Native ∧ (codexEntry py sessionId s entry).2 ≠ .ok none := by
  obtain other | ⟨payload, isPayload, -⟩ := codexWellFormed_asks wellFormed
  · rw [codexEntry_other other] at read
    cases read
  · rw [codexEntry_payload isPayload] at read ⊢
    obtain skipped | ⟨-, -, reads⟩ := read_or payload entry (codexEvent entry)
    · cases (skipped py sessionId c).symm.trans read
    · dsimp only at read ⊢
      rw [reads] at read ⊢
      exact tokenCount_gives covers read

def codexTolerance (py : Python) (sessionId : Str) : Tolerance (codexReader py sessionId) where
  harmless s _ := CodexHarmless py s
  same := Tool.same .codex
  fits := Billable.Fits
  native := Billable.Native
  agree := CodexAgree
  covers := CodexCovers
  covers_of_agree agree := agree.covers
  kept agree harmless wellFormed := by
    refine ⟨?_, agree.onward wellFormed⟩
    obtain ⟨none, none'⟩ | ⟨b, b', read, read', same, fit, -⟩ := codex_kept agree harmless
    · exact .inl ⟨none, none' wellFormed⟩
    · exact .inr ⟨b, b', read, read', same, fit⟩
  passed agree harmless corrupt := ⟨codex_passed agree harmless corrupt, agree.apart corrupt⟩
  caught _ harmful := by
    refine (codex_caught harmful).imp_right fun ⟨b, read, foreign⟩ =>
      ⟨b, read, fun fit wellFormed => .inr fun b' ⟨model, native⟩ same => ?_⟩
    refine foreign fit wellFormed ⟨model, ?_⟩
    rw [← native, ← show _ = b' from same]
  gives covers wellFormed read := codex_gives covers wellFormed read
  onward covers wellFormed := covers.onward wellFormed
  apart covers _ := covers.apart

end BurnLens.Scan
