import BurnLens.Scan.LogFiles

/-! # Corrupt entries of session files

The readers pass over what is no JSON, and no object, and then take the fields of an entry as they
come: a count that is no number raises, and so does a timestamp that is no text, and with it ends
the scan.  Which entries are harmless is said here for each format.
-/

namespace BurnLens.Scan

open Library Cost Storage

/-! ## Numbers of tokens -/

/-- The number of tokens in a field of a well-formed entry. -/
def tokensOf (fields : Fields) (name : Str) : Int := (tokenNumber (get fields name)).getD 0

/-- The counts fit the columns of the table, and the texts can be encoded. -/
structure Billable.Fits (b : Billable) : Prop where
  counts : ∀ n ∈ [b.inputTokens, b.outputTokens, b.reasoningTokens, b.cacheReadTokens,
    b.cacheWriteTokens], bindable (.int n) = true
  encodable : b.encodable = true

def Billable.Native (b : Billable) : Prop := ∃ model, b.model = .str model

/-- The counts of these names, as they are converted. -/
def Converts (py : Python) (fields : Fields) : List Str → List Int → Prop :=
  List.Forall₂ fun name n => py.count fields name = .ok n

variable {py : Python} {fields : Fields} {name : Str} {names : List Str} {value : Json}

theorem count_of_tokenNumber {n : Int} (number : tokenNumber (get fields name) = some n) :
    py.count fields name = .ok n := by
  unfold get Fields.getD at number
  unfold Python.count Fields.getD
  cases found : fields.get? name with
  | none =>
    rw [found] at number
    cases number
    rfl
  | some value =>
    rw [found, Option.getD_some] at number
    rw [Option.getD_some]
    cases value with
    | null =>
      cases number
      rfl
    | int m =>
      cases number
      by_cases zero : n = 0
      · subst zero
        rfl
      · have truthy : (Json.int n).truthy = true := decide_eq_true zero
        rw [Json.orElse, if_pos truthy]
        rfl
    | float x =>
      cases x with
      | fin x =>
        cases number
        by_cases zero : x = 0
        · subst zero
          rfl
        · have truthy : (Json.float (.fin x)).truthy = true := decide_eq_true zero
          rw [Json.orElse, if_pos truthy]
          rfl
      | _ => cases number
    | _ => cases number

theorem tokenNumber_of_areTokens (are : areTokens names (.obj fields) = true)
    (member : name ∈ names) : tokenNumber (get fields name) = some (tokensOf fields name) := by
  have some := List.all_eq_true.mp are name member
  obtain ⟨n, number⟩ := Option.isSome_iff_exists.mp some
  rw [tokensOf, number, Option.getD_some]

theorem count_of_areTokens (are : areTokens names (.obj fields) = true) (member : name ∈ names) :
    py.count fields name = .ok (tokensOf fields name) :=
  count_of_tokenNumber (tokenNumber_of_areTokens are member)

theorem checkTimestamp_of_plain (plain : isPlain value = true) : checkTimestamp value = .ok () := by
  cases value with
  | null => rfl
  | str text =>
    rw [checkTimestamp]
    split <;> rfl
  | _ => cases plain

theorem str_of_plain (plain : isPlain value = true) (truthy : value.truthy = true) :
    ∃ text, value = .str text := by
  cases value with
  | null => cases truthy
  | str text => exact ⟨text, rfl⟩
  | _ => cases plain

/-! ## Claude Code -/

/-- The entry is one that is billed. -/
structure ClaudeBilled (entry message usage : Fields) : Prop where
  assistant : (get entry "type").isText "assistant" = true
  isMessage : get entry "message" = .obj message
  isUsage : get message "usage" = .obj usage
  model : (get message "model").truthy = true
  real : (get message "model").isText "<synthetic>" = false
  identified : (get message "id").truthy = true

/-- An entry that is billed is well formed, and can be stored. -/
def ClaudeHarmless (py : Python) (entry : Fields) : Prop :=
  ∀ message usage, ClaudeBilled entry message usage → claudeWellFormed entry = true ∧
    (∀ name ∈ claudeCounts, bindable (.int (tokensOf usage name)) = true) ∧
      py.encodable [.str (py.str (get message "id")), get message "model"] = true

section

variable {entry message usage : Fields}

theorem claudeEntry_billed (billed : ClaudeBilled entry message usage) :
    claudeEntry py entry = (do
      let inputTokens ← py.count usage "input_tokens"
      let outputTokens ← py.count usage "output_tokens"
      let cacheReadTokens ← py.count usage "cache_read_input_tokens"
      let cacheWriteTokens ← py.count usage "cache_creation_input_tokens"
      checkTimestamp (get entry "timestamp")
      return some
        { requestId := py.str (get message "id"), model := get message "model", inputTokens
          outputTokens, cacheReadTokens, cacheWriteTokens
          encodable := py.encodable [.str (py.str (get message "id")), get message "model"] }) := by
  simp only [claudeEntry, billed.assistant, billed.isMessage, billed.isUsage, billed.model, billed.real,
    billed.identified, Bool.not_true, Bool.or_self, Bool.false_eq_true, if_false]

theorem claudeEntry_unbilled (unbilled : ¬ ∃ message usage, ClaudeBilled entry message usage) :
    claudeEntry py entry = .ok none := by
  unfold claudeEntry
  cases assistant : (get entry "type").isText "assistant" with
  | false => rfl
  | true =>
    cases isMessage : get entry "message" with
    | obj message =>
      cases isUsage : get message "usage" with
      | obj usage =>
        have skipped : (!(get message "model").truthy || (get message "model").isText "<synthetic>" ||
            !(get message "id").truthy) = true := by
          by_contra kept
          simp only [Bool.or_eq_true, Bool.not_eq_true', not_or, Bool.not_eq_false, Bool.not_eq_true]
            at kept
          exact unbilled ⟨message, usage, assistant, isMessage, isUsage, kept.1.1, kept.1.2, kept.2⟩
        simp only [isUsage, skipped, Bool.not_true, Bool.false_eq_true, if_false, if_true]
      | _ => simp only [isUsage, Bool.not_true, Bool.false_eq_true, if_false]
    | _ => rfl

theorem claudeWellFormed_billed (billed : ClaudeBilled entry message usage)
    (wellFormed : claudeWellFormed entry = true) :
    isPlain (get message "model") = true ∧ areTokens claudeCounts (.obj usage) = true ∧
      isPlain (get entry "timestamp") = true := by
  simp only [claudeWellFormed, billed.assistant, billed.isMessage, billed.isUsage, Bool.not_true,
    Bool.false_or, Bool.and_eq_true] at wellFormed
  exact ⟨wellFormed.1.1.1, wellFormed.1.2, wellFormed.2⟩

/-- A well-formed entry that is billed gives a record with its numbers. -/
theorem claudeEntry_wellFormed (billed : ClaudeBilled entry message usage)
    (wellFormed : claudeWellFormed entry = true) :
    claudeEntry py entry = .ok (some
      { requestId := py.str (get message "id"), model := get message "model"
        inputTokens := tokensOf usage "input_tokens", outputTokens := tokensOf usage "output_tokens"
        cacheReadTokens := tokensOf usage "cache_read_input_tokens"
        cacheWriteTokens := tokensOf usage "cache_creation_input_tokens"
        encodable := py.encodable [.str (py.str (get message "id")), get message "model"] }) := by
  obtain ⟨-, tokens, timestamp⟩ := claudeWellFormed_billed billed wellFormed
  have counts : ∀ name ∈ claudeCounts, py.count usage name = .ok (tokensOf usage name) :=
    fun name member => count_of_areTokens tokens member
  simp only [claudeCounts, List.forall_mem_cons] at counts
  obtain ⟨input, output, cacheRead, cacheWrite, -⟩ := counts
  rw [claudeEntry_billed billed, input, output, cacheRead, cacheWrite,
    checkTimestamp_of_plain timestamp]
  rfl

theorem claudeEntry_given (billed : ClaudeBilled entry message usage) :
    (∃ error, claudeEntry py entry = .error error) ∨ ∃ b, claudeEntry py entry = .ok (some b) := by
  cases read : claudeEntry py entry with
  | error error => exact .inl ⟨error, rfl⟩
  | ok found =>
    rw [claudeEntry_billed billed] at read
    simp only [bind_eq_ok] at read
    obtain ⟨_, -, _, -, _, -, _, -, _, -, given⟩ := read
    cases given
    exact .inr ⟨_, rfl⟩

theorem fits_four {b : Billable} (noReasoning : b.reasoningTokens = 0) :
    b.Fits ↔ (∀ n ∈ [b.inputTokens, b.outputTokens, b.cacheReadTokens, b.cacheWriteTokens],
      bindable (.int n) = true) ∧ b.encodable = true := by
  have zero : bindable (.int b.reasoningTokens) = true := by
    rw [noReasoning]
    rfl
  have counts : (∀ n ∈ [b.inputTokens, b.outputTokens, b.reasoningTokens, b.cacheReadTokens,
      b.cacheWriteTokens], bindable (.int n) = true) ↔
        ∀ n ∈ [b.inputTokens, b.outputTokens, b.cacheReadTokens, b.cacheWriteTokens],
          bindable (.int n) = true := by
    simp only [List.forall_mem_cons, zero, true_and]
  exact ⟨fun fits => ⟨counts.mp fits.counts, fits.encodable⟩,
    fun ⟨four, encodable⟩ => ⟨counts.mpr four, encodable⟩⟩

theorem claude_counts {usage : Fields} {P : Int → Prop} :
    (∀ n ∈ [tokensOf usage "input_tokens", tokensOf usage "output_tokens",
        tokensOf usage "cache_read_input_tokens", tokensOf usage "cache_creation_input_tokens"], P n) ↔
      ∀ name ∈ claudeCounts, P (tokensOf usage name) := by
  simp only [claudeCounts, List.forall_mem_cons, List.not_mem_nil, false_implies, implies_true]

theorem claude_kept (harmless : ClaudeHarmless py entry) (wellFormed : claudeWellFormed entry = true) :
    claudeEntry py entry = .ok none ∨ ∃ b, claudeEntry py entry = .ok (some b) ∧ b.Fits := by
  by_cases billed : ∃ message usage, ClaudeBilled entry message usage
  · obtain ⟨message, usage, billed⟩ := billed
    obtain ⟨-, fit, encodable⟩ := harmless message usage billed
    exact .inr ⟨_, claudeEntry_wellFormed billed wellFormed,
      (fits_four rfl).mpr ⟨claude_counts.mpr fit, encodable⟩⟩
  · exact .inl (claudeEntry_unbilled billed)

theorem claude_passed (harmless : ClaudeHarmless py entry) (corrupt : claudeWellFormed entry = false) :
    claudeEntry py entry = .ok none := by
  refine claudeEntry_unbilled fun ⟨message, usage, billed⟩ => ?_
  have wellFormed := (harmless message usage billed).1
  rw [corrupt] at wellFormed
  cases wellFormed

theorem claude_caught (harmful : ¬ ClaudeHarmless py entry) :
    (∃ error, claudeEntry py entry = .error error) ∨
      ∃ b, claudeEntry py entry = .ok (some b) ∧ (b.Fits → claudeWellFormed entry = false) := by
  simp only [ClaudeHarmless, not_forall] at harmful
  obtain ⟨message, usage, billed, wrong⟩ := harmful
  refine (claudeEntry_given billed).imp_right fun ⟨b, read⟩ => ⟨b, read, fun fit => ?_⟩
  by_contra wellFormed
  rw [Bool.not_eq_false] at wellFormed
  rw [claudeEntry_wellFormed billed wellFormed] at read
  cases read
  obtain ⟨counts, encodable⟩ := (fits_four rfl).mp fit
  exact wrong ⟨wellFormed, claude_counts.mp counts, encodable⟩

theorem claude_native {b : Billable} (wellFormed : claudeWellFormed entry = true)
    (read : claudeEntry py entry = .ok (some b)) : b.Native := by
  by_cases billed : ∃ message usage, ClaudeBilled entry message usage
  · obtain ⟨message, usage, billed⟩ := billed
    rw [claudeEntry_wellFormed billed wellFormed] at read
    cases read
    exact str_of_plain (claudeWellFormed_billed billed wellFormed).1 billed.model
  · rw [claudeEntry_unbilled billed] at read
    cases read

end

/-- What is read of an entry does not depend on those before it. -/
def claudeTolerance (py : Python) : Tolerance (claudeReader py) :=
  .exact (fun _ => ClaudeHarmless py) Billable.Fits Billable.Native claude_kept
    (fun harmless corrupt => congrArg (Prod.mk _) (claude_passed harmless corrupt)) claude_caught
    fun wellFormed read => ⟨claude_native wellFormed read, fun skipped =>
      Option.some_ne_none _ (Except.ok.inj (read.symm.trans skipped))⟩

/-! ## Gemini CLI -/

/-- The counts of the message are read. -/
structure GeminiAsked (msg tokens : Fields) : Prop where
  isTokens : get msg "tokens" = .obj tokens
  model : (get msg "model").truthy = true

/-- `msg.get("id") or turn_ordinal`. -/
def geminiMessageId (ordinal : Nat) (msg : Fields) : Json :=
  (get msg "id").orElse (.str (decimal ordinal))

/-- A message whose counts are read has numbers there; and one that is billed is well formed, can be
    stored, and has an identifier, or the same ordinal with and without the corrupt ones. -/
def GeminiHarmless (py : Python) (s c : Nat) (msg : Fields) : Prop :=
  ∀ tokens, GeminiAsked msg tokens → ∃ input output cached thoughts,
    Converts py tokens geminiCounts [input, output, cached, thoughts] ∧
      (input + output + thoughts ≠ 0 → geminiMessageWellFormed msg = true ∧
        ((∀ n ∈ [input, output, cached, thoughts], bindable (.int n) = true) ∧
          py.encodable [.str (py.str (geminiMessageId s msg)), get msg "model"] = true) ∧
            (s = c ∨ (get msg "id").truthy = true))

section

variable {sessionId : Str} {s c : Nat} {msg tokens : Fields} {input output cached thoughts : Int}

theorem geminiMessage_unasked (unasked : ¬ ∃ tokens, GeminiAsked msg tokens) :
    geminiMessage py sessionId s msg = .ok none := by
  unfold geminiMessage
  cases isTokens : get msg "tokens" with
  | obj tokens =>
    have noModel : (get msg "model").truthy = false := by
      by_contra model
      exact unasked ⟨tokens, isTokens, Bool.not_eq_false _ ▸ model⟩
    simp only [noModel, Bool.not_false, if_true]
    rfl
  | _ => rfl

theorem geminiMessage_converts {found : Option Billable} (asked : GeminiAsked msg tokens)
    (read : geminiMessage py sessionId s msg = .ok found) :
    ∃ input output cached thoughts,
      Converts py tokens geminiCounts [input, output, cached, thoughts] := by
  unfold geminiMessage at read
  rw [asked.isTokens] at read
  simp only [asked.model, Bool.not_true, Bool.false_eq_true, if_false, bind_eq_ok] at read
  obtain ⟨input, readInput, output, readOutput, cached, readCached, thoughts, readThoughts, -⟩ := read
  exact ⟨input, output, cached, thoughts,
    .cons readInput (.cons readOutput (.cons readCached (.cons readThoughts .nil)))⟩

/-- The record of a message with these counts. -/
def geminiBillable (py : Python) (sessionId : Str) (ordinal : Nat) (msg : Fields)
    (input output cached thoughts : Int) : Billable where
  requestId := sessionId ++ ":" ++ py.str (geminiMessageId ordinal msg)
  model := get msg "model"
  inputTokens := input
  outputTokens := output
  reasoningTokens := thoughts
  cacheReadTokens := cached
  encodable := py.encodable [.str (py.str (geminiMessageId ordinal msg)), get msg "model"]

theorem geminiMessage_asked (asked : GeminiAsked msg tokens)
    (converts : Converts py tokens geminiCounts [input, output, cached, thoughts]) :
    geminiMessage py sessionId s msg =
      if input + output + thoughts = 0 then .ok none
      else (checkTimestamp (get msg "timestamp")).map fun _ =>
        some (geminiBillable py sessionId s msg input output cached thoughts) := by
  simp only [Converts, geminiCounts, List.forall₂_cons] at converts
  obtain ⟨readInput, readOutput, readCached, readThoughts, -⟩ := converts
  unfold geminiMessage
  rw [asked.isTokens]
  simp only [asked.model, Bool.not_true, Bool.false_eq_true, if_false, readInput, readOutput, readCached,
    readThoughts, bind, Except.bind]
  split
  · rfl
  · cases checkTimestamp (get msg "timestamp") with
    | error error => rfl
    | ok done => rfl

theorem geminiBillable_fits : (geminiBillable py sessionId s msg input output cached thoughts).Fits ↔
    (∀ n ∈ [input, output, cached, thoughts], bindable (.int n) = true) ∧
      py.encodable [.str (py.str (geminiMessageId s msg)), get msg "model"] = true := by
  have zero : bindable (.int 0) = true := rfl
  have counts : (∀ n ∈ [input, output, thoughts, cached, 0], bindable (.int n) = true) ↔
      ∀ n ∈ [input, output, cached, thoughts], bindable (.int n) = true := by
    simp only [List.forall_mem_cons, zero, List.not_mem_nil, false_implies, implies_true, and_true]
    tauto
  exact ⟨fun fits => ⟨counts.mp fits.counts, fits.encodable⟩,
    fun fine => ⟨counts.mpr fine.1, fine.2⟩⟩

theorem geminiMessageWellFormed_iff : geminiMessageWellFormed msg = true ↔
    areTokens geminiCounts (get msg "tokens") = true ∧ isPlain (get msg "model") = true ∧
      isPlain (get msg "timestamp") = true ∧ isPlain (get msg "id") = true := by
  rw [geminiMessageWellFormed, Bool.and_eq_true, Bool.and_eq_true, Bool.and_eq_true, and_assoc,
    and_assoc]

/-- A well-formed message that is billed gives its record under any ordinal. -/
theorem geminiMessage_wellFormed (asked : GeminiAsked msg tokens)
    (converts : Converts py tokens geminiCounts [input, output, cached, thoughts])
    (billed : input + output + thoughts ≠ 0) (wellFormed : geminiMessageWellFormed msg = true)
    (ordinal : Nat) :
    geminiMessage py sessionId ordinal msg =
      .ok (some (geminiBillable py sessionId ordinal msg input output cached thoughts)) := by
  obtain ⟨-, -, timestamp, -⟩ := geminiMessageWellFormed_iff.mp wellFormed
  rw [geminiMessage_asked asked converts, if_neg billed, checkTimestamp_of_plain timestamp]
  rfl

theorem gemini_kept (harmless : GeminiHarmless py s c msg) :
    (geminiMessage py sessionId s msg = .ok none ∧ geminiMessage py sessionId c msg = .ok none) ∨
      ∃ b, geminiMessage py sessionId s msg = .ok (some b) ∧
        geminiMessage py sessionId c msg = .ok (some b) ∧ b.Fits ∧ geminiMessageWellFormed msg = true := by
  by_cases asked : ∃ tokens, GeminiAsked msg tokens
  · obtain ⟨tokens, asked⟩ := asked
    obtain ⟨input, output, cached, thoughts, converts, fine⟩ := harmless tokens asked
    by_cases billed : input + output + thoughts = 0
    · rw [geminiMessage_asked asked converts, geminiMessage_asked asked converts, if_pos billed, if_pos billed]
      exact .inl ⟨rfl, rfl⟩
    · obtain ⟨wellFormed, fit, identified⟩ := fine billed
      have same : geminiBillable py sessionId s msg input output cached thoughts =
          geminiBillable py sessionId c msg input output cached thoughts := by
        obtain rfl | identified := identified
        · rfl
        · simp only [geminiBillable, geminiMessageId, Json.orElse, if_pos identified]
      refine .inr ⟨_, geminiMessage_wellFormed asked converts billed wellFormed s, ?_,
        geminiBillable_fits.mpr fit, wellFormed⟩
      rw [same]
      exact geminiMessage_wellFormed asked converts billed wellFormed c
  · rw [geminiMessage_unasked asked, geminiMessage_unasked asked]
    exact .inl ⟨rfl, rfl⟩

theorem gemini_passed (harmless : GeminiHarmless py s c msg)
    (corrupt : geminiMessageWellFormed msg = false) : geminiMessage py sessionId s msg = .ok none := by
  obtain ⟨none, -⟩ | ⟨_, -, -, -, wellFormed⟩ := @gemini_kept py sessionId s c msg harmless
  · exact none
  · rw [corrupt] at wellFormed
    cases wellFormed

theorem geminiBillable_ordinal (strText : ∀ text, py.str (.str text) = text)
    (unidentified : ¬ (get msg "id").truthy = true) (other : s ≠ c) :
    geminiBillable py sessionId s msg input output cached thoughts ≠
      geminiBillable py sessionId c msg input output cached thoughts := by
  intro same
  have ids := congrArg Billable.requestId same
  simp only [geminiBillable, geminiMessageId, Json.orElse, if_neg unidentified, strText] at ids
  exact other (decimal_injective (List.append_cancel_left ids))

theorem gemini_caught (strText : ∀ text, py.str (.str text) = text)
    (harmful : ¬ GeminiHarmless py s c msg) :
    (∃ error, geminiMessage py sessionId s msg = .error error) ∨
      ∃ b, geminiMessage py sessionId s msg = .ok (some b) ∧
        (b.Fits → geminiMessageWellFormed msg = true →
          ∃ b', geminiMessage py sessionId c msg = .ok (some b') ∧ b ≠ b') := by
  simp only [GeminiHarmless, not_forall] at harmful
  obtain ⟨tokens, asked, harmful⟩ := harmful
  cases read : geminiMessage py sessionId s msg with
  | error error => exact .inl ⟨error, rfl⟩
  | ok found =>
    obtain ⟨input, output, cached, thoughts, converts⟩ := geminiMessage_converts asked read
    have wrong := fun fine => harmful ⟨input, output, cached, thoughts, converts, fine⟩
    have billed : input + output + thoughts ≠ 0 := fun zero => wrong fun nonzero => absurd zero nonzero
    rw [geminiMessage_asked asked converts, if_neg billed] at read
    cases timestamp : checkTimestamp (get msg "timestamp") with
    | error error =>
      rw [timestamp] at read
      cases read
    | ok done =>
      rw [timestamp] at read
      cases read
      refine .inr ⟨_, rfl, fun fit wellFormed => ⟨_, geminiMessage_wellFormed asked converts billed
        wellFormed c, ?_⟩⟩
      have unidentified : ¬ (s = c ∨ (get msg "id").truthy = true) := fun identified =>
        wrong fun _ => ⟨wellFormed, geminiBillable_fits.mp fit, identified⟩
      rw [not_or] at unidentified
      exact geminiBillable_ordinal strText unidentified.2 unidentified.1

theorem gemini_gives {b : Billable} (wellFormed : geminiMessageWellFormed msg = true)
    (read : geminiMessage py sessionId c msg = .ok (some b)) :
    b.Native ∧ geminiMessage py sessionId s msg ≠ .ok none := by
  by_cases asked : ∃ tokens, GeminiAsked msg tokens
  · obtain ⟨tokens, asked⟩ := asked
    obtain ⟨input, output, cached, thoughts, converts⟩ := geminiMessage_converts asked read
    by_cases billed : input + output + thoughts = 0
    · rw [geminiMessage_asked asked converts, if_pos billed] at read
      cases read
    · rw [geminiMessage_wellFormed asked converts billed wellFormed] at read ⊢
      cases read
      have plain := (geminiMessageWellFormed_iff.mp wellFormed).2.1
      exact ⟨str_of_plain plain asked.model, fun skipped => by cases skipped⟩
  · rw [geminiMessage_unasked asked] at read
    cases read

end

/-- A line is read as a message, unless it is a mutation, or of another type. -/
def GeminiLineHarmless (py : Python) (s : Nat) (entry : Fields) : Prop :=
  entry.has "$set" = false → (get entry "type").isText "gemini" = true →
    GeminiHarmless py s s entry

section

variable {sessionId : Str} {s c : Nat} {entry : Fields}

theorem geminiEntry_passed (other : entry.has "$set" = true ∨
    (get entry "type").isText "gemini" = false) :
    geminiEntry py sessionId s entry = (s, .ok none) ∧ geminiWellFormed entry = true := by
  unfold geminiEntry geminiWellFormed
  obtain mutation | other := other
  · rw [mutation]
    exact ⟨rfl, rfl⟩
  · rw [other, Bool.not_false, Bool.or_true]
    exact ⟨rfl, rfl⟩

theorem geminiEntry_read (record : entry.has "$set" = false)
    (gemini : (get entry "type").isText "gemini" = true) :
    (geminiEntry py sessionId s entry).2 = geminiMessage py sessionId s entry ∧
      (geminiMessage py sessionId s entry = .ok none →
        geminiEntry py sessionId s entry = (s, .ok none)) ∧
      geminiWellFormed entry = geminiMessageWellFormed entry := by
  unfold geminiEntry geminiWellFormed
  rw [record, gemini]
  simp only [Bool.not_true, Bool.or_self, Bool.false_eq_true, if_false, Bool.false_or, and_true]
  constructor
  · split <;> rfl
  · intro none
    rw [none]

theorem gemini_or (entry : Fields) :
    (entry.has "$set" = true ∨ (get entry "type").isText "gemini" = false) ∨
      entry.has "$set" = false ∧ (get entry "type").isText "gemini" = true := by
  cases entry.has "$set" with
  | true => exact .inl (.inl rfl)
  | false =>
    cases (get entry "type").isText "gemini" with
    | true => exact .inr ⟨rfl, rfl⟩
    | false => exact .inl (.inr rfl)

theorem geminiLine_kept (harmless : GeminiLineHarmless py s entry) :
    (geminiEntry py sessionId s entry).2 = .ok none ∨
      ∃ b, (geminiEntry py sessionId s entry).2 = .ok (some b) ∧ b.Fits := by
  obtain other | ⟨record, gemini⟩ := gemini_or entry
  · rw [(geminiEntry_passed other).1]
    exact .inl rfl
  · rw [(geminiEntry_read record gemini).1]
    obtain ⟨none, -⟩ | ⟨b, read, -, fit, -⟩ :=
      @gemini_kept py sessionId s s entry (harmless record gemini)
    · exact .inl none
    · exact .inr ⟨b, read, fit⟩

theorem geminiLine_passed (harmless : GeminiLineHarmless py s entry)
    (corrupt : geminiWellFormed entry = false) :
    geminiEntry py sessionId s entry = (s, .ok none) := by
  obtain other | ⟨record, gemini⟩ := gemini_or entry
  · exact (geminiEntry_passed other).1
  · obtain ⟨-, passes, same⟩ := @geminiEntry_read py sessionId s entry record gemini
    exact passes (gemini_passed (harmless record gemini) (same ▸ corrupt))

theorem geminiLine_caught (strText : ∀ text, py.str (.str text) = text)
    (harmful : ¬ GeminiLineHarmless py s entry) :
    (∃ error, (geminiEntry py sessionId s entry).2 = .error error) ∨
      ∃ b, (geminiEntry py sessionId s entry).2 = .ok (some b) ∧
        (b.Fits → geminiWellFormed entry = false) := by
  simp only [GeminiLineHarmless, not_forall] at harmful
  obtain ⟨record, gemini, harmful⟩ := harmful
  obtain ⟨reads, -, same⟩ := @geminiEntry_read py sessionId s entry record gemini
  rw [reads, same]
  refine (gemini_caught strText harmful).imp_right fun ⟨b, read, wrong⟩ => ⟨b, read, fun fit => ?_⟩
  by_contra wellFormed
  obtain ⟨b', read', other⟩ := wrong fit (Bool.not_eq_false _ ▸ wellFormed)
  rw [read] at read'
  cases read'
  exact other rfl

theorem geminiLine_gives {b : Billable} (wellFormed : geminiWellFormed entry = true)
    (read : (geminiEntry py sessionId c entry).2 = .ok (some b)) :
    b.Native ∧ (geminiEntry py sessionId s entry).2 ≠ .ok none := by
  obtain other | ⟨record, gemini⟩ := gemini_or entry
  · rw [(geminiEntry_passed other).1] at read
    cases read
  · obtain ⟨reads, -, same⟩ := @geminiEntry_read py sessionId s entry record gemini
    rw [(geminiEntry_read record gemini).1] at read
    rw [reads]
    exact gemini_gives (same ▸ wellFormed) read

end

/-- Of the lines, only records are counted. -/
def geminiTolerance (py : Python) (strText : ∀ text, py.str (.str text) = text) (sessionId : Str) :
    Tolerance (geminiReader py sessionId) :=
  .exact (GeminiLineHarmless py) Billable.Fits Billable.Native
    (fun harmless _ => geminiLine_kept harmless) geminiLine_passed (geminiLine_caught strText)
    geminiLine_gives

/-! ### Documents -/

/-- A message of a document, which counts also those that are no records. -/
def MessageHarmless (py : Python) (s c : Nat) : Json → Prop
  | .obj msg => (get msg "type").isText "gemini" = true → GeminiHarmless py s c msg
  | _ => True

section

variable {sessionId : Str} {s c : Nat} {message : Json}

theorem message_or (message : Json) :
    (∀ py sessionId s, ((messageReader py sessionId).step s message).2 = .ok none) ∧
        (∀ py s c, MessageHarmless py s c message) ∨
      ∃ msg, message = .obj msg ∧ (get msg "type").isText "gemini" = true := by
  cases message with
  | obj msg =>
    cases gemini : (get msg "type").isText "gemini" with
    | true => exact .inr ⟨msg, rfl, gemini⟩
    | false =>
      refine .inl ⟨fun py sessionId s => ?_, fun py s c => ?_⟩
      · simp only [messageReader, gemini, Bool.false_eq_true, if_false]
      · simp only [MessageHarmless, gemini, Bool.false_eq_true, false_implies]
  | _ => exact .inl ⟨fun _ _ _ => rfl, fun _ _ _ => trivial⟩

theorem messageReader_read {msg : Fields} (gemini : (get msg "type").isText "gemini" = true) :
    ((messageReader py sessionId).step s (.obj msg)).2 = geminiMessage py sessionId s msg := by
  simp only [messageReader, gemini, if_true]

theorem messageReader_wellFormed {msg : Fields} (gemini : (get msg "type").isText "gemini" = true) :
    (messageReader py sessionId).wellFormed (.obj msg) = geminiMessageWellFormed msg := by
  simp only [messageReader, gemini, Bool.not_true, Bool.false_or]

theorem message_kept (harmless : MessageHarmless py s c message) :
    (((messageReader py sessionId).step s message).2 = .ok none ∧
        ((messageReader py sessionId).step c message).2 = .ok none) ∨
      ∃ b b', ((messageReader py sessionId).step s message).2 = .ok (some b) ∧
        ((messageReader py sessionId).step c message).2 = .ok (some b') ∧ b = b' ∧ b.Fits := by
  obtain ⟨skipped, -⟩ | ⟨msg, rfl, gemini⟩ := message_or message
  · exact .inl ⟨skipped py sessionId s, skipped py sessionId c⟩
  · rw [messageReader_read gemini, messageReader_read gemini]
    refine (gemini_kept (harmless gemini)).imp_right fun ⟨b, read, alone, fit, _⟩ => ?_
    exact ⟨b, b, read, alone, rfl, fit⟩

theorem message_passed (harmless : MessageHarmless py s c message)
    (corrupt : (messageReader py sessionId).wellFormed message = false) :
    ((messageReader py sessionId).step s message).2 = .ok none := by
  obtain ⟨skipped, -⟩ | ⟨msg, rfl, gemini⟩ := message_or message
  · exact skipped py sessionId s
  · rw [messageReader_wellFormed gemini] at corrupt
    rw [messageReader_read gemini]
    exact gemini_passed (harmless gemini) corrupt

theorem message_caught (strText : ∀ text, py.str (.str text) = text)
    (harmful : ¬ MessageHarmless py s c message) :
    (∃ error, ((messageReader py sessionId).step s message).2 = .error error) ∨
      ∃ b, ((messageReader py sessionId).step s message).2 = .ok (some b) ∧
        (b.Fits → (messageReader py sessionId).wellFormed message = true →
          ∃ b', ((messageReader py sessionId).step c message).2 = .ok (some b') ∧ b ≠ b') := by
  obtain ⟨-, harmless⟩ | ⟨msg, rfl, gemini⟩ := message_or message
  · exact absurd (harmless py s c) harmful
  · rw [messageReader_read gemini, messageReader_read gemini, messageReader_wellFormed gemini]
    exact gemini_caught strText fun harmless => harmful fun _ => harmless

theorem message_gives {b : Billable} (wellFormed : (messageReader py sessionId).wellFormed message = true)
    (read : ((messageReader py sessionId).step c message).2 = .ok (some b)) :
    b.Native ∧ ((messageReader py sessionId).step s message).2 ≠ .ok none := by
  obtain ⟨skipped, -⟩ | ⟨msg, rfl, gemini⟩ := message_or message
  · rw [skipped py sessionId c] at read
    cases read
  · rw [messageReader_wellFormed gemini] at wellFormed
    rw [messageReader_read gemini] at read ⊢
    exact gemini_gives wellFormed read

end

/-- The index of a message is another one where there were corrupt messages before it. -/
def messageTolerance (py : Python) (strText : ∀ text, py.str (.str text) = text) (sessionId : Str) :
    Tolerance (messageReader py sessionId) where
  harmless := MessageHarmless py
  same := Eq
  fits := Billable.Fits
  native := Billable.Native
  agree _ _ := True
  covers _ _ := True
  covers_of_agree _ := trivial
  kept _ harmless _ := ⟨message_kept harmless, trivial⟩
  passed _ harmless corrupt := ⟨message_passed harmless corrupt, trivial⟩
  caught _ harmful := (message_caught strText harmful).imp_right fun ⟨b, read, other⟩ =>
    ⟨b, read, fun fit wellFormed => .inl (other fit wellFormed)⟩
  gives _ wellFormed read := message_gives wellFormed read
  onward _ _ := trivial
  apart _ _ := trivial

end BurnLens.Scan
