import BurnLens.Scan.CorruptCodex

/-! # Scans of session files with corrupt entries

A scan goes on as long as every item is a record that the table takes.  The corrupt entries are
passed over exactly if each is harmless where it is read, and every file decodes.
-/

namespace BurnLens.Scan

open Library Cost Storage

/-! ## Imports -/

section

variable {b : Billable} {w : Importer} {today : Date} {tool : Tool} {s : ScanState}

theorem countable_int {n : Int} (small : n.natAbs < 2 ^ 64) : countable (.ok (.int n)) = true :=
  Number.fits_int.mpr (lt_floatLimit small)

theorem bindable_int {n : Int} : bindable (.int n) = true ↔ -2 ^ 63 ≤ n ∧ n < 2 ^ 63 :=
  decide_eq_true_iff

theorem billable_int {input output reasoning cacheRead cacheWrite : Int} (provider : Str)
    (fits : ∀ n ∈ [input, output, reasoning, cacheRead, cacheWrite], bindable (.int n) = true) :
    Cost.Billable provider
      { inputTokens := .int input, outputTokens := .int output, reasoningTokens := .int reasoning
        cacheReadTokens := .int cacheRead, cacheWriteTokens := .int cacheWrite } := by
  simp only [List.forall_mem_cons, bindable_int] at fits
  obtain ⟨fitsInput, fitsOutput, fitsReasoning, fitsRead, fitsWrite, -⟩ := fits
  have zero : (0 : Int).natAbs < 2 ^ 64 := by decide
  constructor
  · cases subset : includesCache provider <;>
      simp only [billableInput, subset, Json.number, Number.sub, Number.max0_int, bind, Except.bind, pure,
        Except.pure, if_true, Bool.false_eq_true, if_false]
    · exact countable_int (by omega)
    · exact countable_int (by omega)
  · simp only [billableOutput, Json.number, Number.sub, Number.max0_int, bind, Except.bind, pure, Except.pure]
    exact countable_int (by omega)
  · exact countable_int (by omega)
  · exact countable_int (by omega)
  · exact countable_int (by omega)
  · exact countable_int zero
  · exact countable_int zero
  · exact fun _ member => absurd member List.not_mem_nil

theorem calculate_native (fits : b.Fits) (native : b.Native) :
    ∃ cost, w.calculate today tool b = .ok cost := by
  obtain ⟨model, named⟩ := native
  rw [Importer.calculate, named]
  exact calculateCost_ok.mpr fun _ _ => billable_int _ fits.counts

theorem price_native (fits : b.Fits) (native : b.Native) (warned : List Str) :
    ∃ priced, w.price today tool warned b = .ok priced := by
  obtain ⟨cost, calculated⟩ := @calculate_native b w today tool fits native
  unfold Importer.price
  split
  · rw [calculated]
    split
    · exact ⟨_, rfl⟩
    · exact ⟨_, rfl⟩
  · rw [calculated]
    exact ⟨_, rfl⟩

theorem pricingColumns_text {tables : PricingTables} {record : RequestRecord} {model : Str} {n : Int}
    (named : record.model = .str model) (tokens : record.inputTokens = .int n) :
    pricingColumns tables today record = .ok () := by
  obtain ⟨resolved, found⟩ := resolvePricing_str tables today record.provider model
  have tiers : ∀ pricing, ∃ rates, applyTiered pricing (.int n) = .ok rates := by
    intro pricing
    have isOk : (applyTiered pricing (.int n)).isOk = true := by
      rw [applyTiered_isOk]
      exact Bool.or_true _
    cases tiered : applyTiered pricing (.int n) with
    | error error =>
      rw [tiered] at isOk
      cases isOk
    | ok rates => exact ⟨rates, rfl⟩
  unfold pricingColumns
  cases resolved with
  | none =>
    simp only [named, isModelPriced, found, bind, Except.bind, pure, Except.pure]
    split <;> split <;> rfl
  | some pricing =>
    obtain ⟨rates, tiered⟩ := tiers pricing
    simp only [named, tokens, isModelPriced, found, tiered, bind, Except.bind, pure, Except.pure]
    split <;> split <;> rfl

theorem request_required {cost : Flt} :
    ((∀ column ∈ (ScanRecord.request ⟨tool, b, cost⟩).required, bindable column.2 = true) ∧
        b.encodable = true) ↔ bindable b.model = true ∧ b.Fits := by
  have zero : bindable (.int 0) = true := rfl
  have status : bindable (.int 200) = true := rfl
  have text : ∀ text : Str, bindable (.str text) = true := fun _ => rfl
  have float : ∀ x : Flt, bindable (.float x) = true := fun _ => rfl
  have counts : b.Fits ↔ (∀ n ∈ [b.inputTokens, b.outputTokens, b.reasoningTokens, b.cacheReadTokens,
      b.cacheWriteTokens], bindable (.int n) = true) ∧ b.encodable = true :=
    ⟨fun fits => ⟨fits.counts, fits.encodable⟩, fun ⟨counts, encodable⟩ => ⟨counts, encodable⟩⟩
  rw [counts, ← and_assoc]
  refine and_congr_left fun _ => ?_
  simp only [RequestRecord.required, ScanRecord.request, List.forall_mem_cons, zero, status, text, float,
    Option.map_some, Option.getD_some, List.not_mem_nil, false_implies, implies_true, true_and, and_true]

theorem importBillable_native (fits : b.Fits) (native : b.Native) :
    ∃ s', w.importBillable today tool s b = (s', none) := by
  obtain ⟨⟨cost, warned⟩, priced⟩ := @price_native b w today tool fits native s.warned
  obtain ⟨model, named⟩ := native
  have bound : bindable b.model = true := by
    rw [named]
    rfl
  have pricing : pricingColumns w.tables today (ScanRecord.request ⟨tool, b, cost⟩) = .ok () :=
    pricingColumns_text named rfl
  have binds : ((ScanRecord.request ⟨tool, b, cost⟩).required.all fun column =>
      Storage.bindable column.2) = true :=
    List.all_eq_true.mpr (request_required.mpr ⟨bound, fits⟩).1
  have nullable : (ScanRecord.request ⟨tool, b, cost⟩).nullable.all Storage.bindable = true := rfl
  have encodable : (ScanRecord.request ⟨tool, b, cost⟩).encodable = true := fits.encodable
  unfold Importer.importBillable
  rw [priced]
  simp only [insertRequest, pricing, binds, nullable, encodable, bind, Except.bind,
    Bool.not_true, Bool.or_self, Bool.false_eq_true, if_false]
  split
  · next raised =>
    split at raised <;> cases raised
  · exact ⟨_, rfl⟩
  · exact ⟨_, rfl⟩

theorem fits_of_importBillable (imported : (w.importBillable today tool s b).2 = none) : b.Fits := by
  unfold Importer.importBillable at imported
  cases priced : w.price today tool s.warned b with
  | error error =>
    rw [priced] at imported
    cases imported
  | ok found =>
    obtain ⟨cost, warned⟩ := found
    rw [priced] at imported
    cases inserted : insertRequest w.tables today (w.uuid7 s.drawn) (s.rows.map ScanRow.stored)
        (ScanRecord.request ⟨tool, b, cost⟩) with
    | error error =>
      simp only [inserted] at imported
      cases imported
    | ok stored =>
      obtain ⟨table, id⟩ := stored
      obtain ⟨required, -, encodable⟩ := bindable_of_insertRequest inserted
      exact (request_required.mp ⟨required, encodable⟩).2

theorem fits_of_importItems {items : List (Except PyError Billable)}
    (imported : (w.importItems today tool s items).2 = none) :
    ∀ item ∈ items, ∃ b, item = .ok b ∧ b.Fits := by
  induction items generalizing s with
  | nil => exact fun _ member => absurd member List.not_mem_nil
  | cons item items inductionHypothesis =>
    cases item with
    | error error => cases imported
    | ok b =>
      rw [Importer.importItems] at imported
      rw [List.forall_mem_cons]
      cases first : w.importBillable today tool s b with
      | mk s' error =>
        rw [first] at imported
        cases error with
        | none => exact ⟨⟨b, rfl, fits_of_importBillable (congrArg Prod.snd first)⟩,
            inductionHypothesis imported⟩
        | some error => cases imported

theorem importItems_native {items : List (Except PyError Billable)}
    (native : ∀ item ∈ items, ∃ b, item = .ok b ∧ b.Fits ∧ b.Native) :
    (w.importItems today tool s items).2 = none := by
  induction items generalizing s with
  | nil => rfl
  | cons item items inductionHypothesis =>
    rw [List.forall_mem_cons] at native
    obtain ⟨⟨b, rfl, fits, text⟩, rest⟩ := native
    obtain ⟨s', imported⟩ := @importBillable_native b w today tool s fits text
    rw [Importer.importItems, imported]
    exact inductionHypothesis rest

end

/-! ## Files -/

/-- The same record, which the table takes. -/
def Tool.Matches (tool : Tool) (item item' : Except PyError Billable) : Prop :=
  ∃ b b', item = .ok b ∧ item' = .ok b' ∧ tool.same b b' ∧ b.Fits

variable {w : LogImporter} {file : LogFile} {py : Python} {sessionId : Str}

/-- A tolerance of entries, as one of lines. -/
def LogImporter.tolerance {σ : Type} {reader : EntryReader σ Fields Billable} (w : LogImporter)
    (tolerance : Tolerance reader) : Tolerance (w.lines reader) :=
  tolerance.decoding (SessionFile.readEntry w.python) fun line => strip line = []

/-- The messages of a document of Gemini CLI: a list of messages that are harmless, or nothing to go
    over. -/
def MessagesHarmless (w : LogImporter) (sessionId : Str) : Json → Prop
  | .arr items => (messageTolerance w.python w.str_text sessionId).Confined 0 0 items
  | .str _ | .obj _ => True
  | _ => False

def DocumentHarmless (w : LogImporter) (sessionId : Str) : Option Json → Prop
  | some (.obj data) => MessagesHarmless w sessionId (LogFile.messages data)
  | _ => True

/-- The file decodes, and each of its entries is harmless where it is read. -/
def LogFile.Harmless (w : LogImporter) (file : LogFile) (tool : Tool) : Prop :=
  file.Decodes ∧
    match tool with
    | .claude => (w.tolerance (claudeTolerance w.python)).Confined () () file.texts
    | .codex => (w.tolerance (codexTolerance w.python file.sessionId)).Confined {} {} file.texts
    | .gemini =>
      if file.isJson then
        ∃ document, w.python.load file.texts.flatten = .ok document ∧
          DocumentHarmless w file.sessionId document
      else
        (w.tolerance (geminiTolerance w.python w.str_text file.sessionId)).Confined 0 0 file.texts

section

variable {σ : Type} {reader : EntryReader σ Str Billable}

theorem texts_of_decodes (decodes : file.Decodes) :
    file.texts = file.lines.filterMap decodeStrict ∧ file.failure = [] :=
  ⟨if_pos decodes, if_pos decodes⟩

theorem filterMap_keeping (lines : List (List UInt8)) :
    (lines.filter fun line =>
        match decodeStrict line with
        | some text => reader.wellFormed text
        | none => false).filterMap decodeStrict =
      reader.sound (lines.filterMap decodeStrict) := by
  induction lines with
  | nil => rfl
  | cons line lines inductionHypothesis =>
    cases decoded : decodeStrict line with
    | none =>
      rw [List.filterMap_cons_none decoded, List.filter_cons_of_neg (by simp [decoded])]
      exact inductionHypothesis
    | some text =>
      rw [List.filterMap_cons_some decoded]
      cases wellFormed : reader.wellFormed text with
      | true =>
        rw [List.filter_cons_of_pos (by simp [decoded, wellFormed]), List.filterMap_cons_some decoded,
          reader.sound_cons_of_wellFormed wellFormed, inductionHypothesis]
      | false =>
        rw [List.filter_cons_of_neg (by simp [decoded, wellFormed]),
          reader.sound_cons_of_corrupt wellFormed, inductionHypothesis]

/-- The file without its corrupt entries decodes, and has the texts of the others. -/
theorem texts_keeping : (file.keeping reader).texts = reader.sound (file.lines.filterMap decodeStrict) ∧
    (file.keeping reader).failure = [] := by
  have kept : (file.keeping reader).Decodes := by
    intro line member
    obtain ⟨-, sound⟩ := List.mem_filter.mp member
    cases decoded : decodeStrict line with
    | none =>
      rw [decoded] at sound
      cases sound
    | some text => rfl
  rw [(texts_of_decodes kept).1, (texts_of_decodes kept).2]
  exact ⟨filterMap_keeping file.lines, rfl⟩

end

theorem messages_run (items : List Json) (ordinal : Nat) :
    ((items.zipIdx ordinal).flatMap fun (msg, ordinal) =>
      match msg with
      | .obj msg =>
        if (get msg "type").isText "gemini" then yields (geminiMessage py sessionId ordinal msg)
        else []
      | _ => []) = (messageReader py sessionId).run ordinal items := by
  induction items generalizing ordinal with
  | nil => rfl
  | cons message items inductionHypothesis =>
    rw [List.zipIdx_cons, List.flatMap_cons, EntryReader.run, inductionHypothesis (ordinal + 1)]
    congr 1
    cases message with
    | obj msg =>
      dsimp only [messageReader]
      split
      · cases geminiMessage py sessionId ordinal msg with
        | error error => rfl
        | ok found => cases found <;> rfl
      · rfl
    | _ => rfl

theorem geminiMessages_arr (items : List Json) :
    geminiMessages py sessionId (.arr items) = (messageReader py sessionId).run 0 items :=
  messages_run items 0

/-! ## Files, with and without their corrupt entries -/

/-- The records of the files are the same, and all are records that the scan can store. -/
def LogFile.Undisturbed (w : LogImporter) (file : LogFile) (tool : Tool) : Prop :=
  List.Forall₂ tool.Matches (file.items w tool) (file.soundItems w tool)

section

variable {σ : Type} {reader : EntryReader σ Str Billable} {tool : Tool} {s : σ}

theorem not_matches_failure {items items' : List (Except PyError Billable)} {error : PyError}
    (raises : .error error ∈ items) : ¬ List.Forall₂ tool.Matches items items' := by
  intro matched
  induction matched with
  | nil => exact List.not_mem_nil raises
  | cons head _ inductionHypothesis =>
    obtain rfl | later := List.mem_cons.mp raises
    · obtain ⟨b, -, same, -⟩ := head
      cases same
    · exact inductionHypothesis later

theorem lines_matches_iff (tolerance : Tolerance reader) (same : tolerance.Matches = tool.Matches)
    (agree : tolerance.agree s s) :
    List.Forall₂ tool.Matches (reader.run s file.texts ++ file.failure)
        (reader.run s (file.keeping reader).texts ++ (file.keeping reader).failure) ↔
      file.Decodes ∧ tolerance.Confined s s file.texts := by
  by_cases decodes : file.Decodes
  · rw [texts_keeping.1, texts_keeping.2, (texts_of_decodes decodes).1, (texts_of_decodes decodes).2,
      List.append_nil, List.append_nil, ← same, tolerance.matches_iff agree, and_iff_right decodes]
  · have raises : Except.error PyError.valueError ∈ reader.run s file.texts ++ file.failure := by
      rw [LogFile.failure, if_neg decodes]
      exact List.mem_append_right _ (.head _)
    exact iff_of_false (not_matches_failure raises) fun fine => decodes fine.1

end

theorem messages_matches_iff (messages : Json) :
    List.Forall₂ (Tool.Matches .gemini) (geminiMessages w.python sessionId messages)
        (match messages with
          | .arr items => geminiMessages w.python sessionId
              (.arr ((messageReader w.python sessionId).sound items))
          | _ => []) ↔
      MessagesHarmless w sessionId messages := by
  have raises : ¬ List.Forall₂ (Tool.Matches .gemini) [.error .typeError] [] := fun matched => by
    cases matched
  cases messages with
  | arr items =>
    dsimp only
    rw [geminiMessages_arr, geminiMessages_arr]
    exact (messageTolerance w.python w.str_text sessionId).matches_iff trivial
  | str text => exact iff_of_true .nil trivial
  | obj fields => exact iff_of_true .nil trivial
  | _ => exact iff_of_false raises id

theorem document_matches_iff :
    List.Forall₂ (Tool.Matches .gemini) (file.documentItems w)
        (match file.document w with
          | .ok (some (.obj data)) =>
            match LogFile.messages data with
            | .arr items => geminiMessages w.python file.sessionId
                (.arr ((messageReader w.python file.sessionId).sound items))
            | _ => []
          | _ => []) ↔
      file.Decodes ∧ ∃ document, w.python.load file.texts.flatten = .ok document ∧
        DocumentHarmless w file.sessionId document := by
  have raises : ∀ error, ¬ List.Forall₂ (Tool.Matches .gemini) [.error error] [] := fun _ matched => by
    cases matched
  unfold LogFile.documentItems LogFile.document
  by_cases decodes : file.Decodes
  · rw [if_pos decodes, and_iff_right decodes]
    cases w.python.load file.texts.flatten with
    | error error =>
      refine iff_of_false (raises error) ?_
      rintro ⟨document, loaded, -⟩
      cases loaded
    | ok document =>
      have only : (∃ document', Except.ok document = (.ok document' : Except PyError (Option Json)) ∧
          DocumentHarmless w file.sessionId document') ↔ DocumentHarmless w file.sessionId document := by
        simp only [Except.ok.injEq, exists_eq_left']
      rw [only]
      cases document with
      | none => exact iff_of_true .nil trivial
      | some value =>
        cases value with
        | obj data => exact messages_matches_iff (LogFile.messages data)
        | _ => exact iff_of_true .nil trivial
  · rw [if_neg decodes]
    exact iff_of_false (raises _) fun fine => decodes fine.1

theorem codexAgree_start : CodexAgree {} {} := by
  refine ⟨⟨fun model named => ?_, id⟩, fun text => id, fun _ => rfl⟩
  cases named

/-- A file is read as without its corrupt entries exactly if it is harmless. -/
theorem undisturbed_iff (tool : Tool) : file.Undisturbed w tool ↔ file.Harmless w tool := by
  unfold LogFile.Undisturbed LogFile.Harmless
  cases tool with
  | claude => exact lines_matches_iff (w.tolerance (claudeTolerance w.python)) rfl rfl
  | codex =>
    exact lines_matches_iff (w.tolerance (codexTolerance w.python file.sessionId)) rfl codexAgree_start
  | gemini =>
    cases format : file.isJson with
    | true =>
      simp only [LogFile.items, LogFile.soundItems, format, if_true]
      exact document_matches_iff
    | false =>
      have kept : (file.keeping (w.lines (geminiReader w.python file.sessionId))).isJson = false :=
        format
      simp only [LogFile.items, LogFile.soundItems, format, kept, Bool.false_eq_true, if_false]
      exact lines_matches_iff (w.tolerance (geminiTolerance w.python w.str_text file.sessionId)) rfl rfl

section

variable {tool : Tool} {b : Billable}

theorem lines_native {σ : Type} {s : σ} {reader : EntryReader σ Str Billable} (tolerance : Tolerance reader)
    (native : tolerance.native = Billable.Native) (covers : tolerance.covers s s)
    (member : .ok b ∈ reader.run s (file.keeping reader).texts ++ (file.keeping reader).failure) :
    b.Native := by
  rw [texts_keeping.1, texts_keeping.2, List.append_nil] at member
  rw [← native]
  exact tolerance.native_of_mem covers member

theorem native_of_sound (member : .ok b ∈ file.soundItems w tool) : b.Native := by
  cases tool with
  | claude => exact lines_native (w.tolerance (claudeTolerance w.python)) rfl trivial member
  | codex =>
    exact lines_native (w.tolerance (codexTolerance w.python file.sessionId)) rfl
      codexAgree_start.covers member
  | gemini =>
    cases format : file.isJson with
    | true =>
      simp only [LogFile.soundItems, format, if_true] at member
      split at member
      · split at member
        · rw [geminiMessages_arr] at member
          exact (messageTolerance w.python w.str_text file.sessionId).native_of_mem (s := 0)
            trivial member
        · exact absurd member List.not_mem_nil
      · exact absurd member List.not_mem_nil
    | false =>
      have kept : (file.keeping (w.lines (geminiReader w.python file.sessionId))).isJson = false :=
        format
      simp only [LogFile.items, LogFile.soundItems, format, kept, Bool.false_eq_true, if_false] at member
      exact lines_native (w.tolerance (geminiTolerance w.python w.str_text file.sessionId)) rfl trivial
        member

theorem same_model {b' : Billable} (same : tool.same b b') : b.model = b'.model := by
  cases tool with
  | codex =>
    rw [← show _ = b' from same]
  | _ => exact congrArg Billable.model same

/-- The items of a file that is read as without its corrupt entries. -/
theorem native_of_undisturbed (undisturbed : file.Undisturbed w tool) :
    ∀ item ∈ file.items w tool, ∃ b, item = .ok b ∧ b.Fits ∧ b.Native := by
  have native : ∀ b', .ok b' ∈ file.soundItems w tool → b'.Native := fun b' => native_of_sound
  unfold LogFile.Undisturbed at undisturbed
  generalize file.items w tool = items, file.soundItems w tool = sound at undisturbed native
  induction undisturbed with
  | nil => exact fun _ member => absurd member List.not_mem_nil
  | cons head _ inductionHypothesis =>
    rw [List.forall_mem_cons]
    obtain ⟨b, b', rfl, rfl, same, fits⟩ := head
    obtain ⟨model, named⟩ := native b' (.head _)
    refine ⟨⟨b, rfl, fits, model, ?_⟩, inductionHypothesis fun b' member => native b' (.tail _ member)⟩
    rw [same_model same, named]

end

/-- The corrupt entries of the files block no other exactly if each is harmless where it is
    read. -/
theorem unblocked_iff {today : Date} {tool : Tool} {files : List LogFile} {rows : List ScanRow}
    {drawn : Nat} :
    Unblocked w today tool files rows drawn ↔ ∀ file ∈ files, file.Harmless w tool := by
  constructor
  · intro unblocked file member
    have fits := fits_of_importItems unblocked.runs
    have all : ∀ item ∈ file.items w tool, ∃ b, item = .ok b ∧ b.Fits := fun item listed =>
      fits item (List.mem_flatMap.mpr ⟨file, member, listed⟩)
    refine (undisturbed_iff tool).mp ?_
    refine ((List.forall₂_and_left _ _).mpr ⟨all, unblocked.imports file member⟩).imp ?_
    rintro item item' ⟨⟨b, rfl, fit⟩, b₁, b', same₁, rfl, same⟩
    cases same₁
    exact ⟨b, b', rfl, rfl, same, fit⟩
  · intro harmless
    have undisturbed : ∀ file ∈ files, file.Undisturbed w tool := fun file member =>
      (undisturbed_iff tool).mpr (harmless file member)
    refine ⟨importItems_native fun item listed => ?_, fun file member => ?_⟩
    · obtain ⟨file, member, listed⟩ := List.mem_flatMap.mp listed
      exact native_of_undisturbed (undisturbed file member) item listed
    · exact (undisturbed file member).imp fun _ _ ⟨b, b', is, is', same, _⟩ => ⟨b, b', is, is', same⟩

end BurnLens.Scan
