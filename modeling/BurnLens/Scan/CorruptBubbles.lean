import BurnLens.Scan.Cursor
import BurnLens.Scan.Unblocked

/-! # Corrupt rows of Cursor's database

The bubbles are read all at once, and then imported.  A text that is not UTF-8 makes the driver
raise an `OperationalError`, which is taken for a database that cannot be read: nothing is imported
then.  Other corrupt rows are passed over, or raise.
-/

namespace BurnLens.Scan

open Library Cost Storage

/-! ## Rows -/

/-- The value of a row, as the database has it. -/
inductive Cell where
  | null
  | text (bytes : List UInt8)
  | blob (bytes : List UInt8)
  | number (n : Number)

def Cell.decodes : Cell → Bool
  | .text bytes => (decodeStrict bytes).isSome
  | _ => true

abbrev CellRow := Str × Cell

/-- What the scan computes with. -/
structure CellImporter where
  importer : CursorImporter
  -- `bytes.decode("utf-8", errors="replace")`
  decodeReplace : List UInt8 → Str

/-- When the rows are read, and the time that bubbles are not to be before. -/
structure BubbleWindow where
  now : Int
  since : Option Int := none

/-- A bubble before `since` is left out. -/
def BubbleWindow.keep (window : BubbleWindow) :
    Option CursorBubble → Except PyError (Option CursorBubble)
  | none => .ok none
  | some bubble => do
    return if ← bubble.counts window.now window.since then some bubble else none

namespace CellImporter

variable (w : CellImporter) (window : BubbleWindow)

def python : Python := w.importer.python

def bubbleFromText (key text : Str) : Except PyError (Option CursorBubble) :=
  bubbleFromRow w.python w.importer.clock key (some text)

/-- `_bubble_from_row`; only the driver decodes texts. -/
def bubbleFromCell (key : Str) : Cell → Except PyError (Option CursorBubble)
  | .null => bubbleFromRow w.python w.importer.clock key none
  | .text bytes =>
    match decodeStrict bytes with
    | some text => w.bubbleFromText key text
    | none => .error .databaseError
  | .blob bytes => w.bubbleFromText key (w.decodeReplace bytes)
  | .number _ => .error .typeError

/-- The bubble of a row that is selected, where it counts. -/
def bubbleOfRow (row : CellRow) : Except PyError (Option CursorBubble) :=
  if isBubbleKey row.1 then w.bubbleFromCell row.1 row.2 >>= window.keep else .ok none

def bubblesOfRows : List CellRow → Except PyError (List CursorBubble)
  | [] => .ok []
  | row :: rows => do
    match ← w.bubbleOfRow window row with
    | none => bubblesOfRows rows
    | some bubble => return bubble :: (← bubblesOfRows rows)

/-- The driver decodes the texts of the rows that are selected. -/
def decodes (rows : List CellRow) : Bool := rows.all fun row => !isBubbleKey row.1 || row.2.decodes

/-- `read_bubbles`. -/
def readRows (rows : List CellRow) : Except PyError (List CursorBubble) :=
  if decodes rows then w.bubblesOfRows window rows else .ok []

/-- The part of `scan_cursor` after the cache. -/
def scan (today : Date) (rows : List CellRow) (s : BubbleImport) : BubbleImport × Option PyError :=
  match w.readRows window rows with
  | .error error => (s, some error)
  | .ok bubbles =>
    w.importer.importBubbles today false
      { s with result := { s.result with bubblesParsed := bubbles.length } } bubbles

end CellImporter

/-! ## Well-formed rows -/

def cursorCounts : List Str := ["inputTokens", "outputTokens", "cacheReadTokens", "cacheWriteTokens"]

def isTime : Json → Bool
  | .null | .str _ | .int _ | .float _ => true
  | _ => false

def bubbleWellFormed (data : Fields) : Bool :=
  areTokens cursorCounts (get data "tokenCount") && isPlain (get data "model") &&
    isPlain (get data "workspacePath") && isPlain (get data "workspace") &&
      isPlain (get data "conversationId") && isTime (get data "timestamp")

namespace CellImporter

variable (w : CellImporter)

def textWellFormed (text : Str) : Bool :=
  (w.python.loadsRaises text).isNone &&
    match w.python.loads text with
    | some (.obj data) => bubbleWellFormed data
    | _ => false

def rowWellFormed (row : CellRow) : Bool :=
  !isBubbleKey row.1 ||
    match row.2 with
    | .null => true
    | .text bytes | .blob bytes =>
      match decodeStrict bytes with
      | some text => w.textWellFormed text
      | none => false
    | .number _ => false

/-- The rows, as entries that are read one by one. -/
def rowReader (window : BubbleWindow) : EntryReader Unit CellRow CursorBubble where
  step s row := (s, w.bubbleOfRow window row)
  wellFormed := w.rowWellFormed

end CellImporter

/-- The scan does not raise, and reads the bubbles that it reads without the corrupt rows. -/
structure CursorUnblocked (w : CellImporter) (window : BubbleWindow) (today : Date)
    (rows : List CellRow) (s : BubbleImport) : Prop where
  runs : (w.scan window today rows s).2 = none
  imports : ∃ bubbles, w.readRows window rows = .ok bubbles ∧
    w.readRows window (rows.filter w.rowWellFormed) = .ok bubbles

variable {w : CellImporter} {window : BubbleWindow} {key text : Str} {data tokenCount : Fields}
  {row : CellRow} {rows : List CellRow}

/-! ## Bubbles -/

/-- The counts of the bubble are read. -/
structure BubbleAsked (w : CellImporter) (text : Str) (data tokenCount : Fields) : Prop where
  isData : w.python.load text = .ok (some (.obj data))
  isTokens : (get data "tokenCount").orElse (.obj []) = .obj tokenCount

def bubbleWith (key : Str) (data : Fields) (model : Str) (time : BubbleTime)
    (input output cacheRead cacheWrite : Int) : CursorBubble where
  bubbleId := removePrefix "bubbleId:" key
  model := model
  inputTokens := input
  outputTokens := output
  cacheReadTokens := cacheRead
  cacheWriteTokens := cacheWrite
  timestamp := time
  workspacePath := (get data "workspacePath").orElse (get data "workspace")

/-- The counts fit the columns of the table, the workspace can be looked up, and the texts can be
    encoded. -/
structure CursorBubble.Fits (py : Python) (bubble : CursorBubble) : Prop where
  counts : ∀ n ∈ [bubble.inputTokens, bubble.outputTokens, bubble.cacheReadTokens,
    bubble.cacheWriteTokens], bindable (.int n) = true
  workspace : checkWorkspace py bubble.workspacePath = .ok ()
  encodable : bubble.encodable py = true

/-- A text whose counts are read has numbers there; where it is billed, it has a model and a time
    that are read, and where it counts, it is well formed and can be stored. -/
def TextHarmless (w : CellImporter) (window : BubbleWindow) (key text : Str) (wellFormed : Bool) : Prop :=
  w.python.loadsRaises text = none ∧ ∀ data tokenCount, BubbleAsked w text data tokenCount →
    ∃ input output cacheRead cacheWrite,
      Converts w.python tokenCount cursorCounts [input, output, cacheRead, cacheWrite] ∧
        (input + output + cacheRead + cacheWrite ≠ 0 → ∃ model time counted,
          normalizeModel (get data "model") = .ok model ∧
            w.importer.clock.readBubbleTime (get data "timestamp") = .ok time ∧
              let bubble := bubbleWith key data model time input output cacheRead cacheWrite
              bubble.counts window.now window.since = .ok counted ∧
                (counted = true → wellFormed = true ∧ bubble.Fits w.python))

/-- What is handed to `json.loads`. -/
def CellImporter.textOf (w : CellImporter) : Cell → Option Str
  | .text bytes => decodeStrict bytes
  | .blob bytes => some (w.decodeReplace bytes)
  | _ => none

/-- A row that is selected has nothing, or a text that is harmless. -/
def RowHarmless (w : CellImporter) (window : BubbleWindow) (row : CellRow) (wellFormed : Bool) : Prop :=
  isBubbleKey row.1 = true → row.2 = .null ∨
    ∃ text, w.textOf row.2 = some text ∧ TextHarmless w window row.1 text wellFormed

section

variable {found : Option CursorBubble} {input output cacheRead cacheWrite : Int}

theorem bubbleFromRow_unasked (loads : w.python.loadsRaises text = none)
    (unasked : ¬ ∃ data tokenCount, BubbleAsked w text data tokenCount) :
    bubbleFromRow w.python w.importer.clock key (some text) = .ok none := by
  have load : w.python.load text = .ok (w.python.loads text) := by rw [Python.load, loads]
  unfold bubbleFromRow
  rw [Option.map_some, Option.getD_some, load]
  cases isData : w.python.loads text with
  | none => rfl
  | some value =>
    cases value with
    | obj data =>
      cases isTokens : (get data "tokenCount").orElse (.obj []) with
      | obj tokenCount =>
        exact absurd ⟨data, tokenCount, load.trans (congrArg _ isData), isTokens⟩ unasked
      | _ => simp only [isTokens]
    | _ => rfl

theorem bubbleFromRow_asked (asked : BubbleAsked w text data tokenCount) :
    bubbleFromRow w.python w.importer.clock key (some text) = (do
      let inputTokens ← w.python.count tokenCount "inputTokens"
      let outputTokens ← w.python.count tokenCount "outputTokens"
      let cacheReadTokens ← w.python.count tokenCount "cacheReadTokens"
      let cacheWriteTokens ← w.python.count tokenCount "cacheWriteTokens"
      if inputTokens + outputTokens + cacheReadTokens + cacheWriteTokens = 0 then return none
      let model ← normalizeModel (get data "model")
      let time ← w.importer.clock.readBubbleTime (get data "timestamp")
      return some (bubbleWith key data model time inputTokens outputTokens cacheReadTokens
        cacheWriteTokens)) := by
  unfold bubbleFromRow
  rw [Option.map_some, Option.getD_some, asked.isData]
  simp only [asked.isTokens]
  rfl

theorem bubbleFromRow_converts (asked : BubbleAsked w text data tokenCount)
    (read : bubbleFromRow w.python w.importer.clock key (some text) = .ok found) :
    ∃ input output cacheRead cacheWrite,
      Converts w.python tokenCount cursorCounts [input, output, cacheRead, cacheWrite] := by
  rw [bubbleFromRow_asked asked] at read
  simp only [bind_eq_ok] at read
  obtain ⟨input, first, output, second, cacheRead, third, cacheWrite, fourth, -⟩ := read
  exact ⟨input, output, cacheRead, cacheWrite, .cons first (.cons second (.cons third (.cons fourth .nil)))⟩

theorem bubbleFromRow_counted (asked : BubbleAsked w text data tokenCount)
    (converts : Converts w.python tokenCount cursorCounts [input, output, cacheRead, cacheWrite]) :
    bubbleFromRow w.python w.importer.clock key (some text) =
      if input + output + cacheRead + cacheWrite = 0 then .ok none
      else do
        let model ← normalizeModel (get data "model")
        let time ← w.importer.clock.readBubbleTime (get data "timestamp")
        return some (bubbleWith key data model time input output cacheRead cacheWrite) := by
  simp only [Converts, cursorCounts, List.forall₂_cons] at converts
  obtain ⟨first, second, third, fourth, -⟩ := converts
  rw [bubbleFromRow_asked asked, first, second, third, fourth]
  rfl

end

section

variable {wellFormed : Bool}

/-- A text that is harmless gives no bubble, or one of a well-formed row that can be stored. -/
theorem text_kept (harmless : TextHarmless w window key text wellFormed) :
    w.bubbleFromText key text >>= window.keep = .ok none ∨
      ∃ b, w.bubbleFromText key text >>= window.keep = .ok (some b) ∧ b.Fits w.python ∧
        wellFormed = true := by
  obtain ⟨loads, fine⟩ := harmless
  rw [CellImporter.bubbleFromText]
  by_cases asked : ∃ data tokenCount, BubbleAsked w text data tokenCount
  · obtain ⟨data, tokenCount, asked⟩ := asked
    obtain ⟨input, output, cacheRead, cacheWrite, converts, fine⟩ := fine data tokenCount asked
    rw [bubbleFromRow_counted asked converts]
    by_cases billed : input + output + cacheRead + cacheWrite = 0
    · rw [if_pos billed]
      exact .inl rfl
    · obtain ⟨model, time, counted, named, timed, counts, fine⟩ := fine billed
      rw [if_neg billed, named, timed]
      cases counted with
      | true =>
        obtain ⟨wellFormed, fits⟩ := fine rfl
        refine .inr ⟨_, ?_, fits, wellFormed⟩
        simp only [bind, Except.bind, pure, Except.pure, BubbleWindow.keep, counts, if_true]
      | false =>
        left
        simp only [bind, Except.bind, pure, Except.pure, BubbleWindow.keep, counts, Bool.false_eq_true,
          if_false]
  · rw [bubbleFromRow_unasked loads asked]
    exact .inl rfl

theorem text_caught (harmful : ¬ TextHarmless w window key text wellFormed) :
    (∃ error, w.bubbleFromText key text >>= window.keep = .error error) ∨
      ∃ b, w.bubbleFromText key text >>= window.keep = .ok (some b) ∧
        (b.Fits w.python → wellFormed = false) := by
  cases read : w.bubbleFromText key text >>= window.keep with
  | error error => exact .inl ⟨error, rfl⟩
  | ok found =>
    right
    obtain ⟨bubble, read, kept⟩ := bind_eq_ok.mp read
    unfold CellImporter.bubbleFromText at read
    cases loads : w.python.loadsRaises text with
    | some error =>
      rw [bubbleFromRow, Option.map_some, Option.getD_some, Python.load, loads] at read
      cases read
    | none =>
      simp only [TextHarmless, loads, true_and, not_forall] at harmful
      obtain ⟨data, tokenCount, asked, harmful⟩ := harmful
      obtain ⟨input, output, cacheRead, cacheWrite, converts⟩ := bubbleFromRow_converts asked read
      simp only [not_exists, not_and] at harmful
      have wrong := harmful input output cacheRead cacheWrite converts
      simp only [not_forall] at wrong
      obtain ⟨billed, wrong⟩ := wrong
      rw [bubbleFromRow_counted asked converts, if_neg billed] at read
      simp only [bind_eq_ok] at read
      obtain ⟨model, named, time, timed, given⟩ := read
      cases given
      obtain ⟨counted, counts, given⟩ := bind_eq_ok.mp kept
      -- a bubble that does not count is harmless
      have counts' : counted = true := by
        by_contra left
        exact wrong ⟨model, time, counted, named, timed, counts, fun counted => absurd counted left⟩
      subst counts'
      cases given
      refine ⟨_, rfl, fun fits => ?_⟩
      by_contra sound
      rw [Bool.not_eq_false] at sound
      exact wrong ⟨model, time, true, named, timed, counts, fun _ => ⟨sound, fits⟩⟩

end

/-- What the reader does with a row is what it does with its text. -/
theorem bubbleOfRow_text (selected : isBubbleKey row.1 = true) (isText : w.textOf row.2 = some text) :
    w.bubbleOfRow window row = w.bubbleFromText row.1 text >>= window.keep := by
  rw [CellImporter.bubbleOfRow, if_pos selected]
  cases cell : row.2 with
  | text bytes =>
    rw [cell] at isText
    rw [CellImporter.bubbleFromCell, show decodeStrict bytes = some text from isText]
  | blob bytes =>
    rw [cell] at isText
    cases isText
    rfl
  | _ =>
    rw [cell] at isText
    cases isText

theorem bubbleOfRow_noText (selected : isBubbleKey row.1 = true) (noText : w.textOf row.2 = none) :
    (row.2 = .null ∧ w.bubbleOfRow window row = .ok none) ∨
      row.2 ≠ .null ∧ ∃ error, w.bubbleOfRow window row = .error error := by
  rw [CellImporter.bubbleOfRow, if_pos selected]
  cases cell : row.2 with
  | null => exact .inl ⟨rfl, rfl⟩
  | text bytes =>
    rw [cell] at noText
    rw [CellImporter.bubbleFromCell, show decodeStrict bytes = none from noText]
    exact .inr ⟨(fun same => by cases same), _, rfl⟩
  | blob bytes =>
    rw [cell] at noText
    cases noText
  | number n => exact .inr ⟨(fun same => by cases same), _, rfl⟩

section

variable {wellFormed : Bool}

theorem row_kept (harmless : RowHarmless w window row wellFormed) :
    w.bubbleOfRow window row = .ok none ∨
      ∃ b, w.bubbleOfRow window row = .ok (some b) ∧ b.Fits w.python ∧ wellFormed = true := by
  by_cases selected : isBubbleKey row.1 = true
  · obtain null | ⟨text, isText, harmless⟩ := harmless selected
    · have noText : w.textOf row.2 = none := by
        rw [null]
        rfl
      obtain ⟨-, none⟩ | ⟨filled, -⟩ := @bubbleOfRow_noText w window row selected noText
      · exact .inl none
      · exact absurd null filled
    · rw [bubbleOfRow_text selected isText]
      exact text_kept harmless
  · exact .inl (if_neg selected)

theorem row_caught (harmful : ¬ RowHarmless w window row wellFormed) :
    (∃ error, w.bubbleOfRow window row = .error error) ∨
      ∃ b, w.bubbleOfRow window row = .ok (some b) ∧ (b.Fits w.python → wellFormed = false) := by
  simp only [RowHarmless, not_forall, not_or, not_exists, not_and] at harmful
  obtain ⟨selected, filled, harmful⟩ := harmful
  cases isText : w.textOf row.2 with
  | none =>
    obtain ⟨null, -⟩ | ⟨-, raises⟩ := @bubbleOfRow_noText w window row selected isText
    · exact absurd null filled
    · exact .inl raises
  | some text =>
    rw [bubbleOfRow_text selected isText]
    exact text_caught (harmful text isText)

/-- What would be harmless where it is corrupt gives no bubble at all. -/
theorem bubbleOfRow_none_iff :
    w.bubbleOfRow window row = .ok none ↔ RowHarmless w window row false := by
  constructor
  · intro none
    by_contra harmful
    obtain ⟨error, raises⟩ | ⟨b, read, -⟩ := row_caught harmful
    · cases none.symm.trans raises
    · cases none.symm.trans read
  · intro harmless
    obtain none | ⟨_, -, -, never⟩ := row_kept harmless
    · exact none
    · cases never

end

def rowTolerance (w : CellImporter) (window : BubbleWindow) : Tolerance (w.rowReader window) :=
  .exact (fun _ row => RowHarmless w window row (w.rowWellFormed row)) (CursorBubble.Fits w.python)
    (fun _ => True)
    (fun harmless _ => (row_kept harmless).imp_right fun ⟨b, read, fits, _⟩ => ⟨b, read, fits⟩)
    (fun {_ _} harmless corrupt => by
      obtain none | ⟨_, -, -, wellFormed⟩ := row_kept harmless
      · exact congrArg (Prod.mk _) none
      · cases wellFormed.symm.trans corrupt)
    row_caught
    fun _ read => ⟨trivial, fun skipped =>
      Option.some_ne_none _ (Except.ok.inj (read.symm.trans skipped))⟩

/-! ## Rows, with and without the corrupt ones -/

theorem confined_rows : (rowTolerance w window).Confined () () rows ↔
    ∀ row ∈ rows, RowHarmless w window row (w.rowWellFormed row) := by
  induction rows with
  | nil => exact iff_of_true trivial fun _ member => absurd member List.not_mem_nil
  | cons row rows inductionHypothesis =>
    rw [List.forall_mem_cons, ← inductionHypothesis]
    exact Iff.rfl

theorem bubblesOfRows_iff {bubbles : List CursorBubble} :
    w.bubblesOfRows window rows = .ok bubbles ↔
      (w.rowReader window).run () rows = bubbles.map .ok := by
  induction rows generalizing bubbles with
  | nil => cases bubbles <;> simp [CellImporter.bubblesOfRows, EntryReader.run]
  | cons row rows inductionHypothesis =>
    rw [CellImporter.bubblesOfRows]
    cases read : w.bubbleOfRow window row with
    | error error =>
      rw [EntryReader.run_cons_error (show ((w.rowReader window).step () row).2 = _ from read)]
      cases bubbles <;> simp [bind, Except.bind]
    | ok found =>
      cases found with
      | none =>
        rw [EntryReader.run_cons_none (show ((w.rowReader window).step () row).2 = _ from read)]
        exact inductionHypothesis
      | some bubble =>
        rw [EntryReader.run_cons_some (show ((w.rowReader window).step () row).2 = _ from read)]
        simp only [bind_eq_ok, Except.ok.injEq, exists_eq_left']
        constructor
        · rintro ⟨rest, later, made⟩
          cases made
          exact congrArg _ (inductionHypothesis.mp later)
        · intro given
          cases bubbles with
          | nil => cases given
          | cons first rest =>
            obtain ⟨same, later⟩ := List.cons.inj given
            cases same
            exact ⟨rest, inductionHypothesis.mpr later, rfl⟩

theorem bubblesOfRows_nil_iff :
    w.bubblesOfRows window rows = .ok [] ↔ ∀ row ∈ rows, w.bubbleOfRow window row = .ok none := by
  rw [bubblesOfRows_iff]
  induction rows with
  | nil => exact iff_of_true rfl fun _ member => absurd member List.not_mem_nil
  | cons row rows inductionHypothesis =>
    rw [List.forall_mem_cons, ← inductionHypothesis, EntryReader.run, List.map_nil,
      List.append_eq_nil_iff]
    refine and_congr_left fun _ => ?_
    rw [show ((w.rowReader window).step () row).2 = w.bubbleOfRow window row from rfl]
    cases w.bubbleOfRow window row with
    | error error => exact iff_of_false (List.cons_ne_nil _ _) fun never => by cases never
    | ok found =>
      cases found with
      | none => exact iff_of_true rfl rfl
      | some bubble => exact iff_of_false (List.cons_ne_nil _ _) fun never => by cases never

/-! ## Imports -/

section

variable {importer : CursorImporter} {today : Date} {s : BubbleImport} {bubble : CursorBubble}
  {bubbles : List CursorBubble}

theorem CursorBubble.Fits.all (fits : bubble.Fits importer.python) :
    ∀ n ∈ [bubble.inputTokens, bubble.outputTokens, 0, bubble.cacheReadTokens,
      bubble.cacheWriteTokens], bindable (.int n) = true := by
  have zero : bindable (.int 0) = true := rfl
  have counts := fits.counts
  simp only [List.forall_mem_cons] at counts ⊢
  exact ⟨counts.1, counts.2.1, zero, counts.2.2⟩

theorem bubbleToRecord_fits (fits : bubble.Fits importer.python) :
    ∃ record, bubbleToRecord importer.python importer.tables today bubble = .ok record := by
  obtain ⟨cost, calculated⟩ : ∃ cost, calculateCost importer.tables today "cursor" (.str bubble.model)
      bubble.usage = .ok cost :=
    calculateCost_ok.mpr fun _ _ => billable_int _ fits.all
  rw [bubbleToRecord, fits.workspace, calculated]
  exact ⟨_, rfl⟩

theorem bubbleToRecord_iff {record : RequestRecord}
    (made : bubbleToRecord importer.python importer.tables today bubble = .ok record) :
    record.nullable = [] ∧ pricingColumns importer.tables today record = .ok () ∧
      ((∀ column ∈ record.required, bindable column.2 = true) ∧ record.encodable = true ↔
        bubble.Fits importer.python) := by
  obtain ⟨⟨⟩, workspace, made⟩ := bind_eq_ok.mp made
  obtain ⟨cost, -, made⟩ := bind_eq_ok.mp made
  cases made
  refine ⟨rfl, pricingColumns_text rfl rfl, ?_⟩
  have zero : bindable (.int 0) = true := rfl
  have status : bindable (.int 200) = true := rfl
  have text : ∀ text : Str, bindable (.str text) = true := fun _ => rfl
  have float : ∀ x : Flt, bindable (.float x) = true := fun _ => rfl
  have counts : bubble.Fits importer.python ↔ (∀ n ∈ [bubble.inputTokens, bubble.outputTokens,
      bubble.cacheReadTokens, bubble.cacheWriteTokens], bindable (.int n) = true) ∧
        bubble.encodable importer.python = true :=
    ⟨fun fits => ⟨fits.counts, fits.encodable⟩,
      fun ⟨counts, encodable⟩ => ⟨counts, workspace, encodable⟩⟩
  rw [counts]
  refine and_congr_left fun _ => ?_
  simp only [RequestRecord.required, List.forall_mem_cons, zero, status, text, float, Option.map_some,
    Option.getD_some, List.not_mem_nil, false_implies, implies_true, true_and, and_true]

/-- A bubble is imported without an exception exactly if it fits. -/
theorem importBubble_runs :
    (importer.importBubble today false s bubble).2 = none ↔ bubble.Fits importer.python := by
  unfold CursorImporter.importBubble
  cases made : bubbleToRecord importer.python importer.tables today bubble with
  | error error =>
    refine iff_of_false (fun never => by cases never) fun fits => ?_
    obtain ⟨record, made'⟩ := @bubbleToRecord_fits importer today bubble fits
    cases made.symm.trans made'
  | ok record =>
    obtain ⟨nullable, pricing, stored⟩ := bubbleToRecord_iff made
    rw [← stored]
    constructor
    · intro runs
      cases inserted : insertRequest importer.tables today (importer.uuid7 s.drawn) s.rows record with
      | error error =>
        simp only [Bool.false_eq_true, if_false, inserted] at runs
        cases runs
      | ok table =>
        obtain ⟨table, id⟩ := table
        obtain ⟨required, -, encodable⟩ := bindable_of_insertRequest inserted
        exact ⟨required, encodable⟩
    · rintro ⟨required, encodable⟩
      have binds : (record.required.all fun column => Storage.bindable column.2) = true :=
        List.all_eq_true.mpr required
      simp only [Bool.false_eq_true, if_false, insertRequest, pricing, binds, nullable, encodable, bind,
        Except.bind, List.all_nil, Bool.not_true, Bool.or_self]
      split
      · next raised => split at raised <;> cases raised
      · rfl

theorem importBubbles_runs :
    (importer.importBubbles today false s bubbles).2 = none ↔
      ∀ bubble ∈ bubbles, bubble.Fits importer.python := by
  induction bubbles generalizing s with
  | nil => exact iff_of_true rfl fun _ member => absurd member List.not_mem_nil
  | cons bubble bubbles inductionHypothesis =>
    rw [List.forall_mem_cons, ← @importBubble_runs importer today s bubble, CursorImporter.importBubbles]
    cases importer.importBubble today false s bubble with
    | mk s' error =>
      cases error with
      | none =>
        rw [and_iff_right rfl]
        exact inductionHypothesis
      | some error => exact iff_of_false (fun never => by cases never) fun never => by cases never.1

end

/-! ## Scans -/

/-- Every row is harmless; or the driver does not decode a text, and no well-formed row has a bubble
    to import. -/
def RowsHarmless (w : CellImporter) (window : BubbleWindow) (rows : List CellRow) : Prop :=
  if CellImporter.decodes rows then ∀ row ∈ rows, RowHarmless w window row (w.rowWellFormed row)
  else ∀ row ∈ rows, w.rowWellFormed row = true → RowHarmless w window row false

theorem decodes_sound : CellImporter.decodes (rows.filter w.rowWellFormed) = true := by
  refine List.all_eq_true.mpr fun row member => ?_
  obtain ⟨-, wellFormed⟩ := List.mem_filter.mp member
  unfold CellImporter.rowWellFormed at wellFormed
  cases selected : isBubbleKey row.1 with
  | false => rfl
  | true =>
    cases cell : row.2 with
    | text bytes =>
      rw [selected, cell] at wellFormed
      cases decoded : decodeStrict bytes with
      | none =>
        simp only [decoded, Bool.not_true, Bool.or_self, Bool.false_eq_true] at wellFormed
      | some text => simp only [Cell.decodes, decoded, Option.isSome_some, Bool.or_true]
    | _ => rfl

theorem rows_match_iff {items items' : List (Except PyError CursorBubble)} :
    List.Forall₂ (rowTolerance w window).Matches items items' ↔
      ∃ bubbles : List CursorBubble, items = bubbles.map .ok ∧ items' = bubbles.map .ok ∧
        ∀ bubble ∈ bubbles, bubble.Fits w.python := by
  constructor
  · intro matched
    induction matched with
    | nil => exact ⟨[], rfl, rfl, fun _ member => absurd member List.not_mem_nil⟩
    | cons head _ inductionHypothesis =>
      obtain ⟨b, b', rfl, rfl, same, fits⟩ := head
      obtain rfl : b = b' := same
      obtain ⟨bubbles, rfl, rfl, all⟩ := inductionHypothesis
      exact ⟨b :: bubbles, rfl, rfl, List.forall_mem_cons.mpr ⟨fits, all⟩⟩
  · rintro ⟨bubbles, rfl, rfl, all⟩
    rw [List.forall₂_map_left_iff, List.forall₂_map_right_iff, List.forall₂_same]
    exact fun bubble member => ⟨bubble, bubble, rfl, rfl, rfl, all bubble member⟩

/-- The corrupt rows of Cursor's database block no other exactly if they are harmless. -/
theorem cursorUnblocked_iff {today : Date} {s : BubbleImport} :
    CursorUnblocked w window today rows s ↔ RowsHarmless w window rows := by
  have alone : w.readRows window (rows.filter w.rowWellFormed) =
      w.bubblesOfRows window (rows.filter w.rowWellFormed) := if_pos decodes_sound
  unfold RowsHarmless
  cases decodes : CellImporter.decodes rows with
  | true =>
    have reads : w.readRows window rows = w.bubblesOfRows window rows := if_pos decodes
    have matched := @Tolerance.matches_iff _ _ _ _ (rowTolerance w window) () () rows rfl
    rw [if_pos rfl, ← confined_rows, ← matched, rows_match_iff]
    constructor
    · intro unblocked
      obtain ⟨bubbles, read, read'⟩ := unblocked.imports
      have runs := unblocked.runs
      rw [CellImporter.scan, read] at runs
      rw [reads] at read
      rw [alone] at read'
      exact ⟨bubbles, bubblesOfRows_iff.mp read, bubblesOfRows_iff.mp read', importBubbles_runs.mp runs⟩
    · rintro ⟨bubbles, read, read', fits⟩
      have read := reads.trans (bubblesOfRows_iff.mpr read)
      refine ⟨?_, bubbles, read, alone.trans (bubblesOfRows_iff.mpr read')⟩
      rw [CellImporter.scan, read]
      exact importBubbles_runs.mpr fits
  | false =>
    have reads : w.readRows window rows = .ok [] := by
      rw [CellImporter.readRows, decodes, if_neg Bool.false_ne_true]
    rw [if_neg Bool.false_ne_true]
    have nothing : w.bubblesOfRows window (rows.filter w.rowWellFormed) = .ok [] ↔
        ∀ row ∈ rows, w.rowWellFormed row = true → RowHarmless w window row false := by
      simp only [bubblesOfRows_nil_iff, List.mem_filter, and_imp, bubbleOfRow_none_iff]
    rw [← nothing]
    constructor
    · intro unblocked
      obtain ⟨bubbles, read, read'⟩ := unblocked.imports
      rw [reads] at read
      cases read
      exact alone.symm.trans read'
    · intro none
      refine ⟨?_, [], reads, alone.trans none⟩
      rw [CellImporter.scan, reads]
      rfl

/-- Two lines of Claude Code, the first with a count that is a word. -/
@[irreducible] def wordText : Str :=
  "\x7b\"type\":\"assistant\",\"message\":\x7b\"id\":\"msg_1\"," ++
    "\"model\":\"claude-sonnet-4-5\"," ++ "\"usage\":\x7b\"input_tokens\":\"abc\"\x7d\x7d\x7d"

@[irreducible] def numberText : Str :=
  "\x7b\"type\":\"assistant\",\"message\":\x7b\"id\":\"msg_2\"," ++
    "\"model\":\"claude-sonnet-4-5\"," ++ "\"usage\":\x7b\"input_tokens\":900\x7d\x7d\x7d"

/-- An entry of Claude Code with this count. -/
def countedEntry (messageId : Str) (inputTokens : Json) : Fields :=
  [("type", .str "assistant"),
    ("message", .obj [("id", .str messageId), ("model", .str "claude-sonnet-4-5"),
      ("usage", .obj [("input_tokens", inputTokens)])])]

theorem texts_filled : [] ≠ wordText ∧ [] ≠ numberText := by decide +kernel

def claudeLogs : LogImporter where
  importer :=
    { python :=
        { loads := fun text =>
            if text = wordText then some (.obj (countedEntry "msg_1" (.str "abc")))
            else if text = numberText then some (.obj (countedEntry "msg_2" (.int 900)))
            else none
          str := fun
            | .str text => text
            | _ => []
          parseInt := fun _ => none
          empty := ⟨by rw [if_neg texts_filled.1, if_neg texts_filled.2], rfl⟩ }
      tables := fun _ => []
      uuid7 := fun i => List.replicate i '0'
      fresh := zeros_injective }
  strText _ := rfl

def claudeSession : LogFile where
  sessionId := "s"
  lines := [utf8 wordText, utf8 numberText]

end BurnLens.Scan
