import BurnLens.Library.Machine
import BurnLens.Library.Utf8

/-! # Maintenance of the log and the dead-letter queue

`append_event`, `repair_wal`, `recover_wal` and `replay_dlq`, one after the other, on files with
any content.  A file is a list of lines of bytes and what follows the last newline; a line is copied
with the newline that it has, or without one.  Bytes that are no UTF-8 keep a reader from the whole
file.
-/

namespace BurnLens.Storage

open Library

/-- What the readers make of a line that is not blank. -/
inductive Reading (Record : Type*) where
  -- a record that the table takes
  | record (record : Record)
  -- a record that `INSERT OR IGNORE` drops though it is not stored
  | dropped
  -- JSON, but building or inserting the record raises
  | malformed
  -- `json.loads` raises something other than `JSONDecodeError`
  | unloadable
  -- not JSON
  | corrupt
deriving DecidableEq

/-- `json.loads`, `_dict_to_record` and the constraints of the table; the event id of a record, which
    an older line may lack. -/
structure LogFormat (Record EventId : Type*) where
  read : Str → Reading Record
  eventId : Record → Option EventId
  -- a blank text is not JSON
  read_blank : ∀ line, strip line = [] → read line = .corrupt

abbrev ByteLine := List UInt8

/-- `not line.strip()`. -/
def isBlank (line : ByteLine) : Bool := (decodeStrict line).any fun text => strip text = []

structure TextFile where
  lines : List ByteLine := []
  -- what follows the last newline
  tail : ByteLine := []
deriving DecidableEq

namespace TextFile

variable (file : TextFile)

/-- `readlines`: the lines, with whether they end in a newline. -/
def readLines : List (ByteLine × Bool) :=
  file.lines.map (fun line => (line, true)) ++ if file.tail = [] then [] else [(file.tail, false)]

def content : List (ByteLine × Bool) := file.readLines.filter fun line => !isBlank line.1

/-- No line makes the reader raise `UnicodeDecodeError`. -/
def decodes : Bool := file.readLines.all fun line => (decodeStrict line.1).isSome

/-- `f.write(line)` at the end of the file. -/
def write (line : ByteLine × Bool) : TextFile :=
  if line.2 then { lines := file.lines ++ [file.tail ++ line.1], tail := [] }
  else { file with tail := file.tail ++ line.1 }

def writeAll (lines : List (ByteLine × Bool)) : TextFile := lines.foldl write file

/-- A line of the file on its own, and not blank. -/
def Has (line : ByteLine) : Prop := line ∈ file.content.map Prod.fst

instance (line : ByteLine) : Decidable (file.Has line) := inferInstanceAs (Decidable (_ ∈ _))

/-! ### Copying lines -/

def select (keep : ByteLine × Bool → Bool) : TextFile where
  lines := file.lines.filter fun line => keep (line, true)
  tail := if keep (file.tail, false) then file.tail else []

theorem readLines_select (keep : ByteLine × Bool → Bool) :
    (file.select keep).readLines = file.readLines.filter keep := by
  simp only [readLines, select, List.filter_append, List.filter_map]
  congr 1
  by_cases empty : file.tail = []
  · simp [empty]
  · by_cases kept : keep (file.tail, false) = true
    · simp [empty, kept]
    · simp [empty, kept]

theorem readLines_write {file : TextFile} (whole : file.tail = []) (line : ByteLine) :
    (file.write (line, true)).readLines = file.readLines ++ [(line, true)] := by
  simp [write, readLines, whole]

theorem writeAll_append (front back : List (ByteLine × Bool)) :
    file.writeAll (front ++ back) = (file.writeAll front).writeAll back :=
  List.foldl_append

theorem writeAll_lines {file : TextFile} (whole : file.tail = []) (lines : List ByteLine) :
    file.writeAll (lines.map fun line => (line, true)) =
      { lines := file.lines ++ lines, tail := [] } := by
  induction lines generalizing file with
  | nil => simp [writeAll, ← whole]
  | cons line lines inductionHypothesis =>
    have step : file.writeAll ((line :: lines).map fun line => (line, true)) =
        (file.write (line, true)).writeAll (lines.map fun line => (line, true)) := rfl
    have written : file.write (line, true) = { lines := file.lines ++ [line], tail := [] } := by
      simp [write, whole]
    rw [step, written, inductionHypothesis rfl]
    simp

theorem writeAll_readLines {file : TextFile} (whole : file.tail = []) (other : TextFile) :
    file.writeAll other.readLines = { lines := file.lines ++ other.lines, tail := other.tail } := by
  have copied := writeAll_lines whole other.lines
  by_cases empty : other.tail = []
  · simpa [readLines, empty] using copied
  · simp only [readLines, if_neg empty]
    rw [writeAll_append, copied]
    simp [writeAll, write]

theorem filter_content (keep : ByteLine × Bool → Bool) :
    file.content.filter keep =
      (file.select fun line => keep line && !isBlank line.1).readLines := by
  rw [readLines_select, content, List.filter_filter]

theorem content_copy {file : TextFile} (whole : file.tail = []) (other : TextFile)
    (keep : ByteLine × Bool → Bool) :
    (file.writeAll (other.content.filter keep)).content =
      file.content ++ other.content.filter keep := by
  rw [filter_content, writeAll_readLines whole]
  have joined (selected : TextFile) :
      TextFile.readLines { lines := file.lines ++ selected.lines, tail := selected.tail } =
        file.readLines ++ selected.readLines := by
    simp [readLines, whole]
  rw [content, joined, List.filter_append, ← content, readLines_select, List.filter_filter]
  congr 2
  funext line
  simp

theorem content_write {file : TextFile} (whole : file.tail = []) {line : ByteLine}
    (notBlank : isBlank line = false) :
    (file.write (line, true)).content = file.content ++ [(line, true)] := by
  rw [content, readLines_write whole, List.filter_append, ← content]
  simp [notBlank]

@[simp] theorem content_empty : ({} : TextFile).content = [] := rfl

end TextFile

structure Files (Record : Type*) where
  wal : TextFile
  dlq : TextFile
  -- the requests table
  table : List Record
  -- every line that was put into one of the files
  seen : List ByteLine
  -- the records that a recovery has not reached and that are not stored
  missed : List Record

inductive Operation where
  | appendEvent (text : Str)
  | repairWal
  | recoverWal
  | replayDlq
deriving DecidableEq

namespace LogFormat

variable {Record EventId : Type*} [DecidableEq Record] [DecidableEq EventId]
variable (format : LogFormat Record EventId)

/-- The unique index refuses a second row of an event; a record without event gets a fresh one. -/
def clashes (table : List Record) (record : Record) : Bool :=
  (format.eventId record).isSome &&
    table.any fun other => format.eventId other = format.eventId record

def insert (table : List Record) (record : Record) : List Record :=
  if format.clashes table record then table else table ++ [record]

/-- The record has a row, or another record of its event has. -/
def isStored (table : List Record) (record : Record) : Bool :=
  record ∈ table || format.clashes table record

def reading (line : ByteLine × Bool) : Option (Reading Record) :=
  (decodeStrict line.1).map format.read

def isCorrupt (line : ByteLine × Bool) : Bool :=
  match format.reading line with
  | some .corrupt => true
  | _ => false

def isUnloadable (line : ByteLine × Bool) : Bool :=
  match format.reading line with
  | some .unloadable => true
  | _ => false

/-- The line ends `read_events`, or the loop over it. -/
def isMalformed (line : ByteLine × Bool) : Bool :=
  match format.reading line with
  | some .malformed | some .unloadable => true
  | _ => false

def record? (line : ByteLine × Bool) : Option Record :=
  match format.reading line with
  | some (.record record) => some record
  | _ => none

/-! ## The operations -/

/-- `append_event` of a record whose JSON is `text`; whether the table takes it does not matter. -/
def appendEvent (s : Files Record) (text : Str) : Option (Files Record) :=
  match format.read text with
  | .corrupt => none
  | _ => some { s with wal := s.wal.write (utf8 text, true), seen := utf8 text :: s.seen }

/-- The loop of `repair_wal` reaches the end of the log. -/
def reads (wal : TextFile) : Bool :=
  wal.decodes && wal.content.all fun line => !format.isUnloadable line

/-- Corrupt lines go to the dead-letter queue, and the others stay. -/
def repairWal (s : Files Record) : Files Record :=
  if format.reads s.wal then
    { s with
      dlq := s.dlq.writeAll (s.wal.content.filter fun line => format.isCorrupt line)
      wal := ({} : TextFile).writeAll (s.wal.content.filter fun line => !format.isCorrupt line) }
  else s

/-- `insert_request` for the records of `read_events`: the table, and the lines from the one that
    raises on. -/
def replayLines (table : List Record) : List (ByteLine × Bool) → List Record × List (ByteLine × Bool)
  | [] => (table, [])
  | line :: lines =>
    match format.reading line with
    | some (.record record) => replayLines (format.insert table record) lines
    | some .dropped | some .corrupt | none => replayLines table lines
    | some .malformed | some .unloadable => (table, line :: lines)

/-- The records of some lines that are not stored. -/
def unstored (table : List Record) (lines : List (ByteLine × Bool)) : List Record :=
  (lines.filterMap format.record?).filter fun record => !format.isStored table record

/-- The log is emptied unless it cannot be read or a line raises. -/
def recoverWal (s : Files Record) : Files Record :=
  if s.wal.decodes then
    match format.replayLines s.table s.wal.content with
    | (table, []) => { s with table, wal := {} }
    | (table, rest) => { s with table, missed := format.unstored table rest ++ s.missed }
  else { s with missed := format.unstored s.table s.wal.content ++ s.missed }

/-- The line stays in the queue: it is not JSON, or its record raises. -/
def remains (line : ByteLine × Bool) : Bool :=
  match format.reading line with
  | some (.record _) | some .dropped => false
  | _ => true

def replayDlq (s : Files Record) : Files Record :=
  if s.dlq.decodes then
    { s with
      table := (s.dlq.content.filterMap format.record?).foldl format.insert s.table
      dlq := ({} : TextFile).writeAll (s.dlq.content.filter format.remains) }
  else { s with missed := format.unstored s.table s.dlq.content ++ s.missed }

def maintenance : Machine (Files Record) Operation where
  step s
    | .appendEvent text => format.appendEvent s text
    | .repairWal => some (format.repairWal s)
    | .recoverWal => some (format.recoverWal s)
    | .replayDlq => some (format.replayDlq s)

def start (wal dlq : TextFile) (table : List Record) : Files Record :=
  { wal, dlq, table, seen := (wal.content ++ dlq.content).map Prod.fst, missed := [] }

/-! ## Nothing is lost -/

def LineKept (s : Files Record) (line : ByteLine) : Prop :=
  s.wal.Has line ∨ s.dlq.Has line ∨
    ∃ record, (decodeStrict line).map format.read = some (.record record) ∧
      format.isStored s.table record = true

/-- No line is lost, and no bad line has kept a recovery from another record. -/
structure NothingLost (s : Files Record) : Prop where
  kept : ∀ line ∈ s.seen, format.LineKept s line
  recovered : s.missed = []

/-- A recovery that empties the log finds records only, and one that stops at a malformed line
    leaves no record behind it that is not stored, by its event or further up in the log. -/
def Recoverable (table : List Record) (lines : List (ByteLine × Bool)) : Prop :=
  match lines.dropWhile (fun line => !format.isMalformed line) with
  | [] => ∀ line ∈ lines, (format.record? line).isSome = true
  | rest =>
    let before := lines.takeWhile fun line => !format.isMalformed line
    ∀ record ∈ rest.filterMap format.record?,
      format.isStored (table ++ before.filterMap format.record?) record = true

/-- The records of a file are stored already. -/
def AllStored (table : List Record) (lines : List (ByteLine × Bool)) : Prop :=
  ∀ record ∈ lines.filterMap format.record?, format.isStored table record = true

def isDropped (line : ByteLine × Bool) : Bool :=
  match format.reading line with
  | some .dropped => true
  | _ => false

/-- Nothing is written behind a line without newline, no line that is neither stored nor moved is
    taken out of a file, and no file is unreadable that holds a record to be recovered. -/
def Harmless (s : Files Record) : Operation → Prop
  | .appendEvent _ => s.wal.tail = []
  | .repairWal => format.reads s.wal = true →
    s.dlq.tail = [] ∨ ∀ line ∈ s.wal.content, format.isCorrupt line = false
  | .recoverWal =>
    if s.wal.decodes then format.Recoverable s.table s.wal.content
    else format.AllStored s.table s.wal.content
  | .replayDlq =>
    if s.dlq.decodes then ∀ line ∈ s.dlq.content, format.isDropped line = false
    else format.AllStored s.table s.dlq.content

instance (table : List Record) (lines : List (ByteLine × Bool)) :
    Decidable (format.Recoverable table lines) := by
  unfold Recoverable
  split <;> infer_instance

instance (table : List Record) (lines : List (ByteLine × Bool)) :
    Decidable (format.AllStored table lines) :=
  inferInstanceAs (Decidable (∀ _ ∈ _, _))

instance (s : Files Record) (operation : Operation) : Decidable (format.Harmless s operation) := by
  unfold Harmless
  split <;> infer_instance

/-! ## The table -/

theorem isStored_of_mem {table : List Record} {record : Record} (row : record ∈ table) :
    format.isStored table record = true := by
  simp [isStored, row]

omit [DecidableEq Record] in
theorem clashes_append (front back : List Record) (record : Record) :
    format.clashes (front ++ back) record =
      (format.clashes front record || format.clashes back record) := by
  simp [clashes, Bool.and_or_distrib_left]

theorem isStored_append (front back : List Record) (record : Record) :
    format.isStored (front ++ back) record =
      (format.isStored front record || format.isStored back record) := by
  simp only [isStored, clashes_append, List.mem_append, Bool.decide_or]
  cases decide (record ∈ front) <;> simp [Bool.or_left_comm]

theorem isStored_insert (table : List Record) (inserted record : Record) :
    format.isStored (format.insert table inserted) record =
      format.isStored (table ++ [inserted]) record := by
  by_cases clash : format.clashes table inserted = true
  · have ignored : format.insert table inserted = table := by simp [insert, clash]
    have covered : format.isStored [inserted] record = true →
        format.isStored table record = true := by
      intro stored
      simp only [isStored, clashes, List.mem_singleton, List.any_cons, List.any_nil, Bool.or_false,
        Bool.or_eq_true, Bool.and_eq_true, decide_eq_true_eq] at stored
      obtain same | ⟨_, sameEvent⟩ := stored
      · simp [isStored, same, clash]
      · simp only [clashes, sameEvent] at clash
        simp [isStored, clashes, clash]
    rw [ignored, isStored_append]
    by_cases stored : format.isStored [inserted] record = true
    · simp [covered stored]
    · simp [stored]
  · simp [insert, clash]

theorem isStored_foldl_insert (table records : List Record) (record : Record) :
    format.isStored (records.foldl format.insert table) record =
      format.isStored (table ++ records) record := by
  induction records generalizing table with
  | nil => simp
  | cons inserted records inductionHypothesis =>
    rw [List.foldl_cons, inductionHypothesis, isStored_append, isStored_insert, ← isStored_append,
      List.append_assoc, List.singleton_append]

theorem isStored_mono {table : List Record} {record : Record} (records : List Record)
    (stored : format.isStored table record = true) :
    format.isStored (records.foldl format.insert table) record = true := by
  rw [isStored_foldl_insert, isStored_append, stored, Bool.true_or]

theorem isStored_inserted {table records : List Record} {record : Record}
    (inserted : record ∈ records) :
    format.isStored (records.foldl format.insert table) record = true := by
  rw [isStored_foldl_insert, isStored_append, format.isStored_of_mem inserted, Bool.or_true]

omit [DecidableEq Record] in
/-- The records in front of the first malformed line are inserted. -/
theorem replayLines_eq (table : List Record) (lines : List (ByteLine × Bool)) :
    format.replayLines table lines =
      (((lines.takeWhile fun line => !format.isMalformed line).filterMap format.record?).foldl
          format.insert table,
        lines.dropWhile fun line => !format.isMalformed line) := by
  induction lines generalizing table with
  | nil => rfl
  | cons line lines inductionHypothesis =>
    cases read : format.reading line with
    | none => simp [replayLines, isMalformed, record?, read, inductionHypothesis]
    | some its =>
      cases its <;> simp [replayLines, isMalformed, record?, read, inductionHypothesis]

omit [DecidableEq Record] [DecidableEq EventId] in
theorem reading_of_record? {line : ByteLine × Bool} {record : Record}
    (found : format.record? line = some record) :
    format.reading line = some (.record record) := by
  rw [record?] at found
  split at found
  · next read =>
    cases found
    exact read
  · cases found

theorem decodeStrict_utf8 (text : Str) : decodeStrict (utf8 text) = some text := by
  rw [decodeStrict, decodeIgnore_utf8]
  exact if_pos rfl

omit [DecidableEq Record] [DecidableEq EventId] in
theorem appendEvent_cases {s s' : Files Record} {text : Str}
    (step : format.appendEvent s text = some s') :
    isBlank (utf8 text) = false ∧
      s' = { s with wal := s.wal.write (utf8 text, true), seen := utf8 text :: s.seen } := by
  rw [appendEvent] at step
  split at step
  · cases step
  · next notCorrupt =>
    cases step
    refine ⟨?_, rfl⟩
    rw [isBlank, decodeStrict_utf8]
    exact decide_eq_false fun blank => notCorrupt (format.read_blank text blank)

/-! ## The invariant -/

theorem lineKept_of_wal {s : Files Record} {line : ByteLine × Bool} (stays : line ∈ s.wal.content) :
    format.LineKept s line.1 :=
  .inl (List.mem_map_of_mem stays)

theorem lineKept_of_dlq {s : Files Record} {line : ByteLine × Bool} (stays : line ∈ s.dlq.content) :
    format.LineKept s line.1 :=
  .inr (.inl (List.mem_map_of_mem stays))

theorem lineKept_of_record {s : Files Record} {line : ByteLine × Bool} {record : Record}
    (found : format.record? line = some record)
    (stored : format.isStored s.table record = true) : format.LineKept s line.1 :=
  .inr (.inr ⟨record, format.reading_of_record? found, stored⟩)

theorem LineKept.transfer {s s' : Files Record} {line : ByteLine} (kept : format.LineKept s line)
    (wal : ∀ entry ∈ s.wal.content, format.LineKept s' entry.1)
    (dlq : ∀ entry ∈ s.dlq.content, format.LineKept s' entry.1)
    (table : ∀ record, format.isStored s.table record = true →
      format.isStored s'.table record = true) : format.LineKept s' line := by
  obtain inWal | inDlq | ⟨record, read, stored⟩ := kept
  · obtain ⟨entry, stays, rfl⟩ := List.mem_map.mp inWal
    exact wal entry stays
  · obtain ⟨entry, stays, rfl⟩ := List.mem_map.mp inDlq
    exact dlq entry stays
  · exact .inr (.inr ⟨record, read, table record stored⟩)

theorem nothingLost_appendEvent {s s' : Files Record} {text : Str} (inv : format.NothingLost s)
    (whole : s.wal.tail = []) (step : format.appendEvent s text = some s') :
    format.NothingLost s' := by
  obtain ⟨notBlank, rfl⟩ := format.appendEvent_cases step
  have content := TextFile.content_write whole notBlank
  refine ⟨fun other seen => ?_, inv.recovered⟩
  obtain rfl | seen := List.mem_cons.mp seen
  · refine format.lineKept_of_wal (?_ : (utf8 text, true) ∈ _)
    simp [content]
  · apply (inv.kept other seen).transfer
    · intro entry stays
      apply format.lineKept_of_wal
      simp [content, stays]
    · exact fun entry stays => format.lineKept_of_dlq stays
    · exact fun record stored => stored

omit [DecidableEq Record] [DecidableEq EventId] in
theorem content_repairWal {s : Files Record} (reads : format.reads s.wal = true) :
    (format.repairWal s).wal.content =
      s.wal.content.filter fun line => !format.isCorrupt line := by
  rw [repairWal, if_pos reads]
  exact TextFile.content_copy rfl s.wal fun line => !format.isCorrupt line

omit [DecidableEq Record] [DecidableEq EventId] in
theorem content_repairWal_dlq {s : Files Record} (reads : format.reads s.wal = true)
    (whole : s.dlq.tail = [] ∨ ∀ line ∈ s.wal.content, format.isCorrupt line = false) :
    (format.repairWal s).dlq.content = s.dlq.content ++
      s.wal.content.filter fun line => format.isCorrupt line := by
  rw [repairWal, if_pos reads]
  obtain whole | clean := whole
  · exact TextFile.content_copy whole s.wal _
  · have none : (s.wal.content.filter fun line => format.isCorrupt line) = [] :=
      List.filter_eq_nil_iff.mpr fun line stays => by simp [clean line stays]
    simp [none, TextFile.writeAll]

omit [DecidableEq Record] [DecidableEq EventId] in
theorem repairWal_frame (s : Files Record) :
    (format.repairWal s).table = s.table ∧ (format.repairWal s).seen = s.seen ∧
      (format.repairWal s).missed = s.missed := by
  rw [repairWal]
  split <;> exact ⟨rfl, rfl, rfl⟩

theorem nothingLost_repairWal {s : Files Record} (inv : format.NothingLost s)
    (harmless : format.Harmless s .repairWal) : format.NothingLost (format.repairWal s) := by
  by_cases reads : format.reads s.wal = true
  swap
  · rwa [repairWal, if_neg reads]
  obtain ⟨table, sameSeen, missed⟩ := format.repairWal_frame s
  refine ⟨fun line seen => ?_, missed.trans inv.recovered⟩
  rw [sameSeen] at seen
  apply (inv.kept line seen).transfer
  · intro entry stays
    by_cases corrupt : format.isCorrupt entry = true
    · apply format.lineKept_of_dlq
      rw [format.content_repairWal_dlq reads (harmless reads)]
      simp [stays, corrupt]
    · apply format.lineKept_of_wal
      rw [format.content_repairWal reads]
      simp [stays, corrupt]
  · intro entry stays
    apply format.lineKept_of_dlq
    rw [format.content_repairWal_dlq reads (harmless reads)]
    simp [stays]
  · intro record stored
    rwa [table]

/-- A file that cannot be read stays as it is, and none of its records is missed if all are stored. -/
theorem nothingLost_unread {s : Files Record} (inv : format.NothingLost s)
    {lines : List (ByteLine × Bool)} (stored : format.AllStored s.table lines) :
    format.NothingLost { s with missed := format.unstored s.table lines ++ s.missed } := by
  have none : format.unstored s.table lines = [] :=
    List.filter_eq_nil_iff.mpr fun record member => by simp [stored record member]
  rw [none, List.nil_append]
  exact inv

theorem recoverWal_cases {s : Files Record} (decodes : s.wal.decodes = true) :
    (s.wal.content.dropWhile (fun line => !format.isMalformed line) = [] ∧
        format.recoverWal s =
          { s with
            table := (s.wal.content.filterMap format.record?).foldl format.insert s.table
            wal := {} }) ∨
      ∃ rest table, s.wal.content.dropWhile (fun line => !format.isMalformed line) = rest ∧
        rest ≠ [] ∧
        table = ((s.wal.content.takeWhile fun line => !format.isMalformed line).filterMap
          format.record?).foldl format.insert s.table ∧
        format.recoverWal s =
          { s with table, missed := format.unstored table rest ++ s.missed } := by
  have split := List.takeWhile_append_dropWhile (p := fun line => !format.isMalformed line)
    (l := s.wal.content)
  cases left : s.wal.content.dropWhile fun line => !format.isMalformed line with
  | nil =>
    rw [left, List.append_nil] at split
    refine .inl ⟨rfl, ?_⟩
    rw [recoverWal, if_pos decodes, replayLines_eq, left, split]
  | cons line rest =>
    refine .inr ⟨_, _, rfl, List.cons_ne_nil _ _, rfl, ?_⟩
    rw [recoverWal, if_pos decodes, replayLines_eq, left]

theorem nothingLost_recoverWal {s : Files Record} (inv : format.NothingLost s)
    (harmless : format.Harmless s .recoverWal) : format.NothingLost (format.recoverWal s) := by
  simp only [Harmless] at harmless
  split at harmless
  swap
  · next unreadable =>
    rw [recoverWal, if_neg unreadable]
    exact format.nothingLost_unread inv harmless
  rename_i decodes
  have recoverable := harmless
  unfold Recoverable at recoverable
  obtain ⟨left, emptied⟩ | ⟨rest, table, left, more, rfl, stopped⟩ := format.recoverWal_cases decodes
  · -- every line is a record, and stored now
    rw [left] at recoverable
    rw [emptied]
    refine ⟨fun line seen => ?_, inv.recovered⟩
    apply (inv.kept line seen).transfer
    · intro entry stays
      obtain ⟨record, found⟩ := Option.isSome_iff_exists.mp (recoverable entry stays)
      apply format.lineKept_of_record found
      exact format.isStored_inserted (List.mem_filterMap.mpr ⟨entry, stays, found⟩)
    · exact fun entry stays => format.lineKept_of_dlq stays
    · exact fun record stored => format.isStored_mono _ stored
  · rw [left] at recoverable
    rw [stopped]
    refine ⟨fun line seen => ?_, ?_⟩
    · apply (inv.kept line seen).transfer
      · exact fun entry stays => format.lineKept_of_wal stays
      · exact fun entry stays => format.lineKept_of_dlq stays
      · exact fun record stored => format.isStored_mono _ stored
    · cases rest with
      | nil => exact absurd rfl more
      | cons line rest =>
        simp only [inv.recovered, List.append_nil, unstored]
        apply List.filter_eq_nil_iff.mpr
        intro record behind
        rw [isStored_foldl_insert, recoverable record behind]
        simp

omit [DecidableEq Record] [DecidableEq EventId] in
theorem remains_of_not_record {line : ByteLine × Bool} (none : format.record? line = none)
    (taken : format.isDropped line = false) : format.remains line = true := by
  rw [remains]
  split
  · next read => simp [record?, read] at none
  · next read => simp [isDropped, read] at taken
  · rfl

theorem nothingLost_replayDlq {s : Files Record} (inv : format.NothingLost s)
    (harmless : format.Harmless s .replayDlq) : format.NothingLost (format.replayDlq s) := by
  simp only [Harmless] at harmless
  split at harmless
  swap
  · next unreadable =>
    rw [replayDlq, if_neg unreadable]
    exact format.nothingLost_unread inv harmless
  next decodes =>
  rw [replayDlq, if_pos decodes]
  refine ⟨fun line seen => ?_, inv.recovered⟩
  apply (inv.kept line seen).transfer
  · exact fun entry stays => format.lineKept_of_wal stays
  · intro entry stays
    cases found : format.record? entry with
    | some record =>
      apply format.lineKept_of_record found
      exact format.isStored_inserted (List.mem_filterMap.mpr ⟨entry, stays, found⟩)
    | none =>
      -- a line that is neither a record nor dropped remains
      have remains := format.remains_of_not_record found (harmless entry stays)
      apply format.lineKept_of_dlq
      have copied := TextFile.content_copy (rfl : ({} : TextFile).tail = []) s.dlq format.remains
      simp only [copied]
      simp [stays, remains]
  · exact fun record stored => format.isStored_mono _ stored

theorem harmless_preserves : format.maintenance.Preserves format.Harmless format.NothingLost := by
  intro s operation s' inv harmless step
  cases operation with
  | appendEvent text => exact format.nothingLost_appendEvent inv harmless step
  | repairWal => cases step; exact format.nothingLost_repairWal inv harmless
  | recoverWal => cases step; exact format.nothingLost_recoverWal inv harmless
  | replayDlq => cases step; exact format.nothingLost_replayDlq inv harmless

theorem nothingLost_start (wal dlq : TextFile) (table : List Record) :
    format.NothingLost (start wal dlq table) := by
  refine ⟨fun line seen => ?_, rfl⟩
  obtain ⟨entry, stays, rfl⟩ := List.mem_map.mp seen
  obtain inWal | inDlq := List.mem_append.mp stays
  · exact format.lineKept_of_wal inWal
  · exact format.lineKept_of_dlq inDlq

/-- Whatever the files held, and in whatever order the procedures ran: no line that was put into a
    file is lost, provided that every operation was harmless. -/
theorem nothing_lost {wal dlq : TextFile} {table : List Record} {operations : List Operation}
    {s : Files Record}
    (harmless : format.maintenance.Guarded format.Harmless (start wal dlq table) operations)
    (ran : format.maintenance.run (start wal dlq table) operations = some s) :
    format.NothingLost s :=
  format.harmless_preserves.run _ (format.nothingLost_start wal dlq table) harmless ran

def sampleLine : Str :=
  "\x7b\"provider\": \"openai\", \"model\": \"gpt-4o\", \"request_path\": \"/v1\"\x7d"

def tornLine : Str := "\x7b\"provider\": \"ope"

def sampleFormat : LogFormat Unit Unit where
  read line := if line = sampleLine then .record () else .corrupt
  eventId _ := none
  read_blank := by
    intro line blank
    refine if_neg ?_
    rintro rfl
    revert blank
    decide

theorem nothing_lost_repaired :
    ∃ s, sampleFormat.maintenance.run (start { lines := [utf8 tornLine] } {} [])
        [.repairWal, .appendEvent sampleLine, .recoverWal, .replayDlq] = some s ∧
      sampleFormat.NothingLost s := by
  have harmless : sampleFormat.maintenance.Guarded sampleFormat.Harmless
      (start { lines := [utf8 tornLine] } {} [])
      [.repairWal, .appendEvent sampleLine, .recoverWal, .replayDlq] := by decide +kernel
  exact ⟨_, rfl, sampleFormat.nothing_lost harmless rfl⟩

/-- A recovery drops a torn line with the log. -/
theorem torn_line_lost :
    ∃ s, sampleFormat.maintenance.run (start { lines := [utf8 tornLine] } {} []) [.recoverWal] =
        some s ∧
      utf8 tornLine ∈ s.seen ∧ ¬ sampleFormat.LineKept s (utf8 tornLine) := by
  refine ⟨_, rfl, by decide +kernel, ?_⟩
  rintro (inWal | inDlq | ⟨record, read, stored⟩)
  · revert inWal
    decide +kernel
  · revert inDlq
    decide +kernel
  · have corrupt : sampleFormat.read tornLine = .corrupt := by decide
    rw [decodeStrict_utf8, Option.map_some, corrupt] at read
    cases read

end LogFormat

end BurnLens.Storage
