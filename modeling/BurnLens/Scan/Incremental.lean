import BurnLens.Scan.Importer
import Mathlib.Data.List.Pairwise

/-! # Incremental import

Scans of files that grow leave what one scan of the whole files leaves: in every run in which no
identifier occurs twice but for the same usage at no cost, and every entry can be imported.
-/

namespace BurnLens.Scan

open Library Cost Storage

section

variable {w : Importer} {day today : Date} {tool : Tool} {b : Billable} {s : ScanState}
  {rows : List ScanRow} {files : List SessionFile}

def Importer.cost (w : Importer) (day : Date) (tool : Tool) (b : Billable) : Flt :=
  match w.calculate day tool b with
  | .ok cost => cost
  | .error _ => .nan

def Importer.record (w : Importer) (day : Date) (tool : Tool) (b : Billable) : ScanRecord :=
  ⟨tool, b, w.cost day tool b⟩

def Free (w : Importer) (day : Date) (tool : Tool) (b : Billable) : Prop :=
  w.cost day tool b = .fin 0

/-- The entry has a cost, and its record can be inserted. -/
structure Importable (w : Importer) (day : Date) (tool : Tool) (b : Billable) : Prop where
  cost : w.calculate day tool b = .ok (w.cost day tool b)
  pricing : pricingColumns w.tables day (w.record day tool b).request = .ok ()
  bindable : ∀ column ∈ (w.record day tool b).request.required, bindable column.2 = true
  complete : (w.record day tool b).request.complete = true
  encodable : b.encodable = true

def Importer.billables (w : Importer) (tool : Tool) (files : List SessionFile) : List Billable :=
  (w.items tool files).filterMap Except.toOption

structure Clean (w : Importer) (day : Date) (tool : Tool) (files : List SessionFile) : Prop where
  readable : ∀ item ∈ w.items tool files, ∃ b, item = .ok b ∧ Importable w day tool b
  -- a repeated identifier is the same entry again, at no cost
  once : (w.billables tool files).Pairwise fun a b =>
    a.requestId = b.requestId → b = a ∧ Free w day tool b
  -- Gemini: a model costs nothing for all its entries, or for none
  priced : tool = .gemini → ∀ a ∈ w.billables tool files, ∀ b ∈ w.billables tool files,
    a.model = b.model → Free w day tool a → Free w day tool b

/-- Both days have the same prices. -/
structure SamePricing (w : Importer) (today day : Date) : Prop where
  cost : ∀ provider model usage,
    calculateCost w.tables today provider model usage = calculateCost w.tables day provider model usage
  columns : ∀ record, pricingColumns w.tables today record = pricingColumns w.tables day record

/-! ## One record -/

theorem source_injective {a b : Tool} (same : a.source = b.source) : a = b := by
  cases a <;> cases b <;> first | rfl | exact absurd same (by decide)

/-- The rows are of scans, each with an event id that was drawn. -/
structure Scanned (w : Importer) (drawn : Nat) (rows : List ScanRow) : Prop where
  source : ∀ row ∈ rows, row.stored.source = some row.record.tool.source
  requestId : ∀ row ∈ rows, row.stored.requestId = some row.record.billable.requestId
  eventId : ∀ row ∈ rows, ∃ i < drawn, row.stored.eventId = w.uuid7 i

theorem Scanned.mono {drawn drawn' : Nat} (scanned : Scanned w drawn rows) (later : drawn ≤ drawn') :
    Scanned w drawn' rows where
  source := scanned.source
  requestId := scanned.requestId
  eventId row stored := by
    obtain ⟨i, earlier, its⟩ := scanned.eventId row stored
    exact ⟨i, by omega, its⟩

theorem Scanned.concat {drawn : Nat} (scanned : Scanned w drawn rows) (record : ScanRecord)
    (id : Nat) :
    Scanned w (drawn + 1) (rows ++ [⟨⟨id, w.uuid7 drawn, some record.tool.source,
      some record.billable.requestId⟩, record⟩]) := by
  have before := scanned.mono (Nat.le_succ drawn)
  constructor <;> intro row stored <;> obtain old | new := List.mem_append.mp stored
  · exact before.source row old
  · cases List.mem_singleton.mp new; rfl
  · exact before.requestId row old
  · cases List.mem_singleton.mp new; rfl
  · exact before.eventId row old
  · cases List.mem_singleton.mp new; exact ⟨drawn, Nat.lt_succ_self _, rfl⟩

/-- Of what is stored, the insert of a record knows the rows with its key. -/
theorem alreadyStored_iff {drawn : Nat} (scanned : Scanned w drawn rows) (record : ScanRecord) :
    alreadyStored (rows.map ScanRow.stored) (w.uuid7 drawn) record.request = true ↔
      ∃ row ∈ rows, row.record.key = record.key := by
  have isScan : isScanSource record.tool.source = true := by cases record.tool <;> decide
  simp only [alreadyStored, List.any_map, List.any_eq_true, Function.comp_apply, Bool.or_eq_true,
    beq_iff_eq]
  apply exists_congr
  intro row
  apply and_congr_right
  intro stored
  have fresh : row.stored.eventId ≠ w.uuid7 drawn := by
    obtain ⟨i, earlier, its⟩ := scanned.eventId row stored
    rw [its]
    exact fun same => absurd (w.fresh same) (by omega)
  simp only [fresh, false_or, sameScan, scanned.source row stored, scanned.requestId row stored,
    ScanRecord.request, Option.map_some, Option.getD_some, isScan, Option.isSome_some,
    Bool.and_true, Bool.and_eq_true, beq_iff_eq, Option.some.injEq, ScanRecord.key, Prod.mk.injEq]
  exact and_congr_left fun _ => ⟨source_injective, congrArg _⟩

/-- What `warned_models` may have in it. -/
def Warned (w : Importer) (day : Date) (pool : List Billable) (warned : List Str) : Prop :=
  ∀ model ∈ warned, ∃ a ∈ pool, a.model = .str model ∧ Free w day .gemini a

theorem price_clean {pool : List Billable} {warned : List Str} (importable : Importable w day tool b)
    (member : b ∈ pool)
    (priced : tool = .gemini → ∀ a ∈ pool, ∀ b ∈ pool, a.model = b.model → Free w day tool a →
      Free w day tool b)
    (known : tool = .gemini → Warned w day pool warned) :
    ∃ warned', w.price day tool warned b = .ok (w.cost day tool b, warned') ∧
      (tool = .gemini → Warned w day pool warned') := by
  unfold Importer.price
  split
  · next model named =>
    split
    · next before =>
      obtain ⟨a, inPool, its, free⟩ := known rfl model before
      have free' : w.cost day .gemini b = .fin 0 :=
        priced rfl a inPool b member (its.trans named.symm) free
      exact ⟨warned, by rw [free']; rfl, known⟩
    · refine ⟨if w.cost day .gemini b = .fin 0 then model :: warned else warned, ?_, fun _ => ?_⟩
      · rw [importable.cost]
        rfl
      · split
        · next free =>
          intro other added
          obtain rfl | before := List.mem_cons.mp added
          · exact ⟨b, member, named, free⟩
          · exact known rfl other before
        · exact known rfl
  · refine ⟨warned, ?_, known⟩
    rw [importable.cost]
    rfl

theorem insertRequest_importable {drawn : Nat} (importable : Importable w day tool b) :
    insertRequest w.tables day (w.uuid7 drawn) (rows.map ScanRow.stored)
        (w.record day tool b).request =
      if alreadyStored (rows.map ScanRow.stored) (w.uuid7 drawn) (w.record day tool b).request then
        .ok (rows.map ScanRow.stored, 0)
      else .ok (rows.map ScanRow.stored ++
        [⟨rows.length + 1, w.uuid7 drawn, some tool.source, some b.requestId⟩], rows.length + 1) := by
  have binds : ((w.record day tool b).request.required.all fun column =>
      Storage.bindable column.2) = true := List.all_eq_true.mpr importable.bindable
  have nullable : (w.record day tool b).request.nullable.all Storage.bindable = true := rfl
  have encodable : (w.record day tool b).request.encodable = true := importable.encodable
  simp only [insertRequest, importable.pricing, binds, nullable, encodable, importable.complete, bind,
    Except.bind, Bool.not_true, Bool.false_or, List.length_map]
  rfl

/-- An importable entry is inserted as a store of first entries does it. -/
theorem importBillable_clean {warned : List Str} (importable : Importable w day tool b)
    (prices : w.price day tool s.warned b = .ok (w.cost day tool b, warned))
    (scanned : Scanned w s.drawn s.rows) :
    ∃ s', w.importBillable day tool s b = (s', none) ∧
      s'.rows.map ScanRow.record =
        insertNew ScanRecord.key (s.rows.map ScanRow.record) (w.record day tool b) ∧
      Scanned w s'.drawn s'.rows ∧ s'.warned = warned ∧
      s'.result.totalCostUsd = s.result.totalCostUsd.add (w.cost day tool b) := by
  have inserts : insertRequest w.tables day (w.uuid7 s.drawn) (s.rows.map ScanRow.stored)
      (w.record day tool b).request = _ := insertRequest_importable importable
  unfold Importer.importBillable
  by_cases ignored : alreadyStored (s.rows.map ScanRow.stored) (w.uuid7 s.drawn)
      (w.record day tool b).request = true
  · rw [if_pos ignored, Importer.record] at inserts
    simp only [prices, inserts]
    refine ⟨_, rfl, ?_, scanned.mono (Nat.le_succ _), rfl, rfl⟩
    obtain ⟨row, stored, same⟩ := (alreadyStored_iff scanned (w.record day tool b)).mp ignored
    exact (insertNew_of_known ⟨row.record, List.mem_map_of_mem stored, same⟩).symm
  · have kept := inserts
    rw [if_neg ignored, Importer.record] at kept
    simp only [prices, kept]
    refine ⟨_, rfl, ?_, ?_, rfl, rfl⟩
    · rw [List.map_append, insertNew_of_new]
      · rfl
      · intro record stored same
        obtain ⟨row, member, rfl⟩ := List.mem_map.mp stored
        exact ignored ((alreadyStored_iff scanned (w.record day tool b)).mpr ⟨row, member, same⟩)
    · exact scanned.concat (w.record day tool b) _

/-! ## A scan -/

theorem importItems_clean {pool bs : List Billable} (inPool : bs ⊆ pool)
    (importable : ∀ b ∈ bs, Importable w day tool b)
    (priced : tool = .gemini → ∀ a ∈ pool, ∀ b ∈ pool, a.model = b.model → Free w day tool a →
      Free w day tool b)
    (known : tool = .gemini → Warned w day pool s.warned) (scanned : Scanned w s.drawn s.rows) :
    ∃ s', w.importItems day tool s (bs.map .ok) = (s', none) ∧
      s'.rows.map ScanRow.record =
        importAll ScanRecord.key (s.rows.map ScanRow.record) (bs.map (w.record day tool)) ∧
      Scanned w s'.drawn s'.rows ∧
      s'.result.totalCostUsd =
        bs.foldl (fun sum b => sum.add (w.cost day tool b)) s.result.totalCostUsd := by
  induction bs generalizing s with
  | nil => exact ⟨s, rfl, rfl, scanned, rfl⟩
  | cons b bs inductionHypothesis =>
    have first := importable b List.mem_cons_self
    obtain ⟨warned, prices, known'⟩ :=
      price_clean first (inPool List.mem_cons_self) priced known
    obtain ⟨s', imports, rows, scanned', its, sum⟩ := importBillable_clean first prices scanned
    obtain ⟨s'', rest, rows', scanned'', sum'⟩ :=
      inductionHypothesis (fun b member => inPool (List.mem_cons_of_mem _ member))
        (fun b member => importable b (List.mem_cons_of_mem _ member)) (its ▸ known') scanned'
    refine ⟨s'', ?_, ?_, scanned'', ?_⟩
    · rw [List.map_cons, Importer.importItems, imports]
      exact rest
    · rw [rows', rows]
      rfl
    · rw [sum', sum]
      rfl

theorem Clean.items_eq (clean : Clean w day tool files) :
    w.items tool files = (w.billables tool files).map .ok := by
  have each := clean.readable
  rw [Importer.billables]
  generalize w.items tool files = items at each
  induction items with
  | nil => rfl
  | cons item items inductionHypothesis =>
    obtain ⟨b, rfl, _⟩ := each item List.mem_cons_self
    rw [List.filterMap_cons]
    exact congrArg (Except.ok b :: ·) (inductionHypothesis fun item member =>
      each item (List.mem_cons_of_mem _ member))

theorem Clean.importable (clean : Clean w day tool files) :
    ∀ b ∈ w.billables tool files, Importable w day tool b := by
  intro b member
  have readable : Except.ok b ∈ w.items tool files := by
    rw [clean.items_eq]
    exact List.mem_map_of_mem member
  obtain ⟨_, same, importable⟩ := clean.readable _ readable
  cases same
  exact importable

/-- A scan of clean files adds their records to the store, and ends. -/
theorem scan_clean {drawn : Nat} (clean : Clean w day tool files) (scanned : Scanned w drawn rows) :
    ∃ s', w.scan day tool files rows drawn = (s', none) ∧
      s'.rows.map ScanRow.record = importAll ScanRecord.key (rows.map ScanRow.record)
        ((w.billables tool files).map (w.record day tool)) ∧
      Scanned w s'.drawn s'.rows ∧
      s'.result.totalCostUsd =
        (w.billables tool files).foldl (fun sum b => sum.add (w.cost day tool b)) (.fin 0) := by
  rw [Importer.scan, clean.items_eq]
  exact importItems_clean (List.Subset.refl _) clean.importable clean.priced
    (fun _ model none => absurd none List.not_mem_nil) scanned

theorem Clean.same {a b : Billable} (clean : Clean w day tool files)
    (inFirst : a ∈ w.billables tool files) (inSecond : b ∈ w.billables tool files)
    (same : a.requestId = b.requestId) : a = b := by
  have agree : (w.billables tool files).Pairwise fun a b => a.requestId = b.requestId → a = b :=
    clean.once.imp fun once same => (once same).1.symm
  have : Std.Symm fun a b : Billable => a.requestId = b.requestId → a = b :=
    ⟨fun _ _ forward same => (forward same.symm).symm⟩
  exact List.Pairwise.forall_of_forall (fun _ _ _ => rfl) agree inFirst inSecond same

theorem sameByKey (clean : Clean w day tool files) :
    SameByKey ScanRecord.key ((w.billables tool files).map (w.record day tool)) := by
  intro first inFirst second inSecond same
  obtain ⟨a, member, rfl⟩ := List.mem_map.mp inFirst
  obtain ⟨b, member', rfl⟩ := List.mem_map.mp inSecond
  rw [clean.same member member' (congrArg Prod.snd same)]

theorem scan_samePricing (same : SamePricing w today day) (drawn : Nat) :
    w.scan today tool files rows drawn = w.scan day tool files rows drawn := by
  have calculates : w.calculate today = w.calculate day := by
    funext tool b
    exact same.cost _ _ _
  have billable : w.importBillable today tool = w.importBillable day tool := by
    funext s b
    simp only [Importer.importBillable, Importer.price, calculates, insertRequest, same.columns]
  have items : ∀ items s, w.importItems today tool s items = w.importItems day tool s items := by
    intro items
    induction items with
    | nil => exact fun s => rfl
    | cons item items inductionHypothesis =>
      intro s
      cases item with
      | error error => rfl
      | ok b => simp only [Importer.importItems, billable, inductionHypothesis]
  exact items _ _

/-! ## Runs -/

/-- The logs that a step leaves are clean, a torn line is unfinished, and a scan finds the prices
    of the day. -/
def Orderly (w : Importer) (day : Date) (s : ImportState) : ImportStep → Prop
  | .append tool index line => ∀ file ∈ s.growing tool index line,
    Clean w day tool ((s.files tool).set index (file.appendLine line))
  | .tear _ _ text => Unfinished w.python text
  | .scan _ today => SamePricing w today day

def recordsOf (w : Importer) (day : Date) (s : ImportState) (tool : Tool) : List ScanRecord :=
  (w.billables tool (s.files tool)).map (w.record day tool)

structure Sound (w : Importer) (day : Date) (s : ImportState) : Prop where
  clean : ∀ tool, Clean w day tool (s.files tool)
  unfinished : ∀ tool, ∀ file ∈ s.files tool, Unfinished w.python file.torn
  scanned : Scanned w s.drawn s.rows
  distinct : ((s.rows.map ScanRow.record).map ScanRecord.key).Nodup
  stored : ∀ record ∈ s.rows.map ScanRow.record, record ∈ recordsOf w day s record.tool

theorem files_setFile {s : ImportState} {index : Nat} {file : SessionFile} :
    (s.setFile tool index file).files tool = (s.files tool).set index file := if_pos rfl

theorem files_setFile_of_ne {s : ImportState} {index : Nat} {file : SessionFile} {other : Tool}
    (apart : other ≠ tool) : (s.setFile tool index file).files other = s.files other := if_neg apart

/-- A file that yields at least what it did, in the place of the old one. -/
theorem items_set {index : Nat} {file file' : SessionFile} (there : files[index]? = some file)
    (grows : tool.items w.python file ⊆ tool.items w.python file') :
    w.items tool files ⊆ w.items tool (files.set index file') := by
  intro item member
  obtain ⟨source, inFiles, yielded⟩ := List.mem_flatMap.mp member
  obtain ⟨i, its⟩ := List.mem_iff_getElem?.mp inFiles
  by_cases same : i = index
  · subst same
    rw [there] at its
    cases its
    have small : i < files.length := (List.getElem?_eq_some_iff.mp there).1
    exact List.mem_flatMap.mpr ⟨file', List.mem_set small file', grows yielded⟩
  · have kept : (files.set index file')[i]? = some source := by
      rw [List.getElem?_set_ne (Ne.symm same), its]
    exact List.mem_flatMap.mpr ⟨source, List.mem_of_getElem? kept, yielded⟩

theorem items_set_same {index : Nat} {file file' : SessionFile} (there : files[index]? = some file)
    (same : tool.items w.python file' = tool.items w.python file) :
    w.items tool (files.set index file') = w.items tool files := by
  have small := (List.getElem?_eq_some_iff.mp there).1
  have its := (List.getElem?_eq_some_iff.mp there).2
  rw [Importer.items, Importer.items, List.flatMap_def, List.flatMap_def, List.map_set, same, ← its]
  congr 1
  apply List.ext_getElem?
  intro i
  rw [List.getElem?_set]
  split
  · next here => subst here; simp [small]
  · rfl

theorem Sound.setFile {s : ImportState} {index : Nat} {file file' : SessionFile}
    (sound : Sound w day s) (there : (s.files tool)[index]? = some file)
    (clean : Clean w day tool ((s.files tool).set index file'))
    (unfinished : Unfinished w.python file'.torn)
    (grows : tool.items w.python file ⊆ tool.items w.python file') :
    Sound w day (s.setFile tool index file') where
  clean other := by
    by_cases same : other = tool
    · subst same
      rw [files_setFile]
      exact clean
    · rw [files_setFile_of_ne same]
      exact sound.clean other
  unfinished other source member := by
    by_cases same : other = tool
    · subst same
      rw [files_setFile] at member
      obtain old | rfl := List.mem_or_eq_of_mem_set member
      · exact sound.unfinished other source old
      · exact unfinished
    · rw [files_setFile_of_ne same] at member
      exact sound.unfinished other source member
  scanned := sound.scanned
  distinct := sound.distinct
  stored record member := by
    have before := sound.stored record member
    by_cases same : record.tool = tool
    · simp only [recordsOf, same, files_setFile] at before ⊢
      obtain ⟨b, billable, its⟩ := List.mem_map.mp before
      refine List.mem_map.mpr ⟨b, ?_, its⟩
      obtain ⟨item, inItems, reads⟩ := List.mem_filterMap.mp billable
      exact List.mem_filterMap.mpr ⟨item, items_set there grows inItems, reads⟩
    · simp only [recordsOf, files_setFile_of_ne same] at before ⊢
      exact before

theorem growing_some {s : ImportState} {index : Nat} {text : Str} {file : SessionFile}
    (grows : s.growing tool index text = some file) :
    (s.files tool)[index]? = some file ∧ (file.isJson = true → file.lines = []) := by
  obtain ⟨there, allowed⟩ := Option.filter_eq_some_iff.mp grows
  refine ⟨there, fun document => ?_⟩
  simp only [document, Bool.not_true, Bool.false_or, Bool.and_eq_true, List.isEmpty_iff] at allowed
  exact allowed.2

/-- What a scan leaves: exactly the records of the files it read, and what others had stored. -/
theorem Sound.scan {s : ImportState} (sound : Sound w day s) (tool : Tool) :
    let scanned := (w.scan day tool (s.files tool) s.rows s.drawn).1
    Sound w day { s with rows := scanned.rows, drawn := scanned.drawn } ∧
      ∀ record, record.tool = tool →
        (record ∈ scanned.rows.map ScanRow.record ↔ record ∈ recordsOf w day s tool) := by
  obtain ⟨s', scans, rows, scanned, _⟩ := scan_clean (sound.clean tool) sound.scanned
  simp only [scans]
  have from' : ∀ record ∈ s'.rows.map ScanRow.record, record ∈ recordsOf w day s record.tool := by
    intro record member
    rw [rows] at member
    obtain old | new := mem_of_mem_importAll member
    · exact sound.stored record old
    · have its : record.tool = tool := by
        obtain ⟨b, _, rfl⟩ := List.mem_map.mp new
        rfl
      rw [its]
      exact new
  refine ⟨⟨sound.clean, sound.unfinished, scanned, ?_, from'⟩, fun record its => ⟨fun member => ?_,
    fun member => ?_⟩⟩
  · rw [rows]
    exact nodup_importAll sound.distinct
  · rw [← its]
    exact from' record member
  · obtain ⟨row, stored, same⟩ : ∃ row ∈ s'.rows.map ScanRow.record, row.key = record.key := by
      rw [rows]
      exact key_mem_importAll member
    have source : row.tool = tool := (congrArg Prod.fst same).trans its
    have known := from' row stored
    rw [source] at known
    rw [← sameByKey (sound.clean tool) row known record member same]
    exact stored

theorem sound_step : (imports w).Preserves (Orderly w day) (Sound w day) := by
  intro s step s' sound orderly stepped
  cases step with
  | append tool index line =>
    obtain ⟨file, grows, rfl⟩ := Option.map_eq_some_iff.mp stepped
    obtain ⟨there, single⟩ := growing_some grows
    have unfinished := sound.unfinished tool file (List.mem_of_getElem? there)
    exact sound.setFile there (orderly file grows) unfinished_nil
      (items_appendLine unfinished single).subset
  | tear tool index text =>
    obtain ⟨file, grows, rfl⟩ := Option.map_eq_some_iff.mp stepped
    obtain ⟨there, single⟩ := growing_some grows
    have same : tool.items w.python { file with torn := text } = tool.items w.python file :=
      items_torn (sound.unfinished tool file (List.mem_of_getElem? there)) orderly single
    have unfinished : Unfinished w.python ({ file with torn := text } : SessionFile).torn := orderly
    apply sound.setFile there _ unfinished (same ▸ List.Subset.refl _)
    have clean := sound.clean tool
    have items := items_set_same there same
    constructor
    · rw [items]
      exact clean.readable
    · rw [Importer.billables, items]
      exact clean.once
    · rw [Importer.billables, items]
      exact clean.priced
  | scan tool today =>
    cases stepped
    rw [scan_samePricing orderly]
    exact (sound.scan tool).1

theorem sound_fresh {start : ImportState} (fresh : start.Fresh) : Sound w day start := by
  have nothing : ∀ tool, w.items tool (start.files tool) = [] := by
    intro tool
    apply List.flatMap_eq_nil_iff.mpr
    intro file member
    obtain ⟨lines, torn⟩ := fresh.empty tool file member
    have noEntries : file.entries w.python = [] := by
      rw [entries_unfinished (by rw [torn]; exact unfinished_nil), lines]
      rfl
    have noDocument : file.geminiDocument w.python = [] :=
      geminiDocument_unfinished (by rw [torn]; exact unfinished_nil) lines
    cases tool with
    | claude => simp [Tool.items, noEntries, SessionFile.readEntries]
    | codex => simp [Tool.items, noEntries, SessionFile.readEntries]
    | gemini => simp [Tool.items, noEntries, noDocument, SessionFile.readEntries]
  refine ⟨fun tool => ⟨?_, ?_, ?_⟩, fun tool file member => ?_, ⟨?_, ?_, ?_⟩, ?_, ?_⟩
  · rw [nothing]
    exact fun _ member => absurd member List.not_mem_nil
  · rw [Importer.billables, nothing]
    exact List.Pairwise.nil
  · rw [Importer.billables, nothing]
    exact fun _ _ member => absurd member List.not_mem_nil
  · rw [(fresh.empty tool file member).2]
    exact unfinished_nil
  all_goals rw [fresh.rows]
  all_goals simp

theorem add_free (sum : Flt) : sum.add (.fin 0) = sum := by
  cases sum with
  | fin x => exact congrArg Flt.fin (add_zero x)
  | inf negative => rfl
  | nan => rfl

/-- Incremental import equals one full import, in every run of orderly steps that ends with a
    scan. -/
theorem incremental_import {start s : ImportState} {steps : List ImportStep} (fresh : start.Fresh)
    (ran : (imports w).run start (steps ++ [ImportStep.scan tool today]) = some s)
    (orderly : (imports w).Guarded (Orderly w day) start (steps ++ [ImportStep.scan tool today])) :
    let full := w.scan day tool (s.files tool) [] 0
    full.2 = none ∧
    (∀ record, record.tool = tool →
      (record ∈ s.rows.map ScanRow.record ↔ record ∈ full.1.rows.map ScanRow.record)) ∧
    (∀ b ∈ w.billables tool (s.files tool),
      (s.rows.map ScanRow.record).filter (fun record => record.key = (tool, b.requestId)) =
        [w.record day tool b]) ∧
    full.1.result.totalCostUsd =
      (full.1.rows.map ScanRow.record).foldl (fun sum record => sum.add record.costUsd) (.fin 0) := by
  rw [Machine.run_concat, Option.bind_eq_some_iff] at ran
  obtain ⟨before, reached, last⟩ := ran
  have sound : Sound w day before :=
    sound_step.run _ (sound_fresh fresh) (Machine.guarded_append _ orderly).1 reached
  have same : SamePricing w today day := (Machine.guarded_append _ orderly).2 before reached |>.1
  cases last
  rw [scan_samePricing same]
  obtain ⟨after, rows⟩ := sound.scan tool
  have clean := sound.clean tool
  have new : Scanned w 0 [] := ⟨by simp, by simp, by simp⟩
  obtain ⟨full, scans, stored, _, sum⟩ := scan_clean clean new
  rw [List.map_nil] at stored
  simp only [scans]
  refine ⟨trivial, fun record its => ?_, fun b member => ?_, ?_⟩
  · rw [rows record its, stored, mem_importAll (sameByKey clean) (List.nil_subset _)
      (List.Subset.refl _)]
    simp [recordsOf]
  · exact filter_key after.distinct ((rows _ rfl).mpr (List.mem_map_of_mem member))
  · rw [stored, sum, foldl_importAll, List.foldl_map]
    · rfl
    · apply List.pairwise_map.mpr
      refine clean.once.imp ?_
      intro a b once keyed sum
      have free := (once (congrArg Prod.snd keyed)).2
      rw [Free] at free
      simp only [Importer.record, free, add_free]

end

/-! ## A message that grows -/

def assistantLine (messageId tokens : Str) : Str :=
  "\x7b\"type\":\"assistant\",\"message\":\x7b\"id\":\"" ++ messageId ++
    "\",\"model\":\"claude\",\"usage\":\x7b\"output_tokens\":" ++ tokens ++ "\x7d\x7d\x7d"

def assistantEntry (messageId : Str) (tokens : Int) : Json :=
  .obj [("type", .str "assistant"), ("message", .obj [("id", .str messageId),
    ("model", .str "claude"), ("usage", .obj [("output_tokens", .int tokens)])])]

def assistantPython : Python where
  loads text :=
    if text = assistantLine "m" "10" then some (assistantEntry "m" 10)
    else if text = assistantLine "m" "20" then some (assistantEntry "m" 20)
    else if text = assistantLine "n" "5" then some (assistantEntry "n" 5)
    else if text = assistantLine "o" "7" then some (assistantEntry "o" 7)
    else none
  str
    | .str text => text
    | _ => []
  parseInt _ := none
  empty := ⟨rfl, rfl⟩

def dollarTokens : Importer where
  python := assistantPython
  tables _ := [("claude", { rates := { outputPerMillion := some 1000000 } })]
  uuid7 i := List.replicate i '0'
  fresh := zeros_injective

def assistantSession (lines : List Str) : SessionFile := { sessionId := "s", lines }

/-- The usage that a message has grown to is lost, and told in the total. -/
theorem growth_lost :
    let growing := assistantSession [assistantLine "m" "10", assistantLine "m" "20"]
    let full := (dollarTokens.scan 0 .claude [growing] [] 0).1
    (full.rows.map fun row => (row.record.billable.requestId, row.record.billable.outputTokens,
        row.record.costUsd)) = [(("m" : Str), 10, .fin 10)] ∧
      full.result.totalCostUsd = .fin 30 ∧
      ((dollarTokens.billables .claude [growing]).map fun b =>
        (b.requestId, b.outputTokens)) = [(("m" : Str), 10), (("m" : Str), 20)] := by
  decide +kernel

def assistantBillable (messageId : Str) (tokens : Int) : Billable where
  requestId := messageId
  model := .str "claude"
  inputTokens := 0
  outputTokens := tokens
  cacheReadTokens := 0

def assistantBillables : List Billable :=
  [assistantBillable "m" 10, assistantBillable "n" 5, assistantBillable "o" 7]

theorem importable_assistant : ∀ b ∈ assistantBillables, Importable dollarTokens 0 .claude b := by
  have each : ∀ b ∈ assistantBillables,
      dollarTokens.calculate 0 .claude b = .ok (.fin b.outputTokens) ∧
        pricingColumns dollarTokens.tables 0 (ScanRecord.request ⟨.claude, b, .fin b.outputTokens⟩) =
          .ok () ∧
        ((ScanRecord.request ⟨.claude, b, .fin b.outputTokens⟩).required.all fun column =>
          bindable column.2 && !bindsNull column.2) = true ∧ b.encodable = true := by
    decide +kernel
  intro b member
  obtain ⟨priced, pricing, columns, encodable⟩ := each b member
  have cost : dollarTokens.cost 0 .claude b = .fin b.outputTokens := by
    simp only [Importer.cost, priced]
  simp only [List.all_eq_true, Bool.and_eq_true] at columns
  constructor
  · rw [cost, priced]
  · rw [Importer.record, cost]
    exact pricing
  · rw [Importer.record, cost]
    exact fun column listed => (columns column listed).1
  · rw [Importer.record, cost]
    exact List.all_eq_true.mpr fun column listed => (columns column listed).2
  · exact encodable

theorem clean_assistant {lines : List Str} {bs : List Billable}
    (items : dollarTokens.items .claude [assistantSession lines] = bs.map .ok)
    (grown : bs <+: assistantBillables) :
    Clean dollarTokens 0 .claude [assistantSession lines] := by
  have distinct : assistantBillables.Pairwise fun a b => a.requestId ≠ b.requestId := by decide
  have billables : dollarTokens.billables .claude [assistantSession lines] = bs := by
    rw [Importer.billables, items, List.filterMap_map]
    exact List.filterMap_some
  refine ⟨fun item member => ?_, ?_, nofun⟩
  · rw [items] at member
    obtain ⟨b, listed, rfl⟩ := List.mem_map.mp member
    exact ⟨b, rfl, importable_assistant b (grown.subset listed)⟩
  · rw [billables]
    exact (distinct.sublist grown.sublist).imp fun apart same => absurd same apart

/-- Lines are appended, one of them in two pieces, and the files scanned meanwhile. -/
def assistantSteps : List ImportStep :=
  [.append .claude 0 (assistantLine "m" "10"), .scan .claude 0, .tear .claude 0 "\x7b",
    .scan .claude 0, .append .claude 0 (assistantLine "n" "5"), .scan .claude 0,
    .append .claude 0 (assistantLine "o" "7")]

def assistantStart : ImportState where
  files tool := if tool = .claude then [assistantSession []] else []

theorem fresh_assistant : assistantStart.Fresh := by
  refine ⟨fun tool file member => ?_, rfl⟩
  cases tool with
  | claude => cases List.mem_singleton.mp member; exact ⟨rfl, rfl⟩
  | codex => cases member
  | gemini => cases member

theorem orderly_assistant : (imports dollarTokens).Guarded (Orderly dollarTokens 0) assistantStart
    (assistantSteps ++ [ImportStep.scan .claude 0]) := by
  have same : SamePricing dollarTokens 0 0 := ⟨fun _ _ _ => rfl, fun _ => rfl⟩
  refine ⟨fun file grows => ?_, fun s₁ first => ?_⟩
  · cases grows
    exact @clean_assistant _ [assistantBillable "m" 10] rfl ⟨_, rfl⟩
  cases first
  refine ⟨same, fun s₂ second => ?_⟩
  cases second
  refine ⟨?_, fun s₃ third => ?_⟩
  · have stripped : strip "\x7b" = "\x7b".toList := by decide +kernel
    have passes : dollarTokens.python.Passes "\x7b" := by
      have noObject : dollarTokens.python.loads "\x7b" = none := by decide +kernel
      exact ⟨rfl, fun entry => by rw [noObject]; exact nofun⟩
    exact ⟨stripped.symm ▸ passes, passes⟩
  cases third
  refine ⟨same, fun s₄ fourth => ?_⟩
  cases fourth
  refine ⟨fun file grows => ?_, fun s₅ fifth => ?_⟩
  · cases grows
    exact @clean_assistant _ [assistantBillable "m" 10, assistantBillable "n" 5] rfl ⟨_, rfl⟩
  cases fifth
  refine ⟨same, fun s₆ sixth => ?_⟩
  cases sixth
  refine ⟨fun file grows => ?_, fun s₇ seventh => ⟨same, fun _ _ => trivial⟩⟩
  cases grows
  exact @clean_assistant _ assistantBillables rfl ⟨[], rfl⟩

theorem assistant_imported :
    ∃ s, (imports dollarTokens).run assistantStart (assistantSteps ++ [ImportStep.scan .claude 0]) = some s ∧
      (∀ record, record.tool = .claude → (record ∈ s.rows.map ScanRow.record ↔ record ∈
        (dollarTokens.scan 0 .claude (s.files .claude) [] 0).1.rows.map ScanRow.record)) ∧
      (dollarTokens.scan 0 .claude (s.files .claude) [] 0).1.result.totalCostUsd = .fin 22 := by
  refine ⟨_, rfl, ?_⟩
  obtain ⟨-, stored, -, total⟩ := @incremental_import dollarTokens 0 0 .claude assistantStart _
    assistantSteps fresh_assistant rfl orderly_assistant
  refine ⟨stored, ?_⟩
  rw [total]
  decide +kernel

end BurnLens.Scan
